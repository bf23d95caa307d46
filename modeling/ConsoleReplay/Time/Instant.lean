import ConsoleReplay.Time.Calendar

/-!
# Instants

An instant is a day, a second of the day and a nanosecond, in universal time.  A
leap second is told as the second before it with a nanosecond of one thousand
million or more, so that it comes after that second and before the next.

## Main definitions

* `Instant` — a point in time.
* `Instant.before` — the order of instants.
* `Instant.since a b` — the time from `b` to `a` in nanoseconds.
* `Instant.millisecondsSince` — the same in whole milliseconds.
* `Instant.isTellableDay` — a day lies in the years that can be told.
* `Instant.ofSeconds?`, `Instant.addMilliseconds?` — making instants.
-/

namespace ConsoleReplay

/-- A point in time, by day, second of the day and nanosecond.  A leap second is kept as a
nanosecond number of a second or more. -/
structure Instant where
  /-- Days since 1 January 1970. -/
  day : Int
  /-- Second of the day. -/
  second : Nat
  /-- Nanosecond, past one thousand million in a leap second. -/
  nanosecond : Nat
  deriving DecidableEq, Repr

namespace Instant

/-- The start of 1 January 1970. -/
def epoch : Instant := ⟨0, 0, 0⟩

instance : Inhabited Instant := ⟨epoch⟩

/-- Nanoseconds in a second. -/
def nanosPerSecond : Nat := 1000000000

/-- Nanoseconds in a millisecond. -/
def nanosPerMilli : Nat := 1000000

/-- Seconds in a day. -/
def secondsPerDay : Nat := 86400

/-- Whether an instant comes before another: by day, then by second, then by
nanosecond. -/
def before (a b : Instant) : Bool :=
  a.day < b.day || (a.day = b.day && (a.second < b.second
    || (a.second = b.second && a.nanosecond < b.nanosecond)))

/-- The whole seconds between the times of day of two instants.  A leap second that has begun counts
where the other time of day lies past it, whatever the days are. -/
def secondsOfDaySince (a b : Instant) : Int :=
  let seconds : Int := (a.second : Int) - b.second
  if b.second < a.second ∧ nanosPerSecond ≤ b.nanosecond then seconds + 1
  else if a.second < b.second ∧ nanosPerSecond ≤ a.nanosecond then seconds - 1
  else seconds

/-- The time from one instant to another, in nanoseconds: the days between them and the time between
their times of day.  All days are counted as equally long, so a leap second at the end of one is not
counted on the next. -/
def since (a b : Instant) : Int :=
  ((a.day - b.day) * secondsPerDay + secondsOfDaySince a b) * nanosPerSecond
    + ((a.nanosecond : Int) - b.nanosecond)

/-- The time from one instant to another in milliseconds, cut off toward zero. -/
def millisecondsSince (a b : Instant) : Int := Int.tdiv (a.since b) nanosPerMilli

/-- The first year that can be told. -/
def minYear : Int := -262143

/-- The last year that can be told. -/
def maxYear : Int := 262142

/-- Whether a day lies in the years that can be told. -/
def isTellableDay (day : Int) : Bool :=
  let date := Date.ofDay day
  minYear ≤ date.year && date.year ≤ maxYear

/-- The instant a number of nanoseconds after the start of 1 January 1970, if it
lies in the years that can be told. -/
def ofNanoseconds? (n : Int) : Option Instant :=
  let seconds := n / nanosPerSecond
  let day := seconds / secondsPerDay
  if isTellableDay day then
    some ⟨day, (seconds % secondsPerDay).toNat, (n % nanosPerSecond).toNat⟩
  else none

/-- The instant a number of seconds after the start of 1 January 1970. -/
def ofSeconds? (n : Int) : Option Instant := ofNanoseconds? (n * nanosPerSecond)

/-- The instant a number of milliseconds later, where neither lies in a leap
second. -/
def addMilliseconds? (t : Instant) (ms : Int) : Option Instant :=
  ofNanoseconds? (t.since epoch + ms * nanosPerMilli)

/-! ### Laws of the order and of differences -/

@[simp] theorem since_self (a : Instant) : a.since a = 0 := by
  simp [since, secondsOfDaySince]

/-- Of two instants the earlier one is not the later one. -/
theorem not_before_of_before {a b : Instant} (h : a.before b = true) : b.before a = false := by
  simp only [before, Bool.or_eq_true, Bool.and_eq_true, decide_eq_true_eq, Bool.or_eq_false_iff,
    Bool.and_eq_false_imp, decide_eq_false_iff_not] at h ⊢
  omega

/-- Two instants are one, or one of them is earlier. -/
theorem before_trichotomy (a b : Instant) : a.before b = true ∨ a = b ∨ b.before a = true := by
  obtain ⟨d, s, n⟩ := a
  obtain ⟨e, t, m⟩ := b
  simp only [before, Bool.or_eq_true, Bool.and_eq_true, decide_eq_true_eq, mk.injEq]
  omega

end Instant

end ConsoleReplay
