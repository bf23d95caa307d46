import ConsoleReplay.Time.Rfc3339
import Mathlib.Data.List.TakeWhile

/-!
# Elapsed time

Outside leap seconds the time between two instants is what a clock would show, and it grows with
the later one.  Inside them it is not.  A leap second shares its place on the clock with the second
that follows it, and it is counted or not depending on the time of day of the other instant.

Seen from a start outside leap seconds, more time may pass until an instant than until one that
comes after it, but only in two ways.  A leap second that is not earlier in the day than the start
counts up into the second that follows it, and there the count begins anew.  One that is earlier in
the day is not counted, so that in the leap second itself the count begins anew.

## Main definitions

* `Instant.inLeapSecond t` — the instant lies in a leap second.
* `Instant.IsReadable t` — an instant as a text tells it.
* `Instant.IsOrdinary t` — an instant of a day that lies in no leap second.
* `Instant.Overtakes start a b` — `b` comes after `a`, in one of the two ways just told.

## Main results

* `isReadable_of_parse?` — what is read from a text is readable.
* `since_lt_since_iff` — **less time passes until a later instant** exactly in those two ways.
* `millisecondsSince_le_of_not_overtakes` — otherwise elapsed times grow with the later instant.
-/

namespace ConsoleReplay

namespace Instant

/-- Whether an instant lies in a leap second. -/
def inLeapSecond (t : Instant) : Bool := nanosPerSecond ≤ t.nanosecond

theorem inLeapSecond_iff {t : Instant} : t.inLeapSecond = true ↔ nanosPerSecond ≤ t.nanosecond :=
  decide_eq_true_iff

theorem inLeapSecond_eq_false_iff {t : Instant} :
    t.inLeapSecond = false ↔ t.nanosecond < nanosPerSecond :=
  decide_eq_false_iff_not.trans Nat.not_le

/-- The seconds that a clock has counted since the start of 1970, in which a leap second is none. -/
def clock (t : Instant) : Int := t.day * secondsPerDay + t.second

/-- An instant as a text tells it: the second is one of the day, and a leap second is the last one
of a minute and no longer than any other. -/
structure IsReadable (t : Instant) : Prop where
  second_lt : t.second < secondsPerDay
  nanosecond_lt : t.nanosecond < 2 * nanosPerSecond
  second_mod : t.inLeapSecond = true → t.second % 60 = 59

/-- An instant that lies in no leap second. -/
structure IsOrdinary (t : Instant) : Prop where
  second_lt : t.second < secondsPerDay
  nanosecond_lt : t.nanosecond < nanosPerSecond

theorem IsReadable.isOrdinary {t : Instant} (h : t.IsReadable) (hleap : t.inLeapSecond = false) :
    t.IsOrdinary := ⟨h.second_lt, inLeapSecond_eq_false_iff.1 hleap⟩

/-! ### Instants that are read -/

/-- Digits at the front of a text make up a number of so many digits.  So a field of two digits is
below a hundred before anything else is asked of it. -/
theorem digits?_lt {width n : Nat} {cs rest : List Char} (h : digits? width cs = some (n, rest)) :
    n < tenTo (min width (cs.takeWhile Char.isDigit).length) := by
  rw [digits?, ← List.take_takeWhile] at h
  split at h
  · cases h
  · cases h
    have hlt : Text.ofDigits 10 (((cs.takeWhile Char.isDigit).take width).map Text.digitValue)
        < tenTo (((cs.takeWhile Char.isDigit).take width).map Text.digitValue).length := by
      refine Text.ofDigits_lt (List.forall_mem_map.2 fun c hc => ?_)
      have hcode := Text.isDigit_iff.1 (List.mem_takeWhile_imp (List.mem_of_mem_take hc))
      show c.toNat - 0x30 < 10
      omega
    rwa [List.length_map, List.length_take] at hlt

/-- A fraction is less than a second: zeros stand for the digits that it does not have. -/
theorem nanos?_lt {cs rest : List Char} {n : Nat} (h : nanos? cs = some (n, rest)) :
    n < nanosPerSecond := by
  unfold nanos? at h
  split at h
  · next cs =>
    simp only [Option.bind_eq_bind, Option.bind_eq_some_iff, Prod.exists] at h
    obtain ⟨m, _, hdigits, h⟩ := h
    cases h
    -- At most nine digits are read, whatever follows them.
    let k := min 9 (cs.takeWhile Char.isDigit).length
    have hm : m < tenTo k := digits?_lt hdigits
    have hzeros : tenTo k * tenTo (9 - k) = tenTo 9 :=
      (Nat.pow_add 10 k (9 - k)).symm.trans
        (congrArg tenTo (Nat.add_sub_cancel' (Nat.min_le_left 9 _)))
    calc m * tenTo (9 - k)
        < tenTo k * tenTo (9 - k) := Nat.mul_lt_mul_of_pos_right hm (Nat.pow_pos (by decide))
      _ = nanosPerSecond := hzeros
  · cases h
    decide

/-- A leap second is told as the sixtieth second of a minute, and kept as the one before it. -/
theorem time?_spec {cs rest : List Char} {second nanosecond : Nat}
    (h : time? cs = some ((second, nanosecond), rest)) :
    nanosecond < 2 * nanosPerSecond ∧ (nanosPerSecond ≤ nanosecond → second % 60 = 59) := by
  simp only [time?, Option.bind_eq_bind, Option.bind_eq_some_iff, Prod.exists] at h
  obtain ⟨hour, _, -, _, -, minute, _, -, _, -, s, _, -, nanos, _, hnanos, h⟩ := h
  have hlt := nanos?_lt hnanos
  split at h
  · cases h
  -- The sixtieth second is kept as the one before it with a whole second more of nanoseconds.
  by_cases hleap : s = 60
  · rw [if_pos hleap] at h
    cases h
    refine ⟨by omega, fun _ => by omega⟩
  · rw [if_neg hleap] at h
    cases h
    refine ⟨by omega, fun hge => ?_⟩
    exact absurd hge (Nat.not_le_of_lt hlt)

/-- An offset is one of whole minutes. -/
theorem offset?_dvd {cs rest : List Char} {offset : Int} (h : offset? cs = some (offset, rest)) :
    (60 : Int) ∣ offset := by
  have hsigned {sign : Int} {cs : List Char}
      (h : signedOffset? sign cs = some (offset, rest)) : (60 : Int) ∣ offset := by
    simp only [signedOffset?, Option.bind_eq_bind, Option.bind_eq_some_iff, Prod.exists] at h
    obtain ⟨hours, _, -, minutes, _, -, h⟩ := h
    -- Either no offset is written, or one of the three signs: the minus sign of mathematics is
    -- read as well as the hyphen.
    split at h
    · cases h
    · cases h
      have hminutes : (60 : Int) ∣ (hours * 3600 + minutes * 60 : Nat) := by omega
      exact Int.dvd_trans hminutes (Int.dvd_mul_left sign _)
  unfold offset? at h
  split at h
  · cases h
    exact Int.dvd_zero 60
  · cases h
    exact Int.dvd_zero 60
  · exact hsigned h
  · exact hsigned h
  · exact hsigned h
  · split at h
    · cases h
      exact Int.dvd_zero 60
    · cases h
  · cases h

/-- What is read from a text is readable: whatever offset it tells, the second of the day is that
of universal time, and the second of the minute is that of the text. -/
theorem isReadable_of_parse? {cs : List Char} {t : Instant} (h : parse? cs = some t) :
    t.IsReadable := by
  simp only [parse?, Option.bind_eq_bind, Option.bind_none] at h
  obtain ⟨⟨date, rest⟩, -, h⟩ := Option.bind_eq_some_iff.1 h
  split at h
  -- After each of the three separators of date and time the text is read on alike.
  case h_4 => cases h
  all_goals
    simp only [Option.bind_some, Option.bind_eq_some_iff, Option.ite_none_left_eq_some] at h
    obtain ⟨⟨⟨second, nanosecond⟩, _⟩, htime, ⟨offset, _⟩, hoffset, -, -, -, -, h⟩ := h
    obtain ⟨hnano, hmod⟩ := time?_spec htime
    have hwhole := offset?_dvd hoffset
    cases h
    refine ⟨?_, hnano, fun hleap => ?_⟩
    · show (((second : Int) - offset) % 86400).toNat < 86400
      omega
    · have hlast := hmod (inLeapSecond_iff.1 hleap)
      show (((second : Int) - offset) % 86400).toNat % 60 = 59
      omega

/-! ### Elapsed times

The difference of two instants is that of their clocks and of their nanoseconds, and a leap second
adds its second only where the other time of day lies past it. -/

variable {start a b : Instant}

/-- From a start outside leap seconds a leap second is not counted if it is earlier in the day. -/
theorem since_eq_of_isOrdinary (hs : start.IsOrdinary) (t : Instant) :
    t.since start
      = (t.clock - start.clock
          - if t.second < start.second ∧ t.inLeapSecond = true then 1 else 0) * nanosPerSecond
        + ((t.nanosecond : Int) - start.nanosecond) := by
  have hstart := hs.nanosecond_lt
  rw [since, secondsOfDaySince, if_neg fun h => absurd h.2 (Nat.not_le_of_lt hstart)]
  simp only [inLeapSecond_iff, clock, secondsPerDay, nanosPerSecond]
  split
  · omega
  · omega

/-- Of two instants of days the earlier one is told by the clock, and within a second by the
nanoseconds. -/
theorem before_iff (ha : a.second < secondsPerDay) (hb : b.second < secondsPerDay) :
    a.before b = true
      ↔ a.clock < b.clock ∨ a.clock = b.clock ∧ a.nanosecond < b.nanosecond := by
  simp only [before, Bool.or_eq_true, Bool.and_eq_true, decide_eq_true_eq, clock]
  simp only [secondsPerDay] at ha hb ⊢
  omega

/-- An instant comes after another one, but from the start less time passes until then.  Either the
other one lies in a leap second that is counted, and this one in the second after it, whose count
begins anew; or this one lies in a leap second that is not counted, and the other one in the second
that it belongs to. -/
def Overtakes (start a b : Instant) : Prop :=
  (a.inLeapSecond = true ∧ start.second ≤ a.second ∧ b.clock = a.clock + 1
      ∧ b.nanosecond + nanosPerSecond < a.nanosecond)
    ∨ (b.inLeapSecond = true ∧ b.second < start.second ∧ b.clock = a.clock
      ∧ a.inLeapSecond = false ∧ b.nanosecond < a.nanosecond + nanosPerSecond)

instance (start a b : Instant) : Decidable (Overtakes start a b) :=
  inferInstanceAs (Decidable (_ ∨ _))

/-- **Less time passes until a later instant** exactly where it overtakes the earlier one. -/
theorem since_lt_since_iff (hs : start.IsOrdinary) (ha : a.IsReadable) (hb : b.IsReadable)
    (h : a.before b = true) : b.since start < a.since start ↔ Overtakes start a b := by
  have hbefore := (before_iff ha.second_lt hb.second_lt).1 h
  obtain ⟨hsecond, hnano, hmod⟩ := ha
  obtain ⟨hsecond', hnano', hmod'⟩ := hb
  rw [since_eq_of_isOrdinary hs, since_eq_of_isOrdinary hs, Overtakes]
  simp only [inLeapSecond_iff, inLeapSecond_eq_false_iff, clock, nanosPerSecond, secondsPerDay]
    at hbefore hsecond hnano hmod hsecond' hnano' hmod' ⊢
  -- Whether the leap second of either is counted, and the clock tells the rest.
  split
  · split
    · omega
    · omega
  · split
    · omega
    · omega

/-- The middle of a leap second is overtaken by the midnight that follows, but not by the half
second after that.  A leap second that is not counted overtakes the end of the second before it. -/
example : Overtakes ⟨17166, 86399, 900000000⟩ ⟨17166, 86399, 1500000000⟩ ⟨17167, 0, 0⟩
    ∧ Overtakes ⟨17165, 43200, 0⟩ ⟨17166, 59, 900000000⟩ ⟨17166, 59, 1500000000⟩
    ∧ ¬ Overtakes ⟨17166, 86399, 900000000⟩ ⟨17166, 86399, 1500000000⟩ ⟨17167, 0, 500000000⟩ := by
  decide

/-- Where none overtakes another, elapsed times grow with the later instant. -/
theorem millisecondsSince_le_of_not_overtakes (hs : start.IsOrdinary) (ha : a.IsReadable)
    (hb : b.IsReadable) (h : a.before b = true) (hnot : ¬ Overtakes start a b) :
    a.millisecondsSince start ≤ b.millisecondsSince start :=
  Int.tdiv_le_tdiv (by decide)
    (Int.not_lt.1 (mt (since_lt_since_iff hs ha hb h).1 hnot))

/-- Outside leap seconds none overtakes another. -/
theorem not_overtakes (ha : a.inLeapSecond = false) (hb : b.inLeapSecond = false) :
    ¬ Overtakes start a b := by
  rintro (⟨hleap, -⟩ | ⟨hleap, -⟩)
  · exact absurd (ha.symm.trans hleap) Bool.false_ne_true
  · exact absurd (hb.symm.trans hleap) Bool.false_ne_true

end Instant

end ConsoleReplay
