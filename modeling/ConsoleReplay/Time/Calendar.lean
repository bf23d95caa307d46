/-!
# The calendar

Days are counted from 1 January 1970 in the Gregorian calendar, which is used for
all years, the years before one among them.  Inside the arithmetic a year begins
in March, so that the leap day is its last one.

## Main definitions

* `Date` — year, month and day of the month.
* `Date.isValid` — the date exists.
* `Date.toDay` — the number of days since 1 January 1970.
* `Date.ofDay` — the date of a number of days.
-/

namespace ConsoleReplay

/-- A calendar date. -/
structure Date where
  year : Int
  month : Nat
  day : Nat
  deriving DecidableEq, Repr

/-- Whether a year has a leap day. -/
def isLeapYear (year : Int) : Bool := year % 4 = 0 && (year % 100 ≠ 0 || year % 400 = 0)

/-- Number of days of a month. -/
def daysInMonth (year : Int) (month : Nat) : Nat :=
  if month = 2 then (if isLeapYear year then 29 else 28)
  else if month = 4 ∨ month = 6 ∨ month = 9 ∨ month = 11 then 30
  else 31

namespace Date

/-- Whether the date exists. -/
def isValid (d : Date) : Bool :=
  1 ≤ d.month && d.month ≤ 12 && 1 ≤ d.day && d.day ≤ daysInMonth d.year d.month

/-- Days in four hundred years. -/
def daysInCycle : Int := 146097

/-- Days from 1 March of the year zero to 1 January 1970. Years are counted from March here, so that
the leap day is the last of its year. -/
def epochOffset : Int := 719468

/-- The number of days since 1 January 1970. -/
def toDay (d : Date) : Int :=
  let y := if d.month ≤ 2 then d.year - 1 else d.year
  let cycle := y / 400
  let yearOfCycle := y % 400
  let monthFromMarch : Int := (d.month + 9) % 12
  let dayOfYear := (153 * monthFromMarch + 2) / 5 + d.day - 1
  let dayOfCycle := yearOfCycle * 365 + yearOfCycle / 4 - yearOfCycle / 100 + dayOfYear
  cycle * daysInCycle + dayOfCycle - epochOffset

/-- The date of a number of days since 1 January 1970. -/
def ofDay (day : Int) : Date :=
  let z := day + epochOffset
  let cycle := z / daysInCycle
  let dayOfCycle := z % daysInCycle
  let yearOfCycle :=
    (dayOfCycle - dayOfCycle / 1460 + dayOfCycle / 36524 - dayOfCycle / 146096) / 365
  let dayOfYear := dayOfCycle - (365 * yearOfCycle + yearOfCycle / 4 - yearOfCycle / 100)
  let monthFromMarch := (5 * dayOfYear + 2) / 153
  let month := ((monthFromMarch + 2) % 12 + 1).toNat
  let year := yearOfCycle + cycle * 400
  ⟨if month ≤ 2 then year + 1 else year, month,
    (dayOfYear - (153 * monthFromMarch + 2) / 5 + 1).toNat⟩

end Date

end ConsoleReplay
