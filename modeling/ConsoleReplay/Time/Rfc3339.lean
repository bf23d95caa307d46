import ConsoleReplay.Number.Word
import ConsoleReplay.Text.Blank
import ConsoleReplay.Text.Digit
import ConsoleReplay.Time.Instant

/-!
# Instants as text

An instant is written as a date, the letter T, a time and the offset of universal
time.  Reading is more generous than writing: a space may stand for the T, blanks
may stand around the parts, numbers need not have all their digits, and any offset
below a day is taken.  Years of more than four digits, and years before zero, carry
a sign.

## Main definitions

* `Instant.parse? cs` — the instant that a text tells.
* `Instant.text t offset` — an instant as text with a given spelling of the offset.
* `Instant.textZ`, `Instant.textOffset` — the two spellings in use.
-/

namespace ConsoleReplay

namespace Instant

/-! ### Reading -/

/-- The rest of a text after its leading blanks and a given character. -/
def expectChar? (c : Char) (cs : List Char) : Option (List Char) :=
  match Text.trimStart cs with
  | d :: rest => if d = c then some rest else none
  | [] => none

/-- The number of up to `width` digits at the front of a text, and the rest. -/
def digits? (width : Nat) (cs : List Char) : Option (Nat × List Char) :=
  let ds := (cs.take width).takeWhile Char.isDigit
  if ds.isEmpty then none
  else some (Text.ofDigits 10 (ds.map Text.digitValue), cs.drop ds.length)

/-- The number of up to two digits after leading blanks. -/
def field? (cs : List Char) : Option (Nat × List Char) := digits? 2 (Text.trimStart cs)

/-- The year after leading blanks: up to four digits, or a sign and any number of
them. -/
def year? (cs : List Char) : Option (Int × List Char) :=
  let signed (sign : Int) (rest : List Char) : Option (Int × List Char) :=
    match digits? rest.length rest with
    | some (n, rest) => if n ≤ greatestSigned then some (sign * n, rest) else none
    | none => none
  match Text.trimStart cs with
  | '-' :: rest => signed (-1) rest
  | '+' :: rest => signed 1 rest
  | rest => (digits? 4 rest).map fun (n, rest) => (n, rest)

/-- The date at the front of a text. -/
def date? (cs : List Char) : Option (Date × List Char) := do
  let (year, cs) ← year? cs
  let (month, cs) ← field? (← expectChar? '-' cs)
  let (day, cs) ← field? (← expectChar? '-' cs)
  return (⟨year, month, day⟩, cs)

/-- The fraction of a second at the front of a text, in nanoseconds.  Digits past the ninth are
dropped, and not rounded. -/
def nanos? : List Char → Option (Nat × List Char)
  | '.' :: cs => do
    let (n, _) ← digits? 9 cs
    let ds := cs.takeWhile Char.isDigit
    return (n * tenTo (9 - min 9 ds.length), cs.drop ds.length)
  | cs => some (0, cs)

/-- The time of day at the front of a text: second and nanosecond.  Every minute may have a leap
second, whether there was one then or not. -/
def time? (cs : List Char) : Option ((Nat × Nat) × List Char) := do
  let (hour, cs) ← field? cs
  let (minute, cs) ← field? (← expectChar? ':' cs)
  let (second, cs) ← field? (← expectChar? ':' cs)
  let (nanos, cs) ← nanos? cs
  if 24 ≤ hour ∨ 60 ≤ minute ∨ 61 ≤ second then none
  let (second, nanos) := if second = 60 then (59, nanosPerSecond + nanos) else (second, nanos)
  return ((hour * 3600 + minute * 60 + second, nanos), cs)

/-- Two digits at the front of a text, and the rest. -/
def twoDigits? : List Char → Option (Nat × List Char)
  | a :: b :: rest =>
    if a.isDigit && b.isDigit then
      some (Text.digitValue a * 10 + Text.digitValue b, rest)
    else none
  | _ => none

/-- The offset after a sign: hours and minutes, with colons or blanks between them,
in seconds. -/
def signedOffset? (sign : Int) (cs : List Char) : Option (Int × List Char) := do
  let (hours, cs) ← twoDigits? cs
  let (minutes, cs) ← twoDigits? (cs.dropWhile fun c => c == ':' || Text.isBlank c)
  if 60 ≤ minutes then none
  return (sign * (hours * 3600 + minutes * 60 : Nat), cs)

/-- The offset from universal time at the front of a text, in seconds.  The true
minus sign is taken as well as the hyphen. -/
def offset? (cs : List Char) : Option (Int × List Char) :=
  match cs with
  | 'Z' :: rest | 'z' :: rest => some (0, rest)
  | '+' :: rest => signedOffset? 1 rest
  | '-' :: rest | '\u2212' :: rest => signedOffset? (-1) rest
  | a :: b :: c :: rest =>
    if [a.toUpper, b.toUpper, c.toUpper] = ['U', 'T', 'C'] then some (0, rest) else none
  | _ => none

/-- The instant that a text tells. -/
def parse? (cs : List Char) : Option Instant := do
  let (date, cs) ← date? cs
  let cs ← match cs with
    | 't' :: rest | 'T' :: rest | ' ' :: rest => some rest
    | _ => none
  let ((second, nanosecond), cs) ← time? cs
  let (offset, cs) ← offset? (Text.trimStart cs)
  if !Text.blankLine cs then none
  if !date.isValid || date.year < minYear || maxYear < date.year then none
  if secondsPerDay ≤ offset.natAbs then none
  let universal := (second : Int) - offset
  let day := date.toDay + universal / secondsPerDay
  if !isTellableDay day then none
  return ⟨day, (universal % secondsPerDay).toNat, nanosecond⟩

/-! ### Writing -/

/-- A number with at least so many digits. -/
def padded (width n : Nat) : String :=
  let ds := (toString n).toList
  .ofList (List.replicate (width - ds.length) '0' ++ ds)

/-- A year: four digits, with a sign if they are not enough or the year is below
zero. -/
def yearText (year : Int) : String :=
  if 0 ≤ year ∧ year ≤ 9999 then padded 4 year.toNat
  else (if year < 0 then "-" else "+") ++ padded 4 year.natAbs

/-- The fraction of a second: none, or as many groups of three digits as it
needs. -/
def fractionText (nanos : Nat) : String :=
  if nanos = 0 then ""
  else if nanos % 1000000 = 0 then "." ++ padded 3 (nanos / 1000000)
  else if nanos % 1000 = 0 then "." ++ padded 6 (nanos / 1000)
  else "." ++ padded 9 nanos

/-- An instant as text, with a given spelling of the offset. -/
def text (t : Instant) (offset : String) : String :=
  let date := Date.ofDay t.day
  let isLeap := nanosPerSecond ≤ t.nanosecond
  let second := t.second % 60 + (if isLeap then 1 else 0)
  let nanos := if isLeap then t.nanosecond - nanosPerSecond else t.nanosecond
  yearText date.year ++ "-" ++ padded 2 date.month ++ "-" ++ padded 2 date.day ++ "T"
    ++ padded 2 (t.second / 3600) ++ ":" ++ padded 2 (t.second / 60 % 60) ++ ":"
    ++ padded 2 second ++ fractionText nanos ++ offset

/-- An instant as text, the offset written as a letter. -/
def textZ (t : Instant) : String := t.text "Z"

/-- An instant as text, the offset written as a number. -/
def textOffset (t : Instant) : String := t.text "+00:00"

end Instant

end ConsoleReplay
