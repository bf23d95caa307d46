import ConsoleReplay.Text.Digit
import ConsoleReplay.Time.Calendar
import ConsoleReplay.Toml.Basic

/-!
# TOML numbers, dates and times

A number may have underscores between its digits.  A decimal one does not begin
with a zero that more digits follow.  Whole numbers are those of 64 bits with a
sign.

## Main definitions

* `Toml.digits?` — a run of digits, without its underscores.
* `Toml.integer?`, `Toml.float?`, `Toml.moment?` — the scalars, each with the rest
  of the text after it.
* `Toml.scalar? cs` — the number, date or time at the front of a text.
-/

namespace ConsoleReplay.Toml

/-! ### Digits -/

/-- Whether every underscore in a run stands between two digits.  `afterDigit` tells whether the run
goes on from a digit.  An underscore groups digits and is no digit itself. -/
def isGrouped (afterDigit : Bool) : List Char → Bool
  | [] => afterDigit
  | c :: cs => if c == '_' then afterDigit && isGrouped false cs else isGrouped true cs

/-- The run of digits at the front of a text, without its underscores, and the
rest. -/
def digits? (isDigit : Char → Bool) (cs : List Char) : Option (List Char × List Char) :=
  let inRun (c : Char) : Bool := isDigit c || c == '_'
  let run := cs.takeWhile inRun
  if isGrouped false run then some (run.filter (· != '_'), cs.dropWhile inRun) else none

/-- The sign at the front of a text, and the rest. -/
def sign : List Char → Bool × List Char
  | '+' :: cs => (false, cs)
  | '-' :: cs => (true, cs)
  | cs => (false, cs)

/-- The decimal digits at the front of a text, if they are a number's first ones:
a zero only stands alone. -/
def wholeDigits? (cs : List Char) : Option (List Char × List Char) := do
  let (ds, rest) ← digits? Char.isDigit cs
  if ds.head? = some '0' ∧ ds ≠ ['0'] then none
  return (ds, rest)

/-- The number that digits stand for. -/
def valueOf (base : Nat) (ds : List Char) : Nat :=
  Text.ofDigits base (ds.map fun c => (Text.hexValue? c).getD 0)

/-! ### Numbers -/

/-- A whole number, if 64 bits with a sign hold it. -/
def word? (n : Int) : Option Toml :=
  if leastSigned ≤ n ∧ n ≤ greatestSigned then some (.integer n) else none

/-- Whether a character is a digit of a base up to sixteen. -/
def isDigitOf (base : Nat) (c : Char) : Bool :=
  match Text.hexValue? c with
  | some d => d < base
  | none => false

/-- The whole number after the mark of its base. -/
def basedInteger? (base : Nat) (cs : List Char) : Option (Toml × List Char) := do
  let (ds, rest) ← digits? (isDigitOf base) cs
  return (← word? (valueOf base ds), rest)

/-- The whole number at the front of a text.  Only a decimal one has a sign. -/
def integer? (cs : List Char) : Option (Toml × List Char) :=
  match cs with
  | '0' :: 'x' :: rest => basedInteger? 16 rest
  | '0' :: 'o' :: rest => basedInteger? 8 rest
  | '0' :: 'b' :: rest => basedInteger? 2 rest
  | _ => do
    let (negative, cs) := sign cs
    let (ds, rest) ← wholeDigits? cs
    return (← word? (if negative then -(valueOf 10 ds : Int) else valueOf 10 ds), rest)

/-- The digits after a point at the front of a text; without a point there are
none. -/
def fraction? : List Char → Option (List Char × List Char)
  | '.' :: cs => digits? Char.isDigit cs
  | cs => some ([], cs)

/-- The exponent at the front of a text, or zero if there is none. -/
def exponent? : List Char → Option (Int × List Char)
  | c :: cs =>
    if c == 'e' || c == 'E' then do
      let (negative, cs) := sign cs
      let (ds, rest) ← digits? Char.isDigit cs
      return (if negative then -(valueOf 10 ds : Int) else valueOf 10 ds, rest)
    else some (0, c :: cs)
  | [] => some (0, [])

/-- Whether a fraction or an exponent begins a text. -/
def marksDecimal : List Char → Bool
  | '.' :: _ | 'e' :: _ | 'E' :: _ => true
  | _ => false

/-- The number with a fraction or an exponent at the front of a text.  One too
large to be a double is refused if it is positive. -/
def decimal? (cs : List Char) : Option (Toml × List Char) := do
  let (negative, cs) := sign cs
  let (whole, cs) ← wholeDigits? cs
  if !marksDecimal cs then none
  let (frac, cs) ← fraction? cs
  let (exp, rest) ← exponent? cs
  let ds := whole ++ frac
  let x := Double.ofDecimal negative (valueOf 10 ds) ds.length (exp - frac.length)
  if x = .infinite false then none
  return (.float x, rest)

/-- The infinity or not-a-number at the front of a text. -/
def special? (cs : List Char) : Option (Toml × List Char) :=
  let (negative, cs) := sign cs
  match cs with
  | 'i' :: 'n' :: 'f' :: rest => some (.float (.infinite negative), rest)
  | 'n' :: 'a' :: 'n' :: rest => some (.float (.nan negative), rest)
  | _ => none

/-- The number that is not written as a whole one at the front of a text. -/
def float? (cs : List Char) : Option (Toml × List Char) := (decimal? cs).or (special? cs)

/-! ### Dates and times -/

/-- The number of exactly `width` digits at the front of a text, between bounds. -/
def field? (width lo hi : Nat) (cs : List Char) : Option (Nat × List Char) :=
  let ds := cs.take width
  let n := valueOf 10 ds
  if ds.length = width ∧ ds.all Char.isDigit ∧ lo ≤ n ∧ n ≤ hi then some (n, cs.drop width)
  else none

/-- The rest of a text after a given character. -/
def after? (c : Char) : List Char → Option (List Char)
  | d :: rest => if d = c then some rest else none
  | [] => none

/-- The rest of a text after the date at its front. -/
def date? (cs : List Char) : Option (List Char) := do
  let (year, cs) ← field? 4 0 9999 cs
  let (month, cs) ← field? 2 1 12 (← after? '-' cs)
  let (day, cs) ← field? 2 1 31 (← after? '-' cs)
  if (Date.mk year month day).isValid then some cs else none

/-- The rest of a text after the fraction of a second at its front, if there is
one. -/
def dropSecondFraction : List Char → List Char
  | '.' :: c :: cs => if c.isDigit then cs.dropWhile Char.isDigit else '.' :: c :: cs
  | cs => cs

/-- The rest of a text after the time at its front.  A minute may have a leap
second. -/
def time? (cs : List Char) : Option (List Char) := do
  let (_, cs) ← field? 2 0 23 cs
  let (_, cs) ← field? 2 0 59 (← after? ':' cs)
  let (_, cs) ← field? 2 0 60 (← after? ':' cs)
  return dropSecondFraction cs

/-- The rest of a text after the offset at its front, if there is one.  An offset
that has begun must go on. -/
def offset? : List Char → Option (List Char)
  | 'Z' :: cs | 'z' :: cs => some cs
  | '+' :: cs | '-' :: cs => do
    let (_, cs) ← field? 2 0 23 cs
    let (_, cs) ← field? 2 0 59 (← after? ':' cs)
    return cs
  | cs => some cs

/-- The date, time or both at the front of a text.  A date without a time after its separator ends
before it.  Settings hold none, but a document that has one is still a document. -/
def moment? (cs : List Char) : Option (Toml × List Char) :=
  match date? cs with
  | some rest =>
    let timed := match rest with
      | 'T' :: cs | 't' :: cs | ' ' :: cs => time? cs
      | _ => none
    match timed with
    | some rest => (offset? rest).map (.moment, ·)
    | none => some (.moment, rest)
  | none => (time? cs).map (.moment, ·)

/-- The number, date or time at the front of a text. -/
def scalar? (cs : List Char) : Option (Toml × List Char) :=
  ((moment? cs).or (float? cs)).or (integer? cs)

end ConsoleReplay.Toml
