import ConsoleReplay.Json.Basic
import ConsoleReplay.Text.Digit

/-!
# Numerals

A numeral without a fraction and an exponent is a whole number if 64 bits hold
it.  Every other numeral is a double: its leading digits, as many as 64 bits hold,
are one number, which is then multiplied or divided by a power of ten.  The two
steps round separately.

## Main definitions

* `Json.Numeral` — a numeral as it is written.
* `Json.Numeral.value` — the value that it stands for.
-/

namespace ConsoleReplay.Json

/-- A numeral as it is written: sign, digits and exponent.  The number it stands for is not always
the nearest double, so how it is computed is part of what is read. -/
structure Numeral where
  negative : Bool
  /-- Digits before the point. -/
  whole : List Nat
  /-- Digits after the point; without a point there are none. -/
  fraction : List Nat
  /-- Sign and digits of the exponent. -/
  exponent : Option (Bool × List Nat)

namespace Numeral

/-- Take a digit before the point.  Once the digits no longer fit a word, the rest of them is only
counted and comes back in the exponent. -/
def takeWhole : Nat × Nat → Nat → Nat × Nat
  | (significand, skipped), d =>
    if skipped = 0 ∧ significand * 10 + d < wordLimit then (significand * 10 + d, 0)
    else (significand, skipped + 1)

/-- Take a digit after the point.  From the first one that no longer fits, digits are dropped, even
if a later one would fit again. -/
def takeFraction : Nat × Nat × Bool → Nat → Nat × Nat × Bool
  | (significand, taken, full), d =>
    if !full && significand * 10 + d < wordLimit then (significand * 10 + d, taken + 1, false)
    else (significand, taken, true)

/-- The double nearest to a power of ten. -/
def powerOfTen (n : Nat) : Double := .ofNat (tenTo n)

/-- The largest power of ten that is a double. -/
def maxPower : Nat := 308

/-- Divide by a power of ten, in steps if it is not a double itself. -/
def scaleDown : Nat → Double → Nat → Double
  | 0, x, _ => x
  | steps + 1, x, n =>
    if n ≤ maxPower then x.div (powerOfTen n)
    else scaleDown steps (x.div (powerOfTen maxPower)) (n - maxPower)

/-- A significand times a power of ten; `none` if it is out of range. -/
def scale (significand : Nat) (exponent : Int) : Option Double :=
  let x := Double.ofNat significand
  if exponent < 0 then some (scaleDown 3 x (-exponent).toNat)
  else if exponent ≤ maxPower then
    let y := x.mul (powerOfTen exponent.toNat)
    if y.isFinite then some y else none
  else if significand = 0 then some x
  else none

/-- The exponents that fit a word of 32 bits. -/
def maxExponent : Nat := 2147483647

/-- The double that a numeral stands for, its sign aside. -/
def magnitude? (n : Numeral) : Option Double :=
  let (significand, skipped) := n.whole.foldl takeWhole (0, 0)
  let (significand, taken, _) := n.fraction.foldl takeFraction (significand, 0, false)
  let start : Int := (skipped : Int) - taken
  match n.exponent with
  | none => scale significand start
  | some (negative, digits) =>
    let e := Text.ofDigits 10 digits
    if maxExponent < e then (if significand ≠ 0 && !negative then none else some .zero)
    else scale significand (if negative then start - e else start + e)

/-- The value that a numeral stands for.  Minus zero is a double, since the whole
numbers have no sign of zero. -/
def value (n : Numeral) : Json :=
  let whole := Text.ofDigits 10 n.whole
  let isWhole := n.fraction.isEmpty && n.exponent.isNone
  if isWhole && !n.negative && whole < wordLimit then .integer whole
  else if isWhole && n.negative && 0 < whole && leastSigned ≤ -whole then .integer (-whole)
  else
    match n.magnitude? with
    | some x => .float (if n.negative then x.neg else x)
    | none => .malformed

end Numeral

end ConsoleReplay.Json
