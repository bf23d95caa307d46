import ConsoleReplay.Number.Double

/-!
# Shortest decimals

A double is written with the fewest significant digits that read back as the same
double, and of those with the nearest ones.  It is written positionally: there is
never an exponent, and a whole number has no point.

## Main definitions

* `Double.Digits` — decimal digits and the place of the point.
* `Double.shortest units` — the shortest digits that read back as a positive
  number of units.
* `Double.text x` — the number as text.
-/

namespace ConsoleReplay.Double

/-- The decimal number `0.d₁d₂… · 10 ^ point`, of which `value` holds the digits. -/
structure Digits where
  value : Nat
  count : Nat
  point : Int
  deriving DecidableEq, Repr

/-- The place of the point in a fraction that is not zero: the least power of ten
above the fraction. -/
def pointOf (num den : Nat) : Int :=
  if den ≤ num then ((num / den).repr.length : Int)
  else
    let zeros := (List.range 400).find? fun k => den ≤ num * tenTo (k + 1)
    Int.negOfNat (zeros.getD 400)

/-- The distance, in units, from a double to the next larger one. -/
def gapAbove (units : Nat) : Nat := twoTo (units.log2 - 52)

/-- Twice the distance, in units, from a double to the next smaller one.  Just
above a power of two the doubles below are twice as close. -/
def twiceGapBelow (units : Nat) : Nat :=
  let gap := gapAbove units
  if units = twoTo units.log2 && 1 < gap then gap else 2 * gap

/-- Whether the decimal `d` of a grid reads back as the double.  The double is
`num / den` steps of the grid, and `scale / den` of them are one unit. -/
def readsBack (units num den scale d : Nat) : Bool :=
  let candidate := 4 * d * den
  let below := 4 * num - twiceGapBelow units * scale
  let above := 4 * num + 2 * gapAbove units * scale
  if (units / gapAbove units) % 2 = 0 then below ≤ candidate && candidate ≤ above
  else below < candidate && candidate < above

/-- The decimal of a number of digits that is nearest to the double, if one of
that many digits reads back as it. -/
def withDigits? (units : Nat) (point : Int) (count : Nat) : Option Digits :=
  let exponent := point - count
  let scale := tenTo (-exponent).toNat
  let num := units * scale
  let den := unitsOfOne * tenTo exponent.toNat
  let d := num / den
  let nearFirst := if 2 * (num % den) < den then [d, d + 1] else [d + 1, d]
  (nearFirst.find? (readsBack units num den scale)).map fun d => ⟨d, count, point⟩

/-- The shortest decimal that reads back as a positive number of units.  Seventeen digits are always
enough. -/
def shortest (units : Nat) : Digits :=
  let point := pointOf units unitsOfOne
  ((List.range' 1 17).findSome? (withDigits? units point)).getD ⟨0, 1, 1⟩

/-- Digits written around the point. -/
def Digits.positional (digits : Digits) : String :=
  let ds := (digits.value.repr).toList
  -- A carry out of the first digit moves the point by one place.
  let point := digits.point + (ds.length - digits.count : Int)
  let whole := ds.take point.toNat ++ List.replicate (point.toNat - ds.length) '0'
  let fraction := List.replicate (-point).toNat '0' ++ ds.drop point.toNat
  let fraction := (fraction.reverse.dropWhile (· == '0')).reverse
  let whole := if whole.isEmpty then ['0'] else whole
  .ofList (if fraction.isEmpty then whole else whole ++ '.' :: fraction)

/-- A number as text: its shortest digits, written positionally. -/
def text : Double → String
  | .nan _ => "NaN"
  | .infinite negative => if negative then "-inf" else "inf"
  | .finite negative units =>
    let magnitude := if units = 0 then "0" else (shortest units).positional
    if negative then "-" ++ magnitude else magnitude

end ConsoleReplay.Double
