import ConsoleReplay.Number.Word

/-!
# Double-precision numbers

A finite double is a whole number of units of 2⁻¹⁰⁷⁴ with at most 53 significant
bits, with a sign that zero has too.  All arithmetic is exact arithmetic on the
units followed by one rounding to the nearest double, where a tie goes to the
even neighbour.

## Main definitions

* `Double` — not a number, an infinity, or a signed number of units.
* `Double.ofRatio negative num den` — the double nearest to a fraction.
* `Double.ofNat`, `Double.ofInt`, `Double.ofDecimal` — the double nearest to a
  whole number and to a decimal.
* `Double.add`, `Double.mul`, `Double.div` — rounded arithmetic.
* `Double.lt`, `Double.le` — the order, in which not-a-number takes no part.
* `Double.roundToInt` — the nearest whole number, a half away from zero.
* `Double.toBits` — the interchange format.
-/

namespace ConsoleReplay

/-- A double-precision number.  Every finite double is a whole number of the least positive one, so
sums and products are those of whole numbers, rounded. -/
inductive Double
  | nan (negative : Bool)
  | infinite (negative : Bool)
  /-- So many units of 2⁻¹⁰⁷⁴. -/
  | finite (negative : Bool) (units : Nat)
  deriving DecidableEq, Repr

namespace Double

/-- Number of units in one. -/
def unitsOfOne : Nat := twoTo 1074

/-- The first number of units that no finite double has. -/
def unitLimit : Nat := twoTo 2098

/-- A fraction rounded to a whole number, a tie to the even neighbour. -/
def roundHalfEven (num den : Nat) : Nat :=
  let q := num / den
  let twice := 2 * (num % den)
  if twice < den then q else if den < twice then q + 1 else q + q % 2

/-- A fraction rounded to a whole number of 53 significant bits. -/
def roundSignificant (num den : Nat) : Nat :=
  let excess := (num / den).log2 + 1 - 53
  roundHalfEven num (den * twoTo excess) * twoTo excess

/-- A number of units, or an infinity if they are too many. -/
def ofUnits (negative : Bool) (units : Nat) : Double :=
  if units < unitLimit then .finite negative units else .infinite negative

/-- The double nearest to a fraction. -/
def ofRatio (negative : Bool) (num den : Nat) : Double :=
  ofUnits negative (roundSignificant (num * unitsOfOne) den)

/-- The positive zero. -/
def zero : Double := .finite false 0

instance : Inhabited Double := ⟨zero⟩

/-- The double nearest to a natural number. -/
def ofNat (n : Nat) : Double := ofRatio false n 1

/-- The double nearest to a whole number. -/
def ofInt (n : Int) : Double := ofRatio (n < 0) n.natAbs 1

/-- The double nearest to `digits · 10 ^ exponent`, where `digits` has `count`
decimal digits.  Values far outside the range are settled by their size. -/
def ofDecimal (negative : Bool) (digits count : Nat) (exponent : Int) : Double :=
  if digits = 0 then .finite negative 0
  else if 400 < count + exponent then .infinite negative
  else if count + exponent < -400 then .finite negative 0
  else if 0 ≤ exponent then ofRatio negative (digits * tenTo exponent.toNat) 1
  else ofRatio negative digits (tenTo (-exponent).toNat)

/-- Whether the number is neither infinite nor not a number. -/
def isFinite : Double → Bool
  | .finite .. => true
  | _ => false

/-- The sign. -/
def isNegative : Double → Bool
  | .nan negative | .infinite negative | .finite negative _ => negative

/-- The number with the other sign. -/
def neg : Double → Double
  | .nan negative => .nan (!negative)
  | .infinite negative => .infinite (!negative)
  | .finite negative units => .finite (!negative) units

/-- The units with their sign. -/
def signedUnits (negative : Bool) (units : Nat) : Int := if negative then -units else units

/-- The rounded sum.  A sum of zero is positive unless both terms are negative. -/
def add : Double → Double → Double
  | .finite n₁ u₁, .finite n₂ u₂ =>
    let sum := signedUnits n₁ u₁ + signedUnits n₂ u₂
    let negative := if sum = 0 then n₁ && n₂ else decide (sum < 0)
    ofUnits negative (roundSignificant sum.natAbs 1)
  | .nan n, _ => .nan n
  | _, .nan n => .nan n
  | .infinite n₁, .infinite n₂ => if n₁ = n₂ then .infinite n₁ else .nan true
  | .infinite n, _ => .infinite n
  | _, .infinite n => .infinite n

/-- The rounded product. -/
def mul : Double → Double → Double
  | .finite n₁ u₁, .finite n₂ u₂ =>
    ofUnits (n₁ != n₂) (roundSignificant (u₁ * u₂) unitsOfOne)
  | .nan n, _ => .nan n
  | _, .nan n => .nan n
  | .infinite n₁, .finite n₂ u => if u = 0 then .nan true else .infinite (n₁ != n₂)
  | .finite n₁ u, .infinite n₂ => if u = 0 then .nan true else .infinite (n₁ != n₂)
  | .infinite n₁, .infinite n₂ => .infinite (n₁ != n₂)

/-- The rounded quotient. -/
def div : Double → Double → Double
  | .finite n₁ u₁, .finite n₂ u₂ =>
    if u₂ = 0 then (if u₁ = 0 then .nan true else .infinite (n₁ != n₂))
    else ofUnits (n₁ != n₂) (roundSignificant (u₁ * unitsOfOne) u₂)
  | .nan n, _ => .nan n
  | _, .nan n => .nan n
  | .infinite _, .infinite _ => .nan true
  | .infinite n₁, .finite n₂ _ => .infinite (n₁ != n₂)
  | .finite n₁ _, .infinite n₂ => .finite (n₁ != n₂) 0

/-- Whether the first number is below the second.  The zeros are equal, and
not-a-number is below nothing and above nothing. -/
def lt : Double → Double → Bool
  | .finite n₁ u₁, .finite n₂ u₂ => signedUnits n₁ u₁ < signedUnits n₂ u₂
  | .nan _, _ => false
  | _, .nan _ => false
  | .infinite n₁, .infinite n₂ => n₁ && !n₂
  | .infinite n, .finite .. => n
  | .finite .., .infinite n => !n

/-- Whether the first number is at most the second. -/
def le : Double → Double → Bool
  | .nan _, _ => false
  | _, .nan _ => false
  | a, b => !b.lt a

/-- The nearest whole number, a half away from zero, held between two bounds;
not-a-number gives zero. -/
def roundToInt (lo hi : Int) : Double → Int
  | .nan _ => 0
  | .infinite negative => if negative then lo else hi
  | .finite negative units =>
    let n := (2 * units + unitsOfOne) / (2 * unitsOfOne)
    max lo (min hi (signedUnits negative n))

/-- The double in the interchange format: sign, exponent and fraction. -/
def toBits (x : Double) : Nat :=
  let magnitude := match x with
    | .nan _ => 2047 * twoTo 52 + twoTo 51
    | .infinite _ => 2047 * twoTo 52
    | .finite _ units =>
      if units < twoTo 52 then units else
        let scale := units.log2 - 52
        (scale + 1) * twoTo 52 + (units / twoTo scale - twoTo 52)
  if x.isNegative then twoTo 63 + magnitude else magnitude

end Double

end ConsoleReplay
