/-!
# Machine words and powers

The bounds of numbers that are kept in 64 bits, and powers of the two bases in
which numbers are written.

## Main definitions

* `wordLimit` — the first number that 64 bits do not hold.
* `leastSigned`, `greatestSigned` — the bounds of 64 bits one of which is a sign.
* `twoTo n`, `tenTo n` — powers.
-/

namespace ConsoleReplay

/-- A power of two. -/
def twoTo (n : Nat) : Nat := Nat.pow 2 n

/-- A power of ten. -/
def tenTo (n : Nat) : Nat := Nat.pow 10 n

/-- The first number that 64 bits do not hold. -/
def wordLimit : Nat := 18446744073709551616

/-- The least number of 64 bits one of which is a sign. -/
def leastSigned : Int := -9223372036854775808

/-- The greatest number of 64 bits one of which is a sign. -/
def greatestSigned : Int := 9223372036854775807

theorem twoTo_pos (n : Nat) : 0 < twoTo n := Nat.two_pow_pos n

end ConsoleReplay
