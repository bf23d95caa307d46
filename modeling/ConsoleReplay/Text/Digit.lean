/-!
# Digits

The values of decimal and hexadecimal digits, and of the numbers they make up.
Digits are those of ASCII.

## Main definitions

* `digitValue c`, `hexValue? c` — the value of a digit.
* `ofDigits base ds` — the number that digits stand for, the first one leading.
-/

namespace ConsoleReplay.Text

/-- The value of a decimal digit. -/
def digitValue (c : Char) : Nat := c.toNat - '0'.toNat

theorem isDigit_iff {c : Char} : c.isDigit = true ↔ 0x30 ≤ c.toNat ∧ c.toNat ≤ 0x39 := by
  rw [Char.isDigit, Bool.and_eq_true, decide_eq_true_eq, decide_eq_true_eq, ge_iff_le,
    UInt32.le_iff_toNat_le, UInt32.le_iff_toNat_le]
  rfl

/-- The value of a hexadecimal digit. -/
def hexValue? (c : Char) : Option Nat :=
  if c.isDigit then some (digitValue c)
  else if 'a' ≤ c ∧ c ≤ 'f' then some (c.toNat - 'a'.toNat + 10)
  else if 'A' ≤ c ∧ c ≤ 'F' then some (c.toNat - 'A'.toNat + 10)
  else none

/-- The number that digits stand for, the first one leading.  Leading zeros make no difference. -/
def ofDigits (base : Nat) (ds : List Nat) : Nat := ds.foldl (fun n d => n * base + d) 0

/-- A number is less than the power of the base that has one digit more. -/
theorem ofDigits_lt {base : Nat} {ds : List Nat} (h : ∀ d ∈ ds, d < base) :
    ofDigits base ds < Nat.pow base ds.length := by
  -- In a number that digits are added to, its own value counts as the next higher digit.
  have hfold (n : Nat) :
      ds.foldl (fun n d => n * base + d) n < (n + 1) * Nat.pow base ds.length := by
    induction ds generalizing n with
    | nil => exact Nat.lt_of_lt_of_eq (Nat.lt_succ_self n) (Nat.mul_one (n + 1)).symm
    | cons d ds ih =>
      obtain ⟨hd, hds⟩ := List.forall_mem_cons.1 h
      have hnext : n * base + d + 1 ≤ (n + 1) * base := by
        rw [Nat.succ_mul]
        omega
      have hpower : Nat.pow base (d :: ds).length = base * Nat.pow base ds.length :=
        Nat.mul_comm (Nat.pow base ds.length) base
      calc ds.foldl (fun n d => n * base + d) (n * base + d)
          < (n * base + d + 1) * Nat.pow base ds.length := ih hds _
        _ ≤ (n + 1) * base * Nat.pow base ds.length := Nat.mul_le_mul_right _ hnext
        _ = (n + 1) * Nat.pow base (d :: ds).length := by rw [hpower, Nat.mul_assoc]
  have hzero := hfold 0
  rwa [Nat.zero_add, Nat.one_mul] at hzero

end ConsoleReplay.Text
