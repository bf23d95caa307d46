/-!
# Sets of code points as ranges

A Unicode property is a table of inclusive ranges of code points.

## Main definitions

* `CodeRanges` — a list of inclusive ranges.
* `CodeRanges.contains table n` — some range of the table holds `n`.
-/

namespace ConsoleReplay.Text

/-- A set of code points, written as inclusive ranges.  Tables of this form are short enough to be
checked by eye against those of the standard. -/
abbrev CodeRanges := List (Nat × Nat)

/-- Whether some range of the table holds the code point. -/
def CodeRanges.contains (table : CodeRanges) (n : Nat) : Bool :=
  table.any fun range => range.1 ≤ n && n ≤ range.2

theorem within_iff {lo hi n : Nat} : (lo ≤ n && n ≤ hi) = true ↔ lo ≤ n ∧ n ≤ hi := by
  rw [Bool.and_eq_true, decide_eq_true_eq, decide_eq_true_eq]

end ConsoleReplay.Text
