import ConsoleReplay.Session.Row

/-!
# The order of rows

Rows are put in the order of their keys, which are a time and a sequence number, and
rows of one key stay in the order in which they were supplied.

## Main definitions

* `LogRow.sameKey a b` — the rows have one key.
* `LogRow.IsStableSort rows sorted` — rows in the order of their keys, those of one key
  as they were.

## Main results

* `LogRow.isStableSort_inOrder` — **rows are put in order stably**.
-/

namespace ConsoleReplay

theorem Instant.before_trans {a b c : Instant} (hab : a.before b = true)
    (hbc : b.before c = true) : a.before c = true := by
  simp only [before, Bool.or_eq_true, Bool.and_eq_true, decide_eq_true_eq] at hab hbc ⊢
  omega

namespace LogRow

/-- Whether two rows have one key. -/
def sameKey (a b : LogRow) : Bool := a.timestamp == b.timestamp && a.sequence == b.sequence

theorem sameKey_iff {a b : LogRow} :
    sameKey a b = true ↔ a.timestamp = b.timestamp ∧ a.sequence = b.sequence := by
  rw [sameKey, Bool.and_eq_true, beq_iff_eq, beq_iff_eq]

theorem notAfter_iff {a b : LogRow} :
    notAfter a b = true ↔
      a.timestamp.before b.timestamp = true ∨
        a.timestamp = b.timestamp ∧ a.sequence ≤ b.sequence := by
  rw [notAfter, Bool.or_eq_true, Bool.and_eq_true, beq_iff_eq, decide_eq_true_eq]

theorem notAfter_trans (a b c : LogRow) (hab : notAfter a b = true) (hbc : notAfter b c = true) :
    notAfter a c = true := by
  rw [notAfter_iff] at hab hbc ⊢
  rcases hab with hab | ⟨hab, hle⟩
  · rcases hbc with hbc | ⟨hbc, -⟩
    · exact .inl (Instant.before_trans hab hbc)
    · exact .inl (hbc ▸ hab)
  · rcases hbc with hbc | ⟨hbc, hle'⟩
    · exact .inl (hab ▸ hbc)
    · exact .inr ⟨hab.trans hbc, Int.le_trans hle hle'⟩

theorem notAfter_total (a b : LogRow) : (notAfter a b || notAfter b a) = true := by
  rw [Bool.or_eq_true, notAfter_iff, notAfter_iff]
  rcases Instant.before_trichotomy a.timestamp b.timestamp with h | h | h
  · exact .inl (.inl h)
  · rcases Int.le_total a.sequence b.sequence with hle | hle
    · exact .inl (.inr ⟨h, hle⟩)
    · exact .inr (.inr ⟨h.symm, hle⟩)
  · exact .inr (.inl h)

theorem notAfter_of_sameKey {row a b : LogRow} (ha : sameKey row a = true)
    (hb : sameKey row b = true) : notAfter a b = true := by
  rw [sameKey_iff] at ha hb
  exact notAfter_iff.2 (.inr ⟨ha.1.symm.trans hb.1, Int.le_of_eq (ha.2.symm.trans hb.2)⟩)

/-- Rows in the order of their keys, where rows of one key stay as they were.  Any two such lists of
the same rows are equal. -/
structure IsStableSort (rows sorted : List LogRow) : Prop where
  perm : sorted.Perm rows
  pairwise : sorted.Pairwise fun a b =>
    a.timestamp.before b.timestamp = true ∨ a.timestamp = b.timestamp ∧ a.sequence ≤ b.sequence
  stable : ∀ row, sorted.filter (sameKey row) = rows.filter (sameKey row)

/-- Putting rows in order leaves the rows of one key as they were.  A stable sort never exchanges
two rows that may stand in either order. -/
theorem filter_sameKey_inOrder (rows : List LogRow) (row : LogRow) :
    (inOrder rows).filter (sameKey row) = rows.filter (sameKey row) := by
  -- The rows of a key are in order as they are, and sorting keeps such a sublist.
  have hpair : (rows.filter (sameKey row)).Pairwise (notAfter · ·) := by
    refine List.pairwise_iff_forall_sublist.2 fun {a b} hab => ?_
    have ha : a ∈ rows.filter (sameKey row) := hab.subset (List.mem_cons_self ..)
    have hb : b ∈ rows.filter (sameKey row) :=
      hab.subset (List.mem_cons_of_mem _ (List.mem_cons_self ..))
    exact notAfter_of_sameKey (List.mem_filter.1 ha).2 (List.mem_filter.1 hb).2
  have hsub : (rows.filter (sameKey row)).Sublist (inOrder rows) :=
    List.sublist_mergeSort notAfter_trans notAfter_total hpair List.filter_sublist
  have hsub' := hsub.filter (sameKey row)
  rw [List.filter_filter] at hsub'
  simp only [Bool.and_self] at hsub'
  exact (hsub'.eq_of_length ((inOrder_perm rows).filter _).length_eq.symm).symm

/-- **Rows are put in order stably.** -/
theorem isStableSort_inOrder (rows : List LogRow) : IsStableSort rows (inOrder rows) where
  perm := inOrder_perm rows
  pairwise := (List.pairwise_mergeSort notAfter_trans notAfter_total rows).imp notAfter_iff.1
  stable := filter_sameKey_inOrder rows

end LogRow

end ConsoleReplay
