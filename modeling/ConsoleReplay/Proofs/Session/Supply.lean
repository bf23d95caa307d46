import ConsoleReplay.Proofs.Session.Order
import ConsoleReplay.Replayer
import Mathlib.Data.List.Nodup

/-!
# The order in which rows are supplied

The rows of a session come from files, and files may hold them in any order.  What is
made of them depends on their keys alone: the rows are sorted first, and everything after
that, the start of the session included, looks at the sorted rows.  Only rows of one key
have an order that sorting cannot tell, and of them the supplied order is kept.

## Main definitions

* `LogRow.key` — what a row is sorted by.
* `LogRow.KeepOrder rows rows'` — the rows of every key come in the same order.

## Main results

* `LogRow.eq_of_isStableSort` — there is one stable sort of rows, and only one.
* `LogRow.keepOrder_of_nodup`, `LogRow.keepOrder_swap` — rows of different keys may change
  places.
* `Segmenter.segment_of_resupplied` — **sessions and summaries do not depend on the order
  in which rows are supplied**.
-/

namespace ConsoleReplay

namespace LogRow

variable {rows rows' sorted sorted' : List LogRow}

/-- What a row is sorted by: its time, and its number among the rows of one time. -/
def key (row : LogRow) : Instant × Int := (row.timestamp, row.sequence)

/-- The rows of every key are the same ones, in the same order.  Rows of different keys may come in
any order. -/
def KeepOrder (rows rows' : List LogRow) : Prop :=
  ∀ row, rows'.filter (sameKey row) = rows.filter (sameKey row)

theorem sameKey_iff_key {a b : LogRow} : sameKey a b = true ↔ a.key = b.key := by
  rw [sameKey_iff]
  simp only [key, Prod.mk.injEq]

theorem sameKey_self (row : LogRow) : sameKey row row = true := sameKey_iff_key.2 rfl

/-- Two rows each of which may stand before the other have one key. -/
theorem sameKey_of_notAfter {a b : LogRow} (hab : notAfter a b = true)
    (hba : notAfter b a = true) : sameKey a b = true := by
  rw [notAfter_iff] at hab hba
  rw [sameKey_iff]
  rcases hab with hab | ⟨htime, hle⟩
  · -- The earlier of two rows does not stand after the later one.
    have hnot := Instant.not_before_of_before hab
    rcases hba with hba | ⟨htime, -⟩
    · simp [hba] at hnot
    · rw [htime] at hab hnot
      simp [hab] at hnot
  · rcases hba with hba | ⟨-, hle'⟩
    · have hnot := Instant.not_before_of_before hba
      rw [htime] at hba hnot
      simp [hba] at hnot
    · exact ⟨htime, Int.le_antisymm hle hle'⟩

/-! ### There is one stable sort

Two sorted lists of the same rows may differ in the order of rows with equal keys only.  If that
order is fixed as well, there is nothing left in which they could differ. -/

/-- Rows in order are told by the rows of every key: sorting leaves no other choice. -/
theorem eq_of_pairwise_notAfter (h : sorted.Pairwise (notAfter · ·))
    (h' : sorted'.Pairwise (notAfter · ·)) (hkeys : KeepOrder sorted sorted') :
    sorted' = sorted := by
  -- The first rows have the least key, so they are the first of that key in both lists.
  induction sorted generalizing sorted' with
  | nil =>
    cases sorted' with
    | nil => rfl
    | cons b ys =>
      have hb := hkeys b
      simp [sameKey_self] at hb
  | cons a xs ih =>
    cases sorted' with
    | nil =>
      have ha := hkeys a
      simp [sameKey_self] at ha
    | cons b ys =>
      rw [List.pairwise_cons] at h h'
      have ha : a ∈ b :: ys := by
        have hmem : a ∈ (b :: ys).filter (sameKey a) := by
          rw [hkeys a]
          simp [sameKey_self]
        exact (List.mem_filter.1 hmem).1
      have hb : b ∈ a :: xs := by
        have hmem : b ∈ (a :: xs).filter (sameKey b) := by
          rw [← hkeys b]
          simp [sameKey_self]
        exact (List.mem_filter.1 hmem).1
      have hkey : sameKey a b = true := by
        rcases List.mem_cons.1 ha with rfl | ha
        · exact sameKey_self a
        · rcases List.mem_cons.1 hb with rfl | hb
          · exact sameKey_self b
          · exact sameKey_of_notAfter (h.1 b hb) (h'.1 a ha)
      have hfirst := hkeys a
      simp only [List.filter_cons, hkey, sameKey_self, if_true, List.cons.injEq] at hfirst
      obtain ⟨rfl, -⟩ := hfirst
      refine congrArg (b :: ·) (ih h.2 h'.2 ?_)
      intro row
      have hrow := hkeys row
      simp only [List.filter_cons] at hrow
      split at hrow
      · exact (List.cons.inj hrow).2
      · exact hrow

/-- **Rows have one stable sort**, and rows that keep the order of every key have the
same one. -/
theorem eq_of_isStableSort (h : IsStableSort rows sorted) (h' : IsStableSort rows' sorted')
    (hkeys : KeepOrder rows rows') : sorted' = sorted := by
  have hpair := h.pairwise.imp notAfter_iff.2
  have hpair' := h'.pairwise.imp notAfter_iff.2
  refine eq_of_pairwise_notAfter hpair hpair' ?_
  intro row
  rw [h'.stable row, h.stable row, hkeys row]

theorem inOrder_eq_of_keepOrder (h : KeepOrder rows rows') : inOrder rows' = inOrder rows :=
  eq_of_isStableSort (isStableSort_inOrder rows) (isStableSort_inOrder rows') h

/-! ### Rows that may change places -/

/-- Of rows with different keys there is at most one to a key. -/
theorem length_filter_sameKey_le (h : (rows.map key).Nodup) (row : LogRow) :
    (rows.filter (sameKey row)).length ≤ 1 := by
  have hnodup : ((rows.filter (sameKey row)).map key).Nodup :=
    h.sublist (List.filter_sublist.map key)
  have hall : ∀ k ∈ (rows.filter (sameKey row)).map key, k = row.key := by
    intro k hk
    obtain ⟨a, ha, rfl⟩ := List.mem_map.1 hk
    exact (sameKey_iff_key.1 (List.mem_filter.1 ha).2).symm
  rw [List.eq_replicate_of_mem hall, List.nodup_replicate, List.length_map] at hnodup
  exact hnodup

/-- Rows with different keys keep the order of every key, whatever order they are in. -/
theorem keepOrder_of_nodup (hkeys : (rows.map key).Nodup) (hperm : rows'.Perm rows) :
    KeepOrder rows rows' := by
  intro row
  have hfilter := hperm.filter (sameKey row)
  have hlen := length_filter_sameKey_le hkeys row
  -- Lists of at most one row are permutations of each other only if they are equal.
  cases hrows : rows.filter (sameKey row) with
  | nil =>
    rw [hrows] at hfilter
    exact hfilter.eq_nil
  | cons a rest =>
    cases rest with
    | nil =>
      rw [hrows] at hfilter
      exact List.perm_singleton.1 hfilter
    | cons b rest => simp [hrows] at hlen

/-- Two neighbours with different keys may change places, whatever stands around them. -/
theorem keepOrder_swap {a b : LogRow} (h : a.key ≠ b.key) (before after : List LogRow) :
    KeepOrder (before ++ a :: b :: after) (before ++ b :: a :: after) := by
  intro row
  simp only [List.filter_append, List.filter_cons]
  by_cases ha : sameKey row a = true
  · have hb : ¬ sameKey row b = true := by
      intro hb
      exact h ((sameKey_iff_key.1 ha).symm.trans (sameKey_iff_key.1 hb))
    simp [ha, hb]
  · simp [ha]

end LogRow

namespace Segmenter

open LogRow (key KeepOrder)

/-- **Sessions and summaries do not depend on the order in which rows are supplied.**  Rows
with different keys may be supplied in any order, and other rows in any order that keeps
the order of the rows of every key.  It holds of every dialect, policy, highlighter and
limit. -/
theorem segment_of_resupplied (seg : Segmenter) (rows rows' : List LogRow) :
    ((rows.map key).Nodup → rows'.Perm rows →
      seg.segment rows' = seg.segment rows
        ∧ summarize (seg.segment rows').frames = summarize (seg.segment rows).frames)
    ∧ (KeepOrder rows rows' →
      seg.segment rows' = seg.segment rows
        ∧ summarize (seg.segment rows').frames = summarize (seg.segment rows).frames) := by
  -- The rows are only used sorted, and a stable sort depends on the order within a key alone.
  have hsession (h : KeepOrder rows rows') : seg.segment rows' = seg.segment rows := by
    unfold segment
    rw [LogRow.inOrder_eq_of_keepOrder h]
  constructor
  · intro hkeys hperm
    have h := hsession (LogRow.keepOrder_of_nodup hkeys hperm)
    exact ⟨h, by rw [h]⟩
  · intro hkeep
    have h := hsession hkeep
    exact ⟨h, by rw [h]⟩

/-- Three commands of different keys supplied in reverse, and two commands of one key with
a third one supplied between them that comes first. -/
theorem segment_of_resupplied_commands :
    let seg := (Replayer.ofSettings {}).segmenter
    let first : LogRow := ⟨1, ⟨0, 0, 0⟩, true, "export\r"⟩
    let second : LogRow := ⟨2, ⟨0, 1, 0⟩, true, "log print\r"⟩
    let third : LogRow := ⟨2, ⟨0, 1, 0⟩, true, "quit\r"⟩
    let last : LogRow := ⟨3, ⟨0, 1, 0⟩, true, "system reboot\r"⟩
    (seg.segment [first, third, last]).frames.map Frame.rawContent
        = ["export\r", "quit\r", "system reboot\r"]
      ∧ summarize (seg.segment [last, third, first]).frames
        = summarize (seg.segment [first, third, last]).frames
      ∧ (seg.segment [second, first, third]).frames.map Frame.rawContent
        = ["export\r", "log print\r", "quit\r"] := by
  intro seg first second third last
  -- The sort does not reduce, so it is taken away before the sessions are evaluated.
  have hdistinct : LogRow.inOrder [first, third, last] = [first, third, last] :=
    List.mergeSort_of_pairwise (by decide)
  have hequal : LogRow.inOrder [first, second, third] = [first, second, third] :=
    List.mergeSort_of_pairwise (by decide)
  have hreverse := (seg.segment_of_resupplied [first, third, last] [last, third, first]).1
    (by decide) (by decide)
  have hswap : KeepOrder [first, second, third] [second, first, third] :=
    LogRow.keepOrder_swap (by decide) [] [third]
  have hbetween := (seg.segment_of_resupplied _ _).2 hswap
  refine ⟨?_, hreverse.2, ?_⟩
  · rw [segment, hdistinct]
    decide +kernel
  · rw [hbetween.1, segment, hequal]
    decide +kernel

end Segmenter

end ConsoleReplay
