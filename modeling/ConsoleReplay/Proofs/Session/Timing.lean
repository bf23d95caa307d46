import ConsoleReplay.Proofs.Session.Conservation
import ConsoleReplay.Proofs.Time.Elapsed
import ConsoleReplay.Replayer

/-!
# The times of frames

A frame shows the time from the first row of its session to the last row that went into
it.  So the times of the frames are some of the times of the rows, in the order of the
rows, and whether they ever decrease is a matter of the rows alone.

Rows are in order of their instants, and outside leap seconds an instant that comes later
is not less far from the first one.  In a leap second it may be: half a second into it
counts as a second and a half after the second before, but the midnight that follows
counts as one second after it.  Then the later row overtakes the earlier one, and only then.

## Main results

* `sublist_timestamps` — merging and dropping noise leave some of the times, in order.
* `lastTimestamp_eq` — of times that never decrease the last one is the largest.
* `timeOf_le_of_notAfter` — the times of rows in order never decrease, unless one overtakes
  another.
* `timestamps_of_not_overtakes` — **the times of frames never decrease**, and the session
  is as long as its last frame says, if the first row lies in no leap second and no row overtakes
  another.  There may be rows in leap seconds.
* `timestamps_of_no_leapSecond` — so it is without rows in leap seconds.
* `timestamps_at_leapSecond` — with such rows both can fail.
-/

namespace ConsoleReplay

open ConsoleReplay.Frame (linked Gathers)

/-! ### Times after merging and dropping noise -/

/-- Of the times of a run, merging leaves the last one. -/
theorem Frame.Gathers.sublist_timestamps {frames : List Frame} {f : Frame}
    (h : Gathers frames f) : [f.timestamp].Sublist (frames.map Frame.timestamp) := by
  refine List.singleton_sublist.2 ?_
  cases h with
  | single f => exact List.mem_singleton_self f.timestamp
  | @append frames f h g =>
    change g.timestamp ∈ (frames ++ [g]).map Frame.timestamp
    exact List.mem_map_of_mem (List.mem_append_right frames (List.mem_singleton_self g))

theorem sublist_timestamps_mergeFragments (policy : Policy) (frames : List Frame) :
    ((mergeFragments policy frames).map Frame.timestamp).Sublist
      (frames.map Frame.timestamp) := by
  have hruns := forall₂_mergeFragments policy frames
  have hflatten := List.flatten_splitBy (linked policy) frames
  generalize frames.splitBy (linked policy) = runs at hruns hflatten
  generalize mergeFragments policy frames = merged at hruns
  rw [← hflatten]
  clear hflatten
  induction hruns with
  | nil => exact .slnil
  | @cons run f runs merged hf hmerged ih =>
    rw [List.flatten_cons, List.map_append]
    exact hf.sublist_timestamps.append ih

/-- Merging and dropping noise leave some of the times, in order. -/
theorem sublist_timestamps (policy : Policy) (frames : List Frame) :
    ((refine policy frames).map Frame.timestamp).Sublist (frames.map Frame.timestamp) := by
  rw [refine_eq, dropNoise]
  exact (List.filter_sublist.map _).trans (sublist_timestamps_mergeFragments policy frames)

/-! ### The length of a session -/

/-- Of times that never decrease the last one is the largest, and without frames there is
only the time zero. -/
theorem lastTimestamp_eq {frames : List Frame}
    (h : (frames.map Frame.timestamp).Pairwise (· ≤ ·)) :
    lastTimestamp frames = (frames.getLast?.map Frame.timestamp).getD 0 := by
  -- The largest time so far is that of the frame before, so the induction is over both.
  have hfold (n : Nat) (hn : ∀ f ∈ frames, n ≤ f.timestamp) :
      frames.foldl (fun n f => max n f.timestamp) n
        = (frames.getLast?.map Frame.timestamp).getD n := by
    induction frames generalizing n with
    | nil => rfl
    | cons f frames ih =>
      rw [List.map_cons, List.pairwise_cons, List.forall_mem_map] at h
      rw [List.foldl_cons, Nat.max_eq_right (hn f (List.mem_cons_self ..)), ih h.2 _ h.1,
        List.getLast?_cons]
      cases frames.getLast? with
      | none => rfl
      | some g => rfl
  exact hfold 0 fun f _ => Nat.zero_le _

namespace Segmenter

variable {seg : Segmenter} {start : Instant} {a b : LogRow}

/-! ### The times of rows

The rows are in the order of their instants.  That their times are in the same order takes more:
times are counted on a clock that knows no leap seconds. -/

theorem timestamp_frameOf (seg : Segmenter) (start : Instant) (row : LogRow) :
    (seg.frameOf start row).timestamp = timeOf start row := by
  cases h : seg.isUnfit row with
  | true => rw [frameOf_of_unfit h]; rfl
  | false => rw [frameOf_of_fit h]

/-- The times of the frames of a session are some of those of its rows, in order. -/
theorem sublist_timestamps_segment (seg : Segmenter) (rows : List LogRow) :
    ((seg.segment rows).frames.map Frame.timestamp).Sublist
      ((LogRow.inOrder rows).map (timeOf (startOf rows))) := by
  rw [segment, ParsedSession.ofFrames, frames_inOrder]
  have h := sublist_timestamps seg.policy
    ((LogRow.inOrder rows).map (seg.frameOf (startOf rows)))
  rw [List.map_map] at h
  exact (List.map_congr_left fun row _ => timestamp_frameOf seg (startOf rows) row) ▸ h

/-- The times of rows in order never decrease, unless one of them overtakes the other. -/
theorem timeOf_le_of_notAfter (hstart : start.IsOrdinary) (ha : a.timestamp.IsReadable)
    (hb : b.timestamp.IsReadable) (hnot : ¬ Instant.Overtakes start a.timestamp b.timestamp)
    (h : LogRow.notAfter a b = true) : timeOf start a ≤ timeOf start b := by
  refine Int.toNat_le_toNat ?_
  rcases LogRow.notAfter_iff.1 h with hbefore | ⟨heq, -⟩
  · exact Instant.millisecondsSince_le_of_not_overtakes hstart ha hb hbefore hnot
  · exact Int.le_of_eq (congrArg (Instant.millisecondsSince · start) heq)

/-- A session counts from one of its rows, or from a fixed instant if it has none. -/
theorem startOf_cases {rows : List LogRow} {p : Instant → Prop} (hepoch : p .epoch)
    (h : ∀ row ∈ rows, p row.timestamp) : p (startOf rows) := by
  rw [startOf]
  cases hfirst : (LogRow.inOrder rows).head? with
  | none => exact hepoch
  | some first => exact h first ((LogRow.inOrder_perm rows).mem_iff.1 (List.mem_of_head? hfirst))

/-- Where no row overtakes another the times of the rows never decrease. -/
theorem pairwise_timeOf {rows : List LogRow} (hread : ∀ row ∈ rows, row.timestamp.IsReadable)
    (hstart : (startOf rows).IsOrdinary)
    (hnot : ∀ a ∈ rows, ∀ b ∈ rows,
      ¬ Instant.Overtakes (startOf rows) a.timestamp b.timestamp) :
    ((LogRow.inOrder rows).map (timeOf (startOf rows))).Pairwise (· ≤ ·) := by
  have hmem {row : LogRow} (hrow : row ∈ LogRow.inOrder rows) : row ∈ rows :=
    (LogRow.inOrder_perm rows).mem_iff.1 hrow
  have hsorted : (LogRow.inOrder rows).Pairwise (LogRow.notAfter · ·) :=
    (LogRow.isStableSort_inOrder rows).pairwise.imp LogRow.notAfter_iff.2
  rw [List.pairwise_map]
  exact hsorted.imp_of_mem fun {a b} ha hb hab =>
    timeOf_le_of_notAfter hstart (hread a (hmem ha)) (hread b (hmem hb))
      (hnot a (hmem ha) b (hmem hb)) hab

/-- **The times of frames never decrease where no row overtakes another**, and the session is as
long as its last frame says.  The first row may not lie in a leap second; others may. -/
theorem timestamps_of_not_overtakes (seg : Segmenter) {rows : List LogRow}
    (hread : ∀ row ∈ rows, ∃ cs, Instant.parse? cs = some row.timestamp)
    (hstart : (startOf rows).inLeapSecond = false)
    (hnot : ∀ a ∈ rows, ∀ b ∈ rows,
      ¬ Instant.Overtakes (startOf rows) a.timestamp b.timestamp) :
    ((seg.segment rows).frames.map Frame.timestamp).Pairwise (· ≤ ·)
      ∧ (seg.segment rows).totalDuration
        = ((seg.segment rows).frames.getLast?.map Frame.timestamp).getD 0 := by
  have hreadable : ∀ row ∈ rows, row.timestamp.IsReadable := by
    intro row hrow
    obtain ⟨cs, hcs⟩ := hread row hrow
    exact Instant.isReadable_of_parse? hcs
  -- Without any row the start is the fixed instant of an empty session, which is readable as
  -- well.
  have hfirst : (startOf rows).IsReadable :=
    startOf_cases ⟨by decide, by decide, by decide⟩ hreadable
  have htimes := (pairwise_timeOf hreadable (hfirst.isOrdinary hstart) hnot).sublist
    (sublist_timestamps_segment seg rows)
  exact ⟨htimes, lastTimestamp_eq htimes⟩

/-- **The times of frames never decrease, unless a row lies in a leap second.**  The rows
may come in any order, with any instants that are read from a text and any sequence
numbers, and whatever they are cut by, the session is as long as its last frame says. -/
theorem timestamps_of_no_leapSecond (seg : Segmenter) {rows : List LogRow}
    (hread : ∀ row ∈ rows, ∃ cs, Instant.parse? cs = some row.timestamp)
    (hleap : ∀ row ∈ rows, row.timestamp.inLeapSecond = false) :
    ((seg.segment rows).frames.map Frame.timestamp).Pairwise (· ≤ ·)
      ∧ (seg.segment rows).totalDuration
        = ((seg.segment rows).frames.getLast?.map Frame.timestamp).getD 0 := by
  have hfirst : (startOf rows).inLeapSecond = false :=
    startOf_cases (p := fun t => t.inLeapSecond = false) rfl hleap
  exact timestamps_of_not_overtakes seg hread hfirst fun a ha b hb =>
    Instant.not_overtakes (hleap a ha) (hleap b hb)

/-- Two commands at the turn of a year that brought a leap second. -/
theorem timestamps_of_two_commands :
    let seg := (Replayer.ofSettings {}).segmenter
    let rows : List LogRow := [⟨1, ⟨17166, 86399, 900000000⟩, true, "export\r"⟩,
      ⟨2, ⟨17167, 0, 0⟩, true, "quit\r"⟩]
    (seg.segment rows).frames.map Frame.timestamp = [0, 100]
      ∧ ((seg.segment rows).frames.map Frame.timestamp).Pairwise (· ≤ ·)
      ∧ (seg.segment rows).totalDuration
        = ((seg.segment rows).frames.getLast?.map Frame.timestamp).getD 0 := by
  intro seg rows
  -- The sort does not reduce, so it is taken away before the session is evaluated.
  have hsorted : LogRow.inOrder rows = rows := List.mergeSort_of_pairwise (by decide)
  have htimes : (seg.segment rows).frames.map Frame.timestamp = [0, 100] := by
    rw [segment, hsorted]
    decide +kernel
  have hread : ∀ row ∈ rows, ∃ cs, Instant.parse? cs = some row.timestamp :=
    List.forall_mem_cons.2 ⟨⟨"2016-12-31T23:59:59.9Z".toList, by decide +kernel⟩,
      List.forall_mem_singleton.2 ⟨"2017-01-01T00:00:00Z".toList, by decide +kernel⟩⟩
  exact ⟨htimes, timestamps_of_no_leapSecond seg hread (by decide)⟩

/-- With a third command inside the leap second the time of the last one is less than
that of the one before, and the session is longer than its last frame says. -/
theorem timestamps_at_leapSecond :
    let seg := (Replayer.ofSettings {}).segmenter
    let rows : List LogRow := [⟨1, ⟨17166, 86399, 900000000⟩, true, "export\r"⟩,
      ⟨2, ⟨17166, 86399, 1500000000⟩, true, "log\r"⟩, ⟨3, ⟨17167, 0, 0⟩, true, "quit\r"⟩]
    (∀ row ∈ rows, ∃ cs, Instant.parse? cs = some row.timestamp)
      ∧ (seg.segment rows).frames.map Frame.timestamp = [0, 600, 100]
      ∧ ¬ ((seg.segment rows).frames.map Frame.timestamp).Pairwise (· ≤ ·)
      ∧ (seg.segment rows).totalDuration
        ≠ ((seg.segment rows).frames.getLast?.map Frame.timestamp).getD 0 := by
  intro seg rows
  have hsorted : LogRow.inOrder rows = rows := List.mergeSort_of_pairwise (by decide)
  have hread : ∀ row ∈ rows, ∃ cs, Instant.parse? cs = some row.timestamp :=
    List.forall_mem_cons.2 ⟨⟨"2016-12-31T23:59:59.9Z".toList, by decide +kernel⟩,
      List.forall_mem_cons.2 ⟨⟨"2016-12-31T23:59:60.5Z".toList, by decide +kernel⟩,
        List.forall_mem_singleton.2 ⟨"2017-01-01T00:00:00Z".toList, by decide +kernel⟩⟩⟩
  refine ⟨hread, ?_⟩
  rw [segment, hsorted]
  decide +kernel

end Segmenter

end ConsoleReplay
