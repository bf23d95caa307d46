import ConsoleReplay.Proofs.Session.Grouping
import ConsoleReplay.Proofs.Session.Order
import ConsoleReplay.Session.Analysis

/-!
# Nothing captured is lost

A session cuts its rows, in order, into intervals.  Each interval gives one frame with
the captured text of its rows one after the other, and only frames that the policy
counts as noise are left out.  A row that cannot be analysed is an interval of its own,
and its frame always stays.

## Main definitions

* `Segmenter.isUnfit seg row` — the row is too large or looks like binary data.
* `Segmenter.startOf rows` — the time that the session of rows counts from.
* `Segmenter.Gives seg start rows f` — the frame that the rows of an interval give.

## Main results

* `Segmenter.frameOf_of_unfit`, `Segmenter.degraded_frameOf` — exactly the rows that are
  not fit for analysis give degraded frames.
* `Segmenter.gives_of_gathers` — what the fragments of a run add up to is given by their
  rows.
* `Segmenter.segment_intervals` — **nothing captured is lost, doubled or reordered**.
-/

namespace ConsoleReplay

open ConsoleReplay.Frame (linked Gathers)

namespace Segmenter

variable {seg : Segmenter} {start : Instant} {row : LogRow}

/-! ### The frame of one row -/

/-- Whether a row cannot be analysed: it is too large, or it looks like binary data. -/
def isUnfit (seg : Segmenter) (row : LogRow) : Bool :=
  decide (seg.rowBytes < row.content.utf8ByteSize) || row.content.toList.contains '\x00'

/-- The milliseconds from the start of a session to a row; none for a row before it. -/
def timeOf (start : Instant) (row : LogRow) : Nat :=
  (row.timestamp.millisecondsSince start).toNat

theorem frameOf_of_unfit (h : seg.isUnfit row = true) :
    seg.frameOf start row = degradedFrame row (timeOf start row) := by
  rw [isUnfit, Bool.or_eq_true, decide_eq_true_eq] at h
  rw [frameOf, analyze]
  by_cases hsize : seg.rowBytes < row.content.utf8ByteSize
  · rw [if_pos hsize]
    rfl
  · rw [if_neg hsize, if_pos (h.resolve_left hsize)]
    rfl

theorem frameOf_of_fit (h : seg.isUnfit row = false) :
    seg.frameOf start row = {
      timestamp := timeOf start row
      direction := directionOf row
      rawContent := row.content
      cleanedContent := Capture.clean row.content
      styledContent := seg.highlighter.render (Capture.clean row.content)
      context := if row.isInput then seg.inputContext? row.content
        else seg.outputContext? (Capture.clean row.content)
      degraded := false } := by
  rw [isUnfit, Bool.or_eq_false_iff, decide_eq_false_iff_not] at h
  rw [frameOf, analyze, if_neg h.1, if_neg (Bool.eq_false_iff.1 h.2)]
  rfl

/-- A row gives a degraded frame exactly if it cannot be analysed. -/
theorem degraded_frameOf (seg : Segmenter) (start : Instant) (row : LogRow) :
    (seg.frameOf start row).degraded = seg.isUnfit row := by
  cases h : seg.isUnfit row with
  | true => rw [frameOf_of_unfit h]; rfl
  | false => rw [frameOf_of_fit h]

/-- A row gives its captured text. -/
theorem rawContent_frameOf (seg : Segmenter) (start : Instant) (row : LogRow) :
    (seg.frameOf start row).rawContent = row.content := by
  cases h : seg.isUnfit row with
  | true => rw [frameOf_of_unfit h]; rfl
  | false => rw [frameOf_of_fit h]

/-- A row gives a frame of its direction. -/
theorem direction_frameOf (seg : Segmenter) (start : Instant) (row : LogRow) :
    (seg.frameOf start row).direction = directionOf row := by
  cases h : seg.isUnfit row with
  | true => rw [frameOf_of_unfit h]; rfl
  | false => rw [frameOf_of_fit h]

/-- A row whose frame may be a fragment was printed, can be analysed and is neither a
prompt nor a command. -/
theorem of_isCandidate (h : (seg.frameOf start row).isCandidate = true) :
    row.isInput = false ∧ seg.isUnfit row = false ∧ (seg.frameOf start row).isPrompt = false
      ∧ (seg.frameOf start row).isCommand = false := by
  simp only [Frame.isCandidate, Frame.isOutput, direction_frameOf, degraded_frameOf, directionOf,
    Bool.and_eq_true, Bool.not_eq_true', beq_iff_eq] at h
  obtain ⟨⟨⟨hdir, hunfit⟩, hcommand⟩, hprompt⟩ := h
  refine ⟨?_, hunfit, hprompt, hcommand⟩
  cases hinput : row.isInput with
  | true => rw [hinput] at hdir; exact absurd hdir Direction.noConfusion
  | false => rfl

/-! ### The frames of intervals -/

/-- The time that the session of rows counts from: that of the first row in order. -/
def startOf (rows : List LogRow) : Instant :=
  ((LogRow.inOrder rows).head?.map LogRow.timestamp).getD .epoch

theorem frames_inOrder (seg : Segmenter) (rows : List LogRow) :
    seg.frames (LogRow.inOrder rows) = (LogRow.inOrder rows).map (seg.frameOf (startOf rows)) := by
  rw [startOf]
  cases LogRow.inOrder rows with
  | nil => rfl
  | cons first sorted => rfl

/-- The frame that the rows of an interval give.  A single row gives its own frame;
several rows are outputs that can be analysed and are no prompts, and so is their frame. -/
structure Gives (seg : Segmenter) (start : Instant) (rows : List LogRow) (f : Frame) : Prop where
  ne_nil : rows ≠ []
  rawContent : f.rawContent = String.join (rows.map LogRow.content)
  cleanedContent :
    f.cleanedContent = String.join (rows.map fun row => (seg.frameOf start row).cleanedContent)
  styledContent :
    f.styledContent = String.join (rows.map fun row => (seg.frameOf start row).styledContent)
  single : ∀ row, rows = [row] → f = seg.frameOf start row
  several : 1 < rows.length → f.isCandidate = true ∧ ∀ row ∈ rows, row.isInput = false
    ∧ (seg.frameOf start row).degraded = false ∧ (seg.frameOf start row).isPrompt = false
  unfit : ∀ row ∈ rows, seg.isUnfit row = true → rows = [row] ∧ f.degraded = true
    ∧ f.rawContent = row.content ∧ f.cleanedContent = "" ∧ f.styledContent = ""
    ∧ f.context = none

/-- The rows of a run of more than one frame give frames that may be fragments. -/
theorem isCandidate_of_run {rows : List LogRow}
    (hrun : (rows.map (seg.frameOf start)).IsChain (linked seg.policy · ·))
    (hlen : 1 < rows.length) : ∀ row ∈ rows, (seg.frameOf start row).isCandidate = true := by
  intro row hrow
  refine isCandidate_of_isChain hrun ?_ _ (List.mem_map_of_mem hrow)
  rwa [List.length_map]

/-- A row that cannot be analysed is a run of its own. -/
theorem eq_singleton_of_unfit {rows : List LogRow}
    (hrun : (rows.map (seg.frameOf start)).IsChain (linked seg.policy · ·)) (hrow : row ∈ rows)
    (hunfit : seg.isUnfit row = true) : rows = [row] := by
  -- In a longer run it would have to be fit for analysis.
  have hlen : ¬ 1 < rows.length := fun hlen => by
    obtain ⟨-, hfit, -⟩ := of_isCandidate (isCandidate_of_run hrun hlen row hrow)
    rw [hunfit] at hfit
    exact absurd hfit.symm Bool.false_ne_true
  obtain ⟨row', rfl⟩ := List.length_eq_one_iff.1
    (Nat.le_antisymm (Nat.le_of_not_lt hlen) (List.length_pos_of_mem hrow))
  rw [List.mem_singleton.1 hrow]

/-- What the fragments of a run add up to is given by their rows. -/
theorem gives_of_gathers {rows : List LogRow} {f : Frame}
    (hrun : (rows.map (seg.frameOf start)).IsChain (linked seg.policy · ·))
    (h : Gathers (rows.map (seg.frameOf start)) f) : seg.Gives start rows f := by
  have hsingle (row : LogRow) (hrows : rows = [row]) : f = seg.frameOf start row := by
    rw [hrows] at h
    exact h.eq_of_single
  -- Each of the three contents is joined in the same way when two frames become one.
  have htext (part : Frame → String) (hpart : ∀ f g, part (f.append g) = part f ++ part g) :
      part f = String.join (rows.map fun row => part (seg.frameOf start row)) := by
    rw [h.text_eq part hpart, List.map_map]
    rfl
  exact {
    ne_nil := fun hnil => h.ne_nil (by rw [hnil, List.map_nil])
    rawContent := by
      rw [htext Frame.rawContent fun _ _ => rfl]
      simp only [rawContent_frameOf]
    cleanedContent := htext Frame.cleanedContent fun _ _ => rfl
    styledContent := htext Frame.styledContent fun _ _ => rfl
    single := hsingle
    several := fun hlen => by
      have hcand := isCandidate_of_run hrun hlen
      refine ⟨h.forall_of (P := fun g => g.isCandidate = true) (fun _ _ hf _ => hf)
        (List.forall_mem_map.2 hcand), fun row hrow => ?_⟩
      obtain ⟨hinput, hfit, hprompt, -⟩ := of_isCandidate (hcand row hrow)
      exact ⟨hinput, by rw [degraded_frameOf, hfit], hprompt⟩
    unfit := fun row hrow hunfit => by
      have hrows := eq_singleton_of_unfit hrun hrow hunfit
      rw [hsingle row hrows, frameOf_of_unfit hunfit]
      exact ⟨hrows, rfl, rfl, rfl, rfl, rfl⟩ }

/-- The rows of a session in order are cut into intervals that give the merged frames. -/
theorem exists_intervals (seg : Segmenter) (start : Instant) (rows : List LogRow) :
    ∃ intervals : List (List LogRow), intervals.flatten = rows ∧
      List.Forall₂ (seg.Gives start) intervals
        (mergeFragments seg.policy (rows.map (seg.frameOf start))) := by
  refine ⟨rows.splitBy fun a b => linked seg.policy (seg.frameOf start a) (seg.frameOf start b),
    List.flatten_splitBy _ _, ?_⟩
  have hgroups := forall₂_mergeFragments seg.policy (rows.map (seg.frameOf start))
  have hchains := (List.forall₂_and_left _ _).2
    ⟨fun _ => List.isChain_of_mem_splitBy (r := linked seg.policy), hgroups⟩
  rw [splitBy_map, List.forall₂_map_left_iff] at hchains
  exact hchains.imp fun _ _ h => gives_of_gathers h.1 h.2

/-! ### The frames of a session -/

/-- A frame stays unless it is neither a command nor a prompt nor degraded, and its plain
text is noise. -/
theorem isKept_eq (policy : Policy) (f : Frame) :
    f.isKept policy = !(!f.isCommand && !f.isPrompt && !f.degraded
      && policy.isNoise (Capture.plainText f.cleanedContent)) := by
  rw [Frame.isKept, Frame.plainText, Bool.not_and, Bool.not_and, Bool.not_and, Bool.not_not,
    Bool.not_not, Bool.not_not]

/-- An interval gives a degraded frame if it is a row that cannot be analysed, and holds
no such row otherwise. -/
theorem Gives.filter_degraded {rows : List LogRow} {f : Frame} (h : seg.Gives start rows f) :
    [f].filter Frame.degraded
      = (rows.filter seg.isUnfit).map fun row => degradedFrame row (timeOf start row) := by
  by_cases hfit : ∃ row ∈ rows, seg.isUnfit row = true
  · obtain ⟨row, hrow, hunfit⟩ := hfit
    have hrows := (h.unfit row hrow hunfit).1
    rw [hrows, h.single row hrows, frameOf_of_unfit hunfit, List.filter_cons_of_pos hunfit]
    rfl
  · have hnone : rows.filter seg.isUnfit = [] :=
      List.filter_eq_nil_iff.2 fun row hrow hunfit => hfit ⟨row, hrow, hunfit⟩
    -- The frame is a merged one, or that of the only row.
    have hf : f.degraded = false := by
      rcases Nat.lt_or_ge 1 rows.length with hlen | hlen
      · have hcand := (h.several hlen).1
        simp only [Frame.isCandidate, Bool.and_eq_true, Bool.not_eq_true'] at hcand
        exact hcand.1.1.2
      · obtain ⟨row, rfl⟩ := List.length_eq_one_iff.1
          (Nat.le_antisymm hlen (List.length_pos_iff.2 h.ne_nil))
        rw [h.single row rfl, degraded_frameOf]
        exact Bool.eq_false_iff.2 fun hunfit => hfit ⟨row, List.mem_singleton_self row, hunfit⟩
    rw [hnone, List.filter_cons_of_neg (Bool.eq_false_iff.1 hf)]
    rfl

theorem filter_degraded_of_gives {intervals : List (List LogRow)} {merged : List Frame}
    (h : List.Forall₂ (seg.Gives start) intervals merged) :
    merged.filter Frame.degraded = (intervals.flatten.filter seg.isUnfit).map fun row =>
      degradedFrame row (timeOf start row) := by
  induction h with
  | nil => rfl
  | @cons rows f intervals merged hf hmerged ih =>
    rw [List.flatten_cons, List.filter_append, List.map_append, ← hf.filter_degraded, ← ih,
      ← List.filter_append, List.singleton_append]

/-- **Nothing captured is lost, doubled or reordered.**  The rows, sorted stably, are cut
into intervals, each of which gives one frame with the captured text of its rows.  Those
frames are shown in order, save for noise.  Every row that cannot be analysed shows its
captured text in a degraded frame of its own. -/
theorem segment_intervals (seg : Segmenter) (rows : List LogRow) :
    LogRow.IsStableSort rows (LogRow.inOrder rows) ∧
    (∃ (intervals : List (List LogRow)) (merged : List Frame),
      intervals.flatten = LogRow.inOrder rows ∧
      List.Forall₂ (seg.Gives (startOf rows)) intervals merged ∧
      (seg.segment rows).frames = merged.filter fun f =>
        !(!f.isCommand && !f.isPrompt && !f.degraded
          && seg.policy.isNoise (Capture.plainText f.cleanedContent))) ∧
    (seg.segment rows).frames.filter Frame.degraded =
      ((LogRow.inOrder rows).filter seg.isUnfit).map fun row =>
        degradedFrame row (timeOf (startOf rows) row) := by
  obtain ⟨intervals, hflatten, hgives⟩ :=
    seg.exists_intervals (startOf rows) (LogRow.inOrder rows)
  have hframes : (seg.segment rows).frames = (mergeFragments seg.policy
      ((LogRow.inOrder rows).map (seg.frameOf (startOf rows)))).filter (·.isKept seg.policy) := by
    rw [segment, ParsedSession.ofFrames, refine_eq, dropNoise, frames_inOrder]
  refine ⟨LogRow.isStableSort_inOrder rows, ⟨intervals, _, hflatten, hgives, ?_⟩, ?_⟩
  · rw [hframes]
    exact List.filter_congr fun f _ => isKept_eq seg.policy f
  · -- Degraded frames are never noise, so dropping noise makes no difference to them.
    have hkept (f : Frame) : (f.degraded && f.isKept seg.policy) = f.degraded := by
      rw [Frame.isKept]
      cases f.degraded with
      | true => rw [Bool.or_true, Bool.true_or, Bool.true_and]
      | false => rw [Bool.false_and]
    rw [hframes, List.filter_filter, ← hflatten, ← filter_degraded_of_gives hgives, hflatten]
    simp only [hkept]

end Segmenter

end ConsoleReplay
