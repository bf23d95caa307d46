import ConsoleReplay.Proofs.Session.Summary
import Mathlib.Algebra.GroupWithZero.Nat
import Mathlib.Algebra.Order.BigOperators.Group.List
import Mathlib.Algebra.Order.Group.Nat

/-!
# The times of a timeline

An entry of a timeline lasts until the next frame, whatever that is, while the timeline passes over
frames that are no commands.  Where frames stand in the order of time, the spans from each frame to
the next one tile the session: each begins where the one before it ends.  The spans of the entries
are some of these tiles, so they do not overlap and are together no longer than the session.

## Main definitions

* `Span` — a stretch of time; `TimelineEntry.span` is that of an entry.
* `Tiles stop start spans` — spans that follow each other from one time to another.
* `Frame.isTold f` — the frame is a command and carries its text.
* `spansOf last frames` — the spans from each frame to the next one.

## Main results

* `Tiles.bounds`, `Tiles.pairwise`, `Tiles.sum_length` — tiles keep inside, do not overlap, and are
  together as long as what they tile.
* `tiles_spansOf` — the spans of frames tile a session.
* `span_timelineOf_sublist`, `forall₂_position_timelineOf` — which of them the entries have.
* `summarize_tiles` — **the entries of a summary tile the session**, up to the tiles of other
  frames.
-/

namespace ConsoleReplay

/-! ### Tiles

A list of spans tiles a stretch of time if each of them begins where the one before it ended.
Whatever is told about entries follows from the tiles of all frames, of which theirs are some. -/

/-- A stretch of time, in milliseconds since the first row of the session. -/
structure Span where
  start : Nat
  stop : Nat
  deriving DecidableEq, Repr

def Span.length (s : Span) : Nat := s.stop - s.start

/-- Spans that follow each other from one time up to another, without a gap and without overlap.
Some may be empty. -/
inductive Tiles (stop : Nat) : Nat → List Span → Prop
  | nil : Tiles stop stop []
  | cons {start next : Nat} {spans : List Span} (hstart : start ≤ next)
      (h : Tiles stop next spans) : Tiles stop start (⟨start, next⟩ :: spans)

variable {start stop : Nat} {spans : List Span}

theorem Tiles.le (h : Tiles stop start spans) : start ≤ stop := by
  induction h with
  | nil => exact Nat.le_refl stop
  | cons hstart _ ih => exact Nat.le_trans hstart ih

/-- Tiles keep inside what they tile. -/
theorem Tiles.bounds (h : Tiles stop start spans) :
    ∀ s ∈ spans, start ≤ s.start ∧ s.start ≤ s.stop ∧ s.stop ≤ stop := by
  induction h with
  | nil => exact List.forall_mem_nil _
  | cons hstart h ih =>
    refine List.forall_mem_cons.2 ⟨⟨Nat.le_refl _, hstart, h.le⟩, fun s hs => ?_⟩
    obtain ⟨hs, hinside⟩ := ih s hs
    exact ⟨Nat.le_trans hstart hs, hinside⟩

/-- A tile ends before the ones after it begin. -/
theorem Tiles.pairwise (h : Tiles stop start spans) :
    spans.Pairwise fun s t => s.stop ≤ t.start := by
  induction h with
  | nil => exact .nil
  | cons _ h ih => exact .cons (fun s hs => (h.bounds s hs).1) ih

/-- Tiles are together as long as what they tile. -/
theorem Tiles.sum_length (h : Tiles stop start spans) :
    start + (spans.map Span.length).sum = stop := by
  induction h with
  | nil => rfl
  | cons hstart _ ih =>
    rw [List.map_cons, List.sum_cons, Span.length]
    dsimp only
    omega

/-! ### The spans of frames -/

/-- Whether a frame is a command and carries its text.  Others are left out of a summary. -/
def Frame.isTold (f : Frame) : Bool := f.isCommand && f.command?.isSome

/-- From when to when an entry lasts. -/
def TimelineEntry.span (e : TimelineEntry) : Span :=
  ⟨e.timestamp, e.timestamp + e.durationUntilNextFrame⟩

/-- The spans from each frame to the next one, whatever that is; the last frame lasts until the end
of the session. -/
def spansOf (last : Nat) : List Frame → List Span
  | [] => []
  | f :: frames => ⟨f.timestamp, frames.head?.elim last Frame.timestamp⟩ :: spansOf last frames

/-- Frames in the order of time, none of them after the end of the session. -/
structure InTime (last : Nat) (frames : List Frame) : Prop where
  pairwise : frames.Pairwise fun f g => f.timestamp ≤ g.timestamp
  le_last : ∀ f ∈ frames, f.timestamp ≤ last

variable {last : Nat} {f : Frame} {frames : List Frame}

theorem InTime.tail (h : InTime last (f :: frames)) : InTime last frames :=
  ⟨h.pairwise.of_cons, fun _ hg => h.le_last _ (List.mem_cons_of_mem f hg)⟩

/-- A frame is not later than the next one, or else than the end of the session. -/
theorem InTime.le_next (h : InTime last (f :: frames)) :
    f.timestamp ≤ frames.head?.elim last Frame.timestamp := by
  cases frames with
  | nil => exact h.le_last f List.mem_cons_self
  | cons g frames => exact List.rel_of_pairwise_cons h.pairwise List.mem_cons_self

/-- No frame is later than the last timestamp. -/
theorem le_lastTimestamp : ∀ f ∈ frames, f.timestamp ≤ lastTimestamp frames := by
  have fold (n : Nat) : n ≤ frames.foldl (fun n f => max n f.timestamp) n
      ∧ ∀ f ∈ frames, f.timestamp ≤ frames.foldl (fun n f => max n f.timestamp) n := by
    induction frames generalizing n with
    | nil => exact ⟨Nat.le_refl n, List.forall_mem_nil _⟩
    | cons f frames ih =>
      obtain ⟨hn, hframes⟩ := ih (max n f.timestamp)
      rw [List.foldl_cons]
      exact ⟨by omega, List.forall_mem_cons.2 ⟨by omega, hframes⟩⟩
  exact (fold 0).2

/-- The spans of frames tile a session. -/
theorem tiles_spansOf (h : InTime last frames) :
    Tiles last (frames.head?.elim last Frame.timestamp) (spansOf last frames) := by
  induction frames with
  | nil => exact .nil
  | cons f frames ih => exact .cons h.le_next (ih h.tail)

/-! ### The spans of entries -/

theorem Frame.timelineEntry?_of_not_isTold (h : f.isTold = false) (next : Nat) :
    f.timelineEntry? next = none := by
  rw [isTold, Bool.and_eq_false_iff] at h
  cases hmark : f.isCommand with
  | false => exact timelineEntry?_of_not_isCommand hmark next
  | true =>
    have hcommand := Option.not_isSome_iff_eq_none.1
      (Bool.eq_false_iff.1 (h.resolve_left (by simp [hmark])))
    unfold timelineEntry?
    rw [if_pos hmark, hcommand, Option.map_none]

/-- A command that carries its text has an entry, which lasts until the next frame. -/
theorem Frame.exists_entry (h : f.isTold = true) {next : Nat} (hnext : f.timestamp ≤ next) :
    ∃ e, f.timelineEntry? next = some e ∧ e.Tells f ∧ e.span = ⟨f.timestamp, next⟩ := by
  obtain ⟨hmark, hcommand⟩ := Bool.and_eq_true_iff.1 h
  obtain ⟨command, hsome⟩ := Option.isSome_iff_exists.1 hcommand
  unfold timelineEntry?
  rw [if_pos hmark, hsome, Option.map_some]
  refine ⟨_, rfl, ⟨hsome, rfl, rfl, rfl⟩, ?_⟩
  rw [TimelineEntry.span, Nat.add_sub_cancel' hnext]

/-- The spans of the entries are some of the spans of the frames.  Those of frames that are told, in
order. -/
theorem span_timelineOf_sublist (h : InTime last frames) :
    ((timelineOf last frames).map TimelineEntry.span).Sublist (spansOf last frames) := by
  induction frames with
  | nil => exact .slnil
  | cons f frames ih =>
    rw [timelineOf_cons, spansOf]
    cases htold : f.isTold with
    | false =>
      rw [f.timelineEntry?_of_not_isTold htold]
      exact .cons _ (ih h.tail)
    | true =>
      obtain ⟨e, he, -, hspan⟩ := f.exists_entry htold h.le_next
      rw [he, Option.toList_some, List.singleton_append, List.map_cons, hspan]
      exact .cons_cons _ (ih h.tail)

/-- Where in a list the frames are that are told. -/
def toldPlaces (frames : List Frame) : List Nat :=
  (List.range frames.length).filter fun i => frames[i]?.any Frame.isTold

theorem toldPlaces_cons (f : Frame) (frames : List Frame) :
    toldPlaces (f :: frames)
      = (if f.isTold then [0] else []) ++ (toldPlaces frames).map Nat.succ := by
  have htail : ((List.range frames.length).map Nat.succ).filter
        (fun i => (f :: frames)[i]?.any Frame.isTold)
      = (toldPlaces frames).map Nat.succ := List.filter_map
  rw [toldPlaces, List.length_cons, List.range_succ_eq_map, List.filter_cons, htail]
  cases htold : f.isTold <;> simp [htold]

/-- The entries tell of the frames that are told, one after the other, and each lasts until the
next frame of any kind. -/
theorem forall₂_position_timelineOf (h : InTime last frames) :
    List.Forall₂
      (fun e i => ∃ f, frames[i]? = some f ∧ e.Tells f
        ∧ e.span = ⟨f.timestamp, frames[i + 1]?.elim last Frame.timestamp⟩)
      (timelineOf last frames) (toldPlaces frames) := by
  induction frames with
  | nil => exact .nil
  | cons f frames ih =>
    -- The places of the frames behind the first one are one further down.
    have hrest : List.Forall₂
        (fun e i => ∃ g, (f :: frames)[i]? = some g ∧ e.Tells g
          ∧ e.span = ⟨g.timestamp, (f :: frames)[i + 1]?.elim last Frame.timestamp⟩)
        (timelineOf last frames) ((toldPlaces frames).map Nat.succ) :=
      List.forall₂_map_right_iff.2 (ih h.tail)
    rw [timelineOf_cons, toldPlaces_cons]
    cases htold : f.isTold with
    | false =>
      rw [f.timelineEntry?_of_not_isTold htold]
      exact hrest
    | true =>
      obtain ⟨e, he, htells, hspan⟩ := f.exists_entry htold h.le_next
      rw [he]
      refine .cons ⟨f, rfl, htells, ?_⟩ hrest
      rw [hspan, List.head?_eq_getElem?, Nat.zero_add, List.getElem?_cons_succ]

/-- **The entries of a summary tile the session**, up to the tiles of other frames.  For frames in
the order of time there is an entry for each command that carries its text, in order; it tells of
its frame and lasts until the next frame, or until the end of the session.  So entries overlap at
most in their end points, keep between the first frame and the end of the session, and are together
no longer than that. -/
theorem summarize_tiles {frames : List Frame}
    (h : frames.Pairwise fun f g => f.timestamp ≤ g.timestamp) :
    let summary := summarize frames
    let start := frames.head?.elim summary.totalDuration Frame.timestamp
    List.Forall₂
        (fun e i => ∃ f, frames[i]? = some f ∧ e.Tells f
          ∧ e.timestamp + e.durationUntilNextFrame
            = frames[i + 1]?.elim summary.totalDuration Frame.timestamp)
        summary.timeline
        ((List.range frames.length).filter fun i =>
          frames[i]?.any fun f => f.isCommand && f.command?.isSome)
      ∧ Tiles summary.totalDuration start (spansOf summary.totalDuration frames)
      ∧ (summary.timeline.map TimelineEntry.span).Sublist (spansOf summary.totalDuration frames)
      ∧ (summary.timeline.Pairwise fun e e' =>
          e.timestamp + e.durationUntilNextFrame ≤ e'.timestamp)
      ∧ (∀ e ∈ summary.timeline, start ≤ e.timestamp
          ∧ e.timestamp + e.durationUntilNextFrame ≤ summary.totalDuration)
      ∧ (summary.timeline.map TimelineEntry.durationUntilNextFrame).sum
          ≤ summary.totalDuration - start := by
  intro summary start
  -- Times in order and the end of the session behind them all is what makes the spans follow
  -- each other without gaps; the clamped lengths of the program are then the true ones.
  have hframes : InTime summary.totalDuration frames := ⟨h, le_lastTimestamp⟩
  have htiles : Tiles summary.totalDuration start (spansOf summary.totalDuration frames) :=
    tiles_spansOf hframes
  have hsub : (summary.timeline.map TimelineEntry.span).Sublist
      (spansOf summary.totalDuration frames) := span_timelineOf_sublist hframes
  refine ⟨?_, htiles, hsub, ?_, fun e he => ?_, ?_⟩
  · refine (forall₂_position_timelineOf hframes).imp fun e i => ?_
    rintro ⟨f, hf, htells, hspan⟩
    exact ⟨f, hf, htells, congrArg Span.stop hspan⟩
  · exact List.pairwise_map.1 (htiles.pairwise.sublist hsub)
  · obtain ⟨hstart, -, hstop⟩ := htiles.bounds e.span (hsub.subset (List.mem_map_of_mem he))
    exact ⟨hstart, hstop⟩
  · have hlengths : summary.timeline.map TimelineEntry.durationUntilNextFrame
        = (summary.timeline.map TimelineEntry.span).map Span.length := by
      rw [List.map_map]
      exact List.map_congr_left fun e _ => (Nat.add_sub_cancel_left ..).symm
    have hsum := (hsub.map Span.length).sum_le_sum fun _ _ => Nat.zero_le _
    rw [← hlengths] at hsum
    have htotal := htiles.sum_length
    omega

/-- A command, two outputs at one time, and a last command at the end of the session. -/
theorem summarize_tiles_mixed :
    let frame (timestamp : Nat) (command : Option String) : Frame :=
      ⟨timestamp, .input, "", "", "",
        command.map fun text => { isCommand := true, command := some text }, false⟩
    let frames := [frame 5 none, frame 100 (some "export"), frame 350 none, frame 350 none,
      frame 900 (some "quit")]
    frames.Pairwise (fun f g => f.timestamp ≤ g.timestamp)
      ∧ (summarize frames).timeline.map TimelineEntry.span = [⟨100, 350⟩, ⟨900, 900⟩]
      ∧ ((summarize frames).timeline.map TimelineEntry.durationUntilNextFrame).sum ≤ 900 - 5 := by
  intro frame frames
  have hsorted : frames.Pairwise (fun f g => f.timestamp ≤ g.timestamp) := by decide
  obtain ⟨-, -, -, -, -, hsum⟩ := summarize_tiles hsorted
  exact ⟨hsorted, by decide, hsum⟩

end ConsoleReplay
