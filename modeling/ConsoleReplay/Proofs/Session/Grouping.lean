import ConsoleReplay.Session.Fragments
import Mathlib.Data.List.SplitBy
import Mathlib.Data.List.Forall2

/-!
# Merging is grouping

Two frames in a row are linked if both may be fragments, the second comes soon enough
after the first, and the policy takes them for a pair.  Merging puts one frame in the
place of each longest run of linked frames: the block in the making is always the run
that the last frame belongs to, and the next frame is compared with that frame alone.

## Main definitions

* `Frame.linked policy f g` — the frames are two fragments of one block.
* `Frame.Gathers frames f` — a frame is what its fragments, one after the other, add
  up to.
* `Merging.Reaches m groups run last` — where a merging stands after complete groups
  of frames and a run in progress.

## Main results

* `Frame.Gathers.text_eq`, `Frame.Gathers.timestamp_eq` — what a gathered frame is made
  of.
* `Merging.Reaches.take_linked`, `Merging.Reaches.take_apart` — what the next frame does
  to a merging.
* `forall₂_mergeFragments` — **merging gives one frame for each run** of linked frames.
-/

namespace ConsoleReplay

namespace Frame

/-- Whether two frames in a row are fragments of one block.  It is asked of the frames as they were
before merging, which is the same: a block has the time of its last fragment and is compared by the
text of that. -/
def linked (policy : Policy) (f g : Frame) : Bool :=
  f.isCandidate && g.isCandidate && decide (g.timestamp - f.timestamp ≤ policy.mergeWindow)
    && policy.isFragmentPair f.plainText g.plainText

theorem isCandidate_of_linked {policy : Policy} {f g : Frame} (h : linked policy f g = true) :
    f.isCandidate = true ∧ g.isCandidate = true := by
  simp only [linked, Bool.and_eq_true] at h
  exact h.1.1

/-- A frame is what fragments, one after the other, add up to. -/
inductive Gathers : List Frame → Frame → Prop
  | single (f : Frame) : Gathers [f] f
  | append {frames : List Frame} {f : Frame} (h : Gathers frames f) (g : Frame) :
      Gathers (frames ++ [g]) (f.append g)

namespace Gathers

variable {frames : List Frame} {f g : Frame}

theorem ne_nil (h : Gathers frames f) : frames ≠ [] := by
  cases h with
  | single f => exact List.cons_ne_nil f []
  | append h g => exact List.append_ne_nil_of_right_ne_nil _ (List.cons_ne_nil g [])

/-- The last fragment is the only one, or it is appended to what those before it add
up to. -/
theorem of_concat (h : Gathers (frames ++ [g]) f) :
    frames = [] ∧ f = g ∨ ∃ f', Gathers frames f' ∧ f = f'.append g := by
  generalize hgs : frames ++ [g] = gs at h
  cases h with
  | single f =>
    obtain ⟨rfl, hg⟩ := List.append_eq_singleton_iff.1 hgs |>.resolve_right fun h' =>
      List.cons_ne_nil g [] h'.2
    exact .inl ⟨rfl, (List.singleton_inj.1 hg).symm⟩
  | @append frames' f' h k =>
    obtain ⟨rfl, hg⟩ := List.append_inj' hgs rfl
    exact .inr ⟨f', h, by rw [List.singleton_inj.1 hg]⟩

/-- One fragment is the frame itself. -/
theorem eq_of_single (h : Gathers [g] f) : f = g := by
  rcases of_concat (show Gathers ([] ++ [g]) f from h) with ⟨-, hf⟩ | ⟨f', hf', -⟩
  · exact hf
  · exact absurd rfl hf'.ne_nil

/-- A gathered frame has the time of its last fragment. -/
theorem timestamp_eq (h : Gathers (frames ++ [g]) f) : f.timestamp = g.timestamp := by
  rcases h.of_concat with ⟨-, rfl⟩ | ⟨f', -, rfl⟩ <;> rfl

/-- A text that appending puts together is put together from those of all fragments. -/
theorem text_eq (part : Frame → String) (hpart : ∀ f g, part (f.append g) = part f ++ part g)
    (h : Gathers frames f) : part f = String.join (frames.map part) := by
  induction h with
  | single f => rw [List.map_singleton, String.join_cons, String.join_nil, String.append_empty]
  | append h g ih =>
    rw [hpart, ih, List.map_append, String.join_append, List.map_singleton, String.join_cons,
      String.join_nil, String.append_empty]

/-- What holds of all fragments, and of two frames as one, holds of a gathered frame. -/
theorem forall_of {P : Frame → Prop} (happend : ∀ f g, P f → P g → P (f.append g))
    (h : Gathers frames f) (hframes : ∀ g ∈ frames, P g) : P f := by
  induction h with
  | single f => exact hframes f (List.mem_singleton_self f)
  | append h g ih =>
    refine happend _ g (ih fun k hk => hframes k (List.mem_append_left _ hk)) (hframes g ?_)
    exact List.mem_append_right _ (List.mem_singleton_self g)

end Gathers

end Frame

/-! ### Where a merging stands

While frames are merged, the runs that are complete have become frames, and the last run is the
block in the making.  This is the invariant of the induction over the frames. -/

open ConsoleReplay.Frame (linked Gathers)

namespace Merging

variable {policy : Policy} {m : Merging} {groups : List (List Frame)} {run : List Frame}
  {last f : Frame}

/-- Where a merging stands after complete groups of frames and a run in progress, all in
reverse.  The run is the block in the making if its last frame may be a fragment. -/
inductive Reaches : Merging → List (List Frame) → List Frame → Frame → Prop
  | opened {done : List Frame} {groups : List (List Frame)} {frame last : Frame}
      {run : List Frame} {merged : Nat} (hdone : List.Forall₂ Gathers groups done)
      (hrun : Gathers (last :: run).reverse frame) (hlast : last.isCandidate = true) :
      Reaches ⟨done, some ⟨frame, last.plainText⟩, merged⟩ groups run last
  | closed {done : List Frame} {groups : List (List Frame)} {frame last : Frame}
      {run : List Frame} {merged : Nat} (hdone : List.Forall₂ Gathers groups done)
      (hrun : Gathers (last :: run).reverse frame) (hlast : last.isCandidate = false) :
      Reaches ⟨frame :: done, none, merged⟩ groups run last

/-- Completing the block in the making completes the run. -/
theorem Reaches.close (h : Reaches m groups run last) :
    List.Forall₂ Gathers ((last :: run).reverse :: groups) m.close := by
  cases h with
  | opened hdone hrun hlast => exact .cons hrun hdone
  | closed hdone hrun hlast => exact .cons hrun hdone

/-- After complete groups the next frame begins a run. -/
theorem reaches_begin {done : List Frame} (hdone : List.Forall₂ Gathers groups done)
    (f : Frame) (merged : Nat) :
    Reaches (if f.isCandidate then ⟨done, some ⟨f, f.plainText⟩, merged⟩
      else ⟨f :: done, none, merged⟩) groups [] f := by
  split
  · exact .opened hdone (.single f) ‹_›
  · exact .closed hdone (.single f) (Bool.eq_false_iff.2 ‹_›)

/-- A block goes on with a frame that is linked with its last fragment, and with no
other one that may be a fragment. -/
theorem takes_eq_linked {frame : Frame} (hrun : Gathers (last :: run).reverse frame)
    (hlast : last.isCandidate = true) (hf : f.isCandidate = true) :
    Block.takes policy ⟨frame, last.plainText⟩ f f.plainText = linked policy last f := by
  rw [List.reverse_cons] at hrun
  rw [Block.takes, linked, hlast, hf, hrun.timestamp_eq, Bool.and_self, Bool.true_and]

/-- A frame that is linked with the last one goes on with the run. -/
theorem Reaches.take_linked (h : Reaches m groups run last) (hf : linked policy last f = true) :
    Reaches (m.take policy f) groups (last :: run) f := by
  have hcand := Frame.isCandidate_of_linked hf
  cases h with
  | opened hdone hrun hlast =>
    rw [Merging.take, if_pos hcand.2]
    simp only [takes_eq_linked hrun hlast hcand.2, hf, if_true]
    refine .opened hdone ?_ hcand.2
    rw [List.reverse_cons]
    exact hrun.append f
  | closed hdone hrun hlast =>
    rw [hcand.1] at hlast
    exact absurd hlast.symm Bool.false_ne_true

/-- A frame that is not linked with the last one completes the run and begins another. -/
theorem Reaches.take_apart (h : Reaches m groups run last) (hf : linked policy last f = false) :
    Reaches (m.take policy f) ((last :: run).reverse :: groups) [] f := by
  -- Whether a block is open or not, what counts is the merging with its run completed.
  have hclose := h.close
  have hbegin := reaches_begin hclose f m.merged
  suffices hm : m.take policy f = if f.isCandidate then ⟨m.close, some ⟨f, f.plainText⟩, m.merged⟩
      else ⟨f :: m.close, none, m.merged⟩ by
    rw [hm]
    exact hbegin
  rw [Merging.take]
  split
  · rename_i hcand
    cases h with
    | opened hdone hrun hlast =>
      simp only [takes_eq_linked hrun hlast hcand, hf]
      rfl
    | closed hdone hrun hlast => rfl
  · rfl

/-- A merging of more frames follows their cutting into runs.  The invariant says that the block in
the making is what its run so far adds up to. -/
theorem Reaches.forall₂_foldl (h : Reaches m groups run last) (frames : List Frame) :
    List.Forall₂ Gathers (List.splitBy.loop (linked policy) frames last run groups)
      (frames.foldl (Merging.take policy) m).close.reverse := by
  -- The cutting keeps the groups, the run and its last frame just as `Reaches` does, so
  -- that both take the same step at every frame.
  induction frames generalizing m groups run last with
  | nil =>
    rw [List.splitBy.loop, List.foldl_nil]
    exact List.rel_reverse h.close
  | cons f frames ih =>
    rw [List.splitBy.loop, List.foldl_cons]
    cases hf : linked policy last f with
    | true => exact ih (h.take_linked hf)
    | false => exact ih (h.take_apart hf)

end Merging

/-- **Merging is grouping.**  Merging gives one frame for each longest run of linked
frames, in order: what the frames of the run add up to. -/
theorem forall₂_mergeFragments (policy : Policy) (frames : List Frame) :
    List.Forall₂ Gathers (frames.splitBy (linked policy)) (mergeFragments policy frames) := by
  cases frames with
  | nil => exact .nil
  | cons f frames =>
    have hbegin := Merging.reaches_begin (.nil (R := Gathers)) f 0
    rw [mergeFragments, Merging.run, List.foldl_cons, List.splitBy, Merging.take]
    exact hbegin.forall₂_foldl frames

/-- What holds of all frames, and of two frames as one, holds of all frames after
merging. -/
theorem forall_mergeFragments {P : Frame → Prop} (happend : ∀ f g, P f → P g → P (f.append g))
    (policy : Policy) {frames : List Frame} (hframes : ∀ f ∈ frames, P f) :
    ∀ f ∈ mergeFragments policy frames, P f := by
  have hgroups := forall₂_mergeFragments policy frames
  have hmem : ∀ run ∈ frames.splitBy (linked policy), ∀ f ∈ run, P f := by
    intro run hrun f hf
    refine hframes f ?_
    rw [← List.flatten_splitBy (linked policy) frames]
    exact List.mem_flatten_of_mem hrun hf
  -- The correspondence of runs and merged frames is all that is needed of merging, so the
  -- induction is on it.
  generalize mergeFragments policy frames = merged at hgroups
  generalize frames.splitBy (linked policy) = runs at hgroups hmem
  induction hgroups with
  | nil => exact fun f hf => absurd hf List.not_mem_nil
  | @cons run g runs merged hg hmerged ih =>
    intro f hf
    rcases List.mem_cons.1 hf with rfl | hf
    · exact hg.forall_of happend (hmem run (List.mem_cons_self ..))
    · exact ih (fun r hr => hmem r (List.mem_cons_of_mem run hr)) f hf

/-- In a run of more than one linked frame every frame may be a fragment.  Each of them is linked
with a neighbour, which both have to be candidates for. -/
theorem isCandidate_of_isChain {policy : Policy} {frames : List Frame}
    (hchain : frames.IsChain (linked policy · ·)) (hlen : 1 < frames.length) :
    ∀ f ∈ frames, f.isCandidate = true := by
  induction frames with
  | nil => exact fun f hf => absurd hf List.not_mem_nil
  | cons f frames ih =>
    cases frames with
    | nil => exact absurd hlen (Nat.lt_irrefl 1)
    | cons g frames =>
      rw [List.isChain_cons_cons] at hchain
      have hfg := Frame.isCandidate_of_linked hchain.1
      intro k hk
      rcases List.mem_cons.1 hk with rfl | hk
      · exact hfg.1
      · -- A run of two ends with the second frame; a longer one is a run without the first.
        cases frames with
        | nil => exact List.mem_singleton.1 hk ▸ hfg.2
        | cons h frames => exact ih hchain.2 (Nat.succ_lt_succ (Nat.zero_lt_succ _)) k hk

/-! ### Runs of things that frames are made of -/

theorem splitBy_loop_map {r : β → β → Bool} (φ : α → β) (xs : List α) (last : α) (run : List α)
    (groups : List (List α)) :
    List.splitBy.loop r (xs.map φ) (φ last) (run.map φ) (groups.map (List.map φ))
      = (List.splitBy.loop (fun a b => r (φ a) (φ b)) xs last run groups).map (List.map φ) := by
  induction xs generalizing last run groups with
  | nil => simp only [List.map_nil, List.splitBy.loop, List.map_reverse, List.map_cons]
  | cons x xs ih =>
    simp only [List.map_cons, List.splitBy.loop]
    cases r (φ last) (φ x) with
    | true => exact ih x (last :: run) groups
    | false =>
      rw [← ih x [] ((last :: run).reverse :: groups), List.map_nil, List.map_cons,
        List.map_reverse, List.map_cons]

/-- Cutting what things are mapped to into runs cuts the things. -/
theorem splitBy_map {r : β → β → Bool} (φ : α → β) (xs : List α) :
    (xs.map φ).splitBy r = (xs.splitBy fun a b => r (φ a) (φ b)).map (List.map φ) := by
  cases xs with
  | nil => rfl
  | cons x xs => exact splitBy_loop_map φ xs x [] []

end ConsoleReplay
