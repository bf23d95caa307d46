import ConsoleReplay.Session.Noise

/-!
# Refining frames

The frames of the rows are refined in stages: fragments are merged and noise is
dropped.  The stages can follow each other in any order and any number of times, and
what they take away is counted.

## Main definitions

* `Stage` — the stages.
* `Refinement` — frames after some stages, and what the stages took away.
* `Refinement.perform policy r stage` — the frames after one more stage.
-/

namespace ConsoleReplay

/-- A stage in the refining of frames. -/
inductive Stage
  | merge
  | noise
  deriving DecidableEq, Repr

/-- Frames after some stages. -/
structure Refinement where
  frames : List Frame
  /-- How many frames were merged into the one before them. -/
  merged : Nat := 0
  /-- How many frames were dropped as noise. -/
  dropped : Nat := 0
  deriving DecidableEq, Repr

namespace Refinement

/-- The frames after one more stage. -/
def perform (policy : Policy) (r : Refinement) : Stage → Refinement
  | .merge =>
    { r with
      frames := mergeFragments policy r.frames
      merged := r.merged + mergedCount policy r.frames }
  | .noise =>
    { r with
      frames := dropNoise policy r.frames
      dropped := r.dropped + droppedCount policy r.frames }

end Refinement

/-- The frames that a session shows of the frames of its rows: fragments are merged before noise is
dropped, so that a short piece of a block is not lost. -/
def refine (policy : Policy) (frames : List Frame) : List Frame :=
  ([Stage.merge, .noise].foldl (Refinement.perform policy) { frames := frames }).frames

@[simp] theorem refine_eq (policy : Policy) (frames : List Frame) :
    refine policy frames = dropNoise policy (mergeFragments policy frames) := rfl

end ConsoleReplay
