import ConsoleReplay.Session.Fragments

/-!
# Dropping noise

Frames whose plain text the policy counts as noise are dropped.  Commands and
prompts stay, however short they are, and so do degraded frames, which hold the
only copy of their text.

## Main definitions

* `Frame.isKept policy f` — the frame stays.
* `dropNoise policy frames`, `droppedCount policy frames` — the frames that stay,
  and how many do not.
-/

namespace ConsoleReplay

/-- Whether a frame stays.  Commands and prompts do, even a bare mark, and so do degraded frames,
which hold the only copy of what was captured. -/
def Frame.isKept (policy : Policy) (f : Frame) : Bool :=
  f.isCommand || f.isPrompt || f.degraded || !policy.isNoise f.plainText

/-- The frames that stay. -/
def dropNoise (policy : Policy) (frames : List Frame) : List Frame :=
  frames.filter (·.isKept policy)

/-- How many frames are dropped. -/
def droppedCount (policy : Policy) (frames : List Frame) : Nat :=
  frames.countP (!·.isKept policy)

/-- Every frame stays or counts as dropped. -/
theorem length_dropNoise (policy : Policy) (frames : List Frame) :
    (dropNoise policy frames).length + droppedCount policy frames = frames.length := by
  induction frames with
  | nil => rfl
  | cons f frames ih =>
    simp only [dropNoise, droppedCount] at ih ⊢
    by_cases h : f.isKept policy = true <;> simp [h] <;> omega

end ConsoleReplay
