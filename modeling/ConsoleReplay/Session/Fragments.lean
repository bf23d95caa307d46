import ConsoleReplay.Capture.PlainText
import ConsoleReplay.Session.Frame
import ConsoleReplay.Session.Policy

/-!
# Merging fragments

Devices often print one block in several pieces.  Outputs in a row that come
quickly one after the other and look like fragments of one block are merged into
one frame, which has the time of the last of them.  Prompts, commands and degraded
frames are never merged, and none is merged across them.

## Main definitions

* `Frame.isCandidate` — the frame may be a fragment.
* `Frame.append f g` — a frame and the next fragment as one.
* `Merging.run policy frames` — the merging of frames in order.
* `mergeFragments policy frames`, `mergedCount policy frames` — the frames after
  merging, and how many went into the one before them.
-/

namespace ConsoleReplay

namespace Frame

/-- Whether a frame may be a fragment of a block: something printed that was analysed and is no
prompt. -/
def isCandidate (f : Frame) : Bool :=
  f.isOutput && !f.degraded && !f.isCommand && !f.isPrompt

/-- The plain text of a frame. -/
def plainText (f : Frame) : String := Capture.plainText f.cleanedContent

/-- A frame and the fragment after it as one frame, at the time of the fragment, so that the next
fragment is measured against the last one and a long block may take longer than the window. -/
def append (f g : Frame) : Frame :=
  { f with
    timestamp := g.timestamp
    rawContent := f.rawContent ++ g.rawContent
    cleanedContent := f.cleanedContent ++ g.cleanedContent
    styledContent := f.styledContent ++ g.styledContent }

end Frame

/-- A block in the making: the frame so far, and the plain text of its last fragment, with which the
next one is compared.  The block as a whole is never compared. -/
structure Block where
  frame : Frame
  lastText : String
  deriving DecidableEq, Repr

/-- Whether a frame whose plain text is `text` goes on with a block. -/
def Block.takes (policy : Policy) (block : Block) (f : Frame) (text : String) : Bool :=
  f.timestamp - block.frame.timestamp ≤ policy.mergeWindow
    && policy.isFragmentPair block.lastText text

/-- Frames that are being merged.  Only the last block can still grow, so the others are
complete. -/
structure Merging where
  /-- The frames that are complete, in reverse. -/
  done : List Frame
  /-- The block in the making. -/
  block : Option Block
  /-- How many frames went into the one before them. -/
  merged : Nat
  deriving DecidableEq, Repr

namespace Merging

/-- The complete frames with the block in the making completed, in reverse. -/
def close (m : Merging) : List Frame := (m.block.map Block.frame).toList ++ m.done

/-- Take the next frame. -/
def take (policy : Policy) (m : Merging) (f : Frame) : Merging :=
  if f.isCandidate then
    let text := f.plainText
    match m.block with
    | some block =>
      if block.takes policy f text then
        { m with block := some ⟨block.frame.append f, text⟩, merged := m.merged + 1 }
      else { m with done := m.close, block := some ⟨f, text⟩ }
    | none => { m with block := some ⟨f, text⟩ }
  else { m with done := f :: m.close, block := none }

/-- The merging of frames in order. -/
def run (policy : Policy) (frames : List Frame) : Merging :=
  frames.foldl (take policy) ⟨[], none, 0⟩

end Merging

/-- The frames after merging. -/
def mergeFragments (policy : Policy) (frames : List Frame) : List Frame :=
  (Merging.run policy frames).close.reverse

/-- How many frames merging puts into the one before them. -/
def mergedCount (policy : Policy) (frames : List Frame) : Nat :=
  (Merging.run policy frames).merged

/-- One more frame is one more block or goes into the block in the making. -/
theorem Merging.length_close_take (policy : Policy) (m : Merging) (f : Frame) :
    (m.take policy f).close.length + (m.take policy f).merged = m.close.length + m.merged + 1 := by
  obtain ⟨done, block, merged⟩ := m
  by_cases h : f.isCandidate = true
  · cases block with
    | none =>
      simp [take, close, h]
      omega
    | some block =>
      by_cases ht : block.takes policy f f.plainText = true
      <;> simp [take, close, h, ht] <;> omega
  · cases block <;> simp [take, close, h] <;> omega

/-- Every frame stands for itself or counts as merged. -/
theorem length_mergeFragments (policy : Policy) (frames : List Frame) :
    (mergeFragments policy frames).length + mergedCount policy frames = frames.length := by
  have fold (m : Merging) : (frames.foldl (Merging.take policy) m).close.length
      + (frames.foldl (Merging.take policy) m).merged
      = m.close.length + m.merged + frames.length := by
    induction frames generalizing m with
    | nil => rfl
    | cons f frames ih =>
      rw [List.foldl_cons, ih, Merging.length_close_take, List.length_cons]
      omega
  rw [mergeFragments, mergedCount, List.length_reverse, Merging.run, fold]
  simp [Merging.close]

end ConsoleReplay
