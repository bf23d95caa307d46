import ConsoleReplay.Number.Double

/-!
# Settings

What a user can choose: the size of the screen, and the thresholds by which the
rows of a session become frames.

## Main definitions

* `ScreenSize`, `Thresholds`, `Settings` — the settings and their defaults.
-/

namespace ConsoleReplay

/-- The size of the screen of a live session.  It is only a default: a command line may ask for
another one. -/
structure ScreenSize where
  width : Nat := 80
  height : Nat := 24
  deriving DecidableEq, Repr

/-- The thresholds by which rows become frames. -/
structure Thresholds where
  /-- Fragments further apart than this, in milliseconds, are not merged. -/
  mergeWindow : Nat := 1000
  /-- Outputs of fewer characters are fragments of one block. -/
  fragmentLength : Nat := 50
  /-- Frames of fewer characters are noise. -/
  minLength : Nat := 2
  /-- Whether drawings made of punctuation are noise. -/
  dropDrawings : Bool := true
  /-- Frames of fewer characters are not taken for drawings. -/
  drawingLength : Nat := 8
  /-- The share of punctuation that makes a frame a drawing; four fifths unless
  chosen. -/
  drawingShare : Double := .ofRatio false 4 5
  /-- Rows of more bytes are kept without being analysed. -/
  rowBytes : Nat := 1048576
  deriving DecidableEq, Repr

/-- All settings.  Every one of them has a default. -/
structure Settings where
  screen : ScreenSize := {}
  thresholds : Thresholds := {}
  deriving DecidableEq, Repr

end ConsoleReplay
