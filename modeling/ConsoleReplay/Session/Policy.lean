import ConsoleReplay.Pattern.Console
import ConsoleReplay.Settings.Basic
import ConsoleReplay.Text.Lines

/-!
# Segmentation policies

What is particular to a device in cutting a session into frames is a policy: what
a prompt looks like, which outputs are fragments of one block, and what is noise.
All questions are put about plain text.

## Main definitions

* `Policy` — the questions and the time within which fragments are merged.
* `Policy.routerOs thresholds` — the policy for RouterOS consoles.
-/

namespace ConsoleReplay

/-- How a session of a device is cut into frames.  All that depends on the kind of device is here;
the functions get plain text. -/
structure Policy where
  /-- Whether a text is a prompt and nothing else. -/
  isPrompt : String → Bool
  /-- Whether two outputs in a row look like fragments of one block. -/
  isFragmentPair : String → String → Bool
  /-- Outputs further apart than this, in milliseconds, are not merged. -/
  mergeWindow : Nat
  /-- Whether a text has nothing worth showing. -/
  isNoise : String → Bool

namespace Policy

open Text (isBlank trim)

/-- Whether a text is a prompt of a RouterOS console or of a host. -/
def isConsolePrompt (text : String) : Bool :=
  Pattern.wholePrompt.matchesStart (trim text.toList)

/-- Whether there are lines that show something, and all of them fit a pattern. -/
def isBlockOf (p : Pattern) (cs : List Char) : Bool :=
  let shown := (Text.lines cs).filter (!Text.blankLine ·)
  !shown.isEmpty && shown.all p.matchesStart

/-- Whether two outputs are both short, both rows of a listing, or both lines of a
report. -/
def areFragments (thresholds : Thresholds) (previous next : String) : Bool :=
  let both (test : List Char → Bool) : Bool := test previous.toList && test next.toList
  both (fun cs => decide ((trim cs).length < thresholds.fragmentLength))
    || both (isBlockOf .listRow) || both (isBlockOf .keyValueLine)

/-- The punctuation that drawings and separators are made of. -/
def isDrawingChar (c : Char) : Bool := "-=_*#|+~/\\:.".toList.contains c

/-- Whether a text is made almost entirely of drawing punctuation. -/
def isDrawing (thresholds : Thresholds) (cs : List Char) : Bool :=
  let visible := cs.filter (!isBlank ·)
  !(visible.length < thresholds.drawingLength)
    && thresholds.drawingShare.le
      ((Double.ofNat (visible.countP isDrawingChar)).div (.ofNat visible.length))

/-- Whether a character is a control character. -/
def isControlChar (c : Char) : Bool :=
  c.toNat < 0x20 || (0x7f ≤ c.toNat && c.toNat ≤ 0x9f)

/-- Whether a text shows nothing, is too short, or is a drawing. -/
def isConsoleNoise (thresholds : Thresholds) (text : String) : Bool :=
  let visible := trim text.toList
  visible.all (fun c => isBlank c || isControlChar c)
    || visible.length < thresholds.minLength
    || (thresholds.dropDrawings && isDrawing thresholds visible)

/-- The policy for RouterOS consoles. -/
def routerOs (thresholds : Thresholds) : Policy where
  isPrompt := isConsolePrompt
  isFragmentPair := areFragments thresholds
  mergeWindow := thresholds.mergeWindow
  isNoise := isConsoleNoise thresholds

end Policy

end ConsoleReplay
