import ConsoleReplay.Capture.Clean
import ConsoleReplay.Markup.Rule
import ConsoleReplay.Session.Refinement
import ConsoleReplay.Session.Row

/-!
# From rows to frames

Every row of a session gives a frame: its text is cleaned, marked up and
classified.  A row that cannot be analysed gives a degraded frame, so that nothing
captured is lost.  The frames of a session are then merged and rid of noise.

## Main definitions

* `AnalysisError` — why a row cannot be analysed.
* `Segmenter` — what the analysis of a session depends on.
* `Segmenter.analyze seg row timestamp` — the frame of one row.
* `Segmenter.segment seg rows` — the session that rows make up.
-/

namespace ConsoleReplay

/-- Why a row cannot be analysed.  It is no failure of a session: the row is kept as it was
captured. -/
inductive AnalysisError
  | rowTooLarge (sequence : Int) (size limit : Nat)
  | binaryContent (sequence : Int)
  deriving DecidableEq, Repr

/-- The wording of a failure. -/
def AnalysisError.message : AnalysisError → String
  | .rowTooLarge sequence size limit =>
    "Row " ++ toString sequence ++ " is " ++ toString size ++ " bytes, above the "
      ++ toString limit ++ " byte analysis limit"
  | .binaryContent sequence =>
    "Row " ++ toString sequence ++ " contains NUL bytes and looks like binary data"

/-- What the analysis of a session depends on, besides its rows. -/
structure Segmenter where
  dialect : Dialect
  policy : Policy
  highlighter : Highlighter
  /-- Rows of more bytes are not analysed. -/
  rowBytes : Nat

namespace Segmenter

/-- Commands of fewer characters are stray keystrokes, and their rows have no command. -/
def minCommandLength : Nat := 2

/-- The command that was typed: the plain text up to the first line break, if there is one and the
text is no stray keystroke.  The line is taken as it stood when it was entered, with all corrections
made. -/
def typedCommand? (cs : List Char) : Option String :=
  let isBreak (c : Char) : Bool := c == '\r' || c == '\n'
  let command := Text.trim (Capture.plainChars (cs.takeWhile (!isBreak ·)))
  if cs.any isBreak && minCommandLength ≤ command.length then some (.ofList command) else none

/-- What is known about typed text.  A tab asks for a completion, also in a line that is then
entered. -/
def inputContext? (seg : Segmenter) (content : String) : Option CommandContext :=
  let isTabCompletion := content.toList.contains '\t'
  match typedCommand? content.toList with
  | some command =>
    some {
      isCommand := true
      command := some command
      isTabCompletion := isTabCompletion
      recognition := some (seg.dialect.recognize command) }
  | none => if isTabCompletion then some { isTabCompletion := true } else none

/-- What is known about printed text: at most that it is a prompt. -/
def outputContext? (seg : Segmenter) (cleaned : String) : Option CommandContext :=
  let shown := Text.trim (Capture.plainChars cleaned.toList)
  if seg.policy.isPrompt (.ofList shown) then some { isPrompt := true } else none

/-- The direction of a row. -/
def directionOf (row : LogRow) : Direction := if row.isInput then .input else .output

/-- The frame of one row.  A row that is too large, or has a zero byte in it, is refused before
anything is made of its content. -/
def analyze (seg : Segmenter) (row : LogRow) (timestamp : Nat) :
    Except AnalysisError Frame :=
  if seg.rowBytes < row.content.utf8ByteSize then
    .error (.rowTooLarge row.sequence row.content.utf8ByteSize seg.rowBytes)
  else if row.content.toList.contains '\x00' then .error (.binaryContent row.sequence)
  else
    let cleaned := Capture.clean row.content
    .ok {
      timestamp := timestamp
      direction := directionOf row
      rawContent := row.content
      cleanedContent := cleaned
      styledContent := seg.highlighter.render cleaned
      context := if row.isInput then seg.inputContext? row.content else seg.outputContext? cleaned
      degraded := false }

/-- The frame of a row that cannot be analysed.  It keeps what was captured, so that nothing is lost
of the session, and claims nothing about it. -/
def degradedFrame (row : LogRow) (timestamp : Nat) : Frame where
  timestamp := timestamp
  direction := directionOf row
  rawContent := row.content
  cleanedContent := ""
  styledContent := ""
  context := none
  degraded := true

/-- The frame of a row, degraded if need be.  Time counts from the start of the session and is never
negative, even if the clock was set back. -/
def frameOf (seg : Segmenter) (start : Instant) (row : LogRow) : Frame :=
  let timestamp := (row.timestamp.millisecondsSince start).toNat
  match seg.analyze row timestamp with
  | .ok frame => frame
  | .error _ => degradedFrame row timestamp

/-- The frames of rows in order, one for each. -/
def frames (seg : Segmenter) (rows : List LogRow) : List Frame :=
  match rows with
  | [] => []
  | first :: _ => rows.map (seg.frameOf first.timestamp)

@[simp] theorem length_frames (seg : Segmenter) (rows : List LogRow) :
    (seg.frames rows).length = rows.length := by
  cases rows with
  | nil => rfl
  | cons row rows => simp [frames]

/-- The session that rows make up.  The rows are put in order first, so the order in which they are
supplied does not matter. -/
def segment (seg : Segmenter) (rows : List LogRow) : ParsedSession :=
  .ofFrames (refine seg.policy (seg.frames (LogRow.inOrder rows)))

end Segmenter

end ConsoleReplay
