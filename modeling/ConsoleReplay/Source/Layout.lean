import ConsoleReplay.Session.Encoding
import ConsoleReplay.Source.Recording

/-!
# Layouts of log files

Log rows come in three layouts: a JSON array of rows, one row on each line, or a
terminal recording.  Which one it is shows at the front of the text.

## Main definitions

* `Layout`, `Layout.detect cs` — the layouts, and the one that a text seems to have.
* `LogRow.parseAll cs` — the log rows that a text holds.
-/

namespace ConsoleReplay

/-- How log rows are laid out in a text. -/
inductive Layout
  | jsonArray
  | jsonLines
  | recording
  deriving DecidableEq, Repr

namespace Layout

/-- Whether a line is the header of a recording: an object with a version.  What the version is
makes no difference here. -/
def isHeader (line : List Char) : Bool :=
  match Json.parse? line with
  | some j => j.isSound && (j.get? "version").isSome
  | none => false

/-- The layout that a text seems to have, by its first line that is not blank.  It is only a guess:
the reader of the layout may still refuse the text. -/
def detect (cs : List Char) : Layout :=
  let cs := Text.trimStart cs
  if cs.head? = some '[' then .jsonArray
  else if isHeader ((Text.lines cs).headD []) then .recording
  else .jsonLines

end Layout

/-- Why log rows cannot be read. -/
inductive RowsError
  | badArray
  | badLine (number : Nat)
  | recording (cause : RecordingError)
  deriving DecidableEq, Repr

/-- The fault of log rows that cannot be read. -/
def RowsError.fault : RowsError → Fault
  | .badArray => .below "Failed to parse JSON row array" .json
  | .badLine number => .below s!"Failed to parse row on line {number}" .json
  | .recording cause => cause.fault

namespace LogRow

/-- The log row on a line. -/
def parse? (cs : List Char) : Option LogRow := (Json.parse? cs).bind ofJson?

/-- The log rows of a JSON array. -/
def parseArray (cs : List Char) : Except RowsError (List LogRow) :=
  match (Json.parse? cs).bind (listOfJson? ofJson?) with
  | some rows => .ok rows
  | none => .error .badArray

/-- The log rows on lines, the first of which has a number; blank lines hold none but are counted,
so that an error names the line of the file. -/
def parseLines (number : Nat) : List (List Char) → Except RowsError (List LogRow)
  | [] => .ok []
  | line :: lines =>
    if Text.blankLine line then parseLines (number + 1) lines
    else
      match parse? line with
      | some row => (parseLines (number + 1) lines).map (row :: ·)
      | none => .error (.badLine number)

/-- The log rows of a recording, whose header is taken from the very first line even if that is
blank. -/
def parseRecording (cs : List Char) : Except RowsError (List LogRow) :=
  ((Recording.parse (Text.Utf8.encode cs)).bind Recording.toRows).mapError .recording

/-- The log rows that a text holds, in whichever layout; a blank text holds none, and is no
error. -/
def parseAll (cs : List Char) : Except RowsError (List LogRow) :=
  if Text.blankLine cs then .ok []
  else
    match Layout.detect cs with
    | .jsonArray => parseArray cs
    | .jsonLines => parseLines 1 (Text.lines cs)
    | .recording => parseRecording cs

end LogRow

end ConsoleReplay
