import ConsoleReplay.Capture.Token

/-!
# Plain text

Plain text is what a reader sees of a captured text: characters and line breaks,
with the edits of a line carried out.  A carriage return goes back to the start of
the line, and what follows overwrites it; a backspace goes back one column, and at
the end of the line it takes the last character away.

## Main definitions

* `LineEditor` — the finished lines, and the current line around its column.
* `LineEditor.apply editor token` — the editor after a token.
* `plainText text` — what a reader sees of a text.
-/

namespace ConsoleReplay.Capture

/-- A text in the making.  The current line is held in two parts, so that its column is where they
meet; no column can lie past the end of the line. -/
structure LineEditor where
  /-- The finished lines with their line feeds, in reverse. -/
  done : List Char
  /-- The current line before the column, in reverse. -/
  before : List Char
  /-- The current line from the column on. -/
  after : List Char
  deriving DecidableEq, Repr

namespace LineEditor

/-- An editor that has received nothing. -/
def empty : LineEditor := ⟨[], [], []⟩

/-- Overwrite the character at the column, or extend the line at its end. -/
def write (e : LineEditor) (c : Char) : LineEditor :=
  { e with before := c :: e.before, after := e.after.tail }

/-- Go back to the start of the line.  What is on it stays until it is overwritten. -/
def carriageReturn (e : LineEditor) : LineEditor :=
  { e with before := [], after := e.before.reverse ++ e.after }

/-- Go back one column.  If the column is then on the last character of the line, that character
goes; this is also asked at the start of a line, where nothing was gone back. -/
def backspace (e : LineEditor) : LineEditor :=
  let after := match e.before with
    | [] => e.after
    | c :: _ => c :: e.after
  { e with before := e.before.tail, after := if after.length = 1 then [] else after }

/-- The finished lines and the current one, in reverse. -/
def reversed (e : LineEditor) : List Char := e.after.reverse ++ e.before ++ e.done

/-- End the current line, which takes all of it along and not only what is before the column. -/
def lineFeed (e : LineEditor) : LineEditor := ⟨'\n' :: e.reversed, [], []⟩

/-- The editor after a control character.  Only the line controls matter. -/
def control (e : LineEditor) (c : Char) : LineEditor :=
  match c with
  | '\n' => e.lineFeed
  | '\r' => e.carriageReturn
  | '\t' => e.write '\t'
  | '\x08' => e.backspace
  | _ => e

/-- The editor after a token.  Sequences leave it alone: a reader sees none of them. -/
def apply (e : LineEditor) : Token → LineEditor
  | .glyph c => e.write c
  | .control c => e.control c
  | .sequence .. => e

/-- The text in the making. -/
def chars (e : LineEditor) : List Char := e.reversed.reverse

end LineEditor

/-- The characters that a reader sees of a text. -/
def plainChars (cs : List Char) : List Char :=
  ((tokens cs).foldl LineEditor.apply .empty).chars

/-- What a reader sees of a text. -/
def plainText (text : String) : String := .ofList (plainChars text.toList)

end ConsoleReplay.Capture
