import ConsoleReplay.Capture.Token
import ConsoleReplay.Markup.Piece
import ConsoleReplay.Style.Run
import ConsoleReplay.Style.Sgr
import ConsoleReplay.Text.Blank

/-!
# Markup of styled text

A captured text that carries styles of its own is marked up with them.  Every
character is shown in the style that the sequences before it add up to, and the
longest stretches in one style become one piece each.  Blanks show no style unless
it has a background.

## Main definitions

* `styledCells cs` — the characters of a captured text, each in its style.
* `Run.piece run` — a stretch in one style as markup.
* `styledPieces? cs` — the markup of a text, if some of it is shown in a style.
-/

namespace ConsoleReplay.Markup

open Capture (Token)

/-- The codes of a select-graphic-rendition sequence: of each parameter its first value.  A colour
that is written with colons is cut to the code it begins with. -/
def sgrCodes (params : List (List Nat)) : List Nat := params.filterMap List.head?

/-- A text in the making: the style of the next character, and the characters so far in reverse. -/
abbrev Penned := Style × List Cell

/-- The text after a token.  Of the controls, line feed and tab are shown. -/
def applyToken (penned : Penned) (t : Token) : Penned :=
  let (pen, done) := penned
  match t with
  | .glyph c => (pen, ⟨c, pen⟩ :: done)
  | .control c => if c == '\n' || c == '\t' then (pen, ⟨c, pen⟩ :: done) else (pen, done)
  | t =>
    match t.sgr? with
    | some params => (pen.applySgr (sgrCodes params), done)
    | none => (pen, done)

/-- The characters of a captured text, each in its style, and the style at the
end. -/
def penned (cs : List Char) : Penned :=
  (Capture.tokens cs).foldl applyToken (.plain, [])

/-- The characters of a captured text, each in its style. -/
def styledCells (cs : List Char) : List Cell := (penned cs).2.reverse

/-- Whether a stretch shows its style.  Of blanks only a background can be seen, so a bold blank is
no reason for markup. -/
def showsStyle (run : Run) : Bool :=
  !run.style.isPlain && (!Text.blankLine run.chars || run.style.background != .default)

/-- A stretch in one style as markup. -/
def pieceOf (run : Run) : Piece :=
  if showsStyle run then .styled run.style run.chars else .text run.chars

/-- The markup of a captured text, if some of it is shown in a style.  Without any it is left to the
rules for plain text to mark something. -/
def styledPieces? (cs : List Char) : Option (List Piece) :=
  let runs := Run.ofCells (styledCells cs)
  if runs.any showsStyle then some (runs.map pieceOf) else none

/-- A captured text had no style to show. -/
inductive StyledError
  | noStyling
  deriving DecidableEq, Repr

/-- The wording of the failure. -/
def StyledError.message : StyledError → String
  | .noStyling => "Content has no styled text"

/-- The written markup of a captured text, if some of it is shown in a style. -/
def styled (text : String) : Except StyledError String :=
  match styledPieces? text.toList with
  | some pieces => .ok (write pieces)
  | none => .error .noStyling

end ConsoleReplay.Markup
