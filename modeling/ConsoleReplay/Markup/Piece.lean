import ConsoleReplay.Style.Basic

/-!
# Markup

Markup is a sequence of texts, some of them inside an element that gives them a
style or a class.  Elements are never nested.  In the written form the five
characters that could be taken for markup are written as entities, and carriage
returns are left out.

## Main definitions

* `Markup.escape cs` — a text as it stands in markup.
* `Markup.Piece` — a text without an element, in a style, or in a class.
* `Markup.write pieces` — the written form of a sequence of pieces.
-/

namespace ConsoleReplay.Markup

/-- A character as it stands in markup.  Both quotes are escaped, so a text is safe in an attribute
as well; a carriage return is dropped, as it means nothing there. -/
def escapeChar (c : Char) : List Char :=
  match c with
  | '&' => "&amp;".toList
  | '<' => "&lt;".toList
  | '>' => "&gt;".toList
  | '"' => "&quot;".toList
  | '\'' => "&#39;".toList
  | '\r' => []
  | c => [c]

/-- A text as it stands in markup.  Line feeds and tabs stay as they are. -/
def escape (cs : List Char) : List Char := cs.flatMap escapeChar

@[simp] theorem escape_nil : escape [] = [] := rfl

@[simp] theorem escape_append (cs ds : List Char) : escape (cs ++ ds) = escape cs ++ escape ds :=
  List.flatMap_append

/-- A text as it stands in markup. -/
def escapeText (text : String) : String := .ofList (escape text.toList)

/-- A part of markup.  Only its text is free; the tags around it are written from a style or from
the name of a class. -/
inductive Piece
  /-- A text without an element. -/
  | text (chars : List Char)
  /-- A text in a style, given by inline rules. -/
  | styled (style : Style) (chars : List Char)
  /-- A text in a class, given by its name. -/
  | marked (name : String) (chars : List Char)
  deriving DecidableEq, Repr

namespace Piece

/-- The text of a piece. -/
def chars : Piece → List Char
  | .text cs | .styled _ cs | .marked _ cs => cs

/-- An element with one attribute around a text.  The text is escaped here, and nowhere else on the
way. -/
def element (name value : String) (cs : List Char) : List Char :=
  ("<span " ++ name ++ "=\"" ++ value ++ "\">").toList ++ escape cs ++ "</span>".toList

/-- The written form of a piece. -/
def write : Piece → List Char
  | .text cs => escape cs
  | .styled style cs => element "style" style.css cs
  | .marked name cs => element "class" ("hl-" ++ name) cs

end Piece

/-- The written form of a sequence of pieces. -/
def write (pieces : List Piece) : String := .ofList (pieces.flatMap Piece.write)

end ConsoleReplay.Markup
