import ConsoleReplay.Capture.Token

/-!
# Cleaned text

Cleaning keeps what styles and lays out a text: its characters, the
select-graphic-rendition sequences, and carriage return, line feed, tab and
backspace.  Everything else that controls a screen is dropped.  The sequences are
written anew from their parameters, so that each of them has one form.

## Main definitions

* `Token.cleaned` — what cleaning leaves of a token.
* `clean text` — the cleaned text.
-/

namespace ConsoleReplay.Capture

/-- The controls that lay out a line. -/
def isLineControl (c : Char) : Bool := c == '\r' || c == '\n' || c == '\t' || c == '\x08'

/-- A select-graphic-rendition sequence: semicolons between parameters, colons between the values
of one.  It is written in one form, whatever it was read from, so that a text cleaned once is not
changed by cleaning it again. -/
def sgrText (params : List (List Nat)) : List Char :=
  let value (n : Nat) : List Char := (toString n).toList
  let param (group : List Nat) : List Char := List.intercalate [':'] (group.map value)
  '\x1b' :: '[' :: (List.intercalate [';'] (params.map param) ++ ['m'])

/-- What cleaning leaves of a token: every character to show, the controls that lay out a line, and
what chooses a style.  Nothing else that a device sends has a place in a record. -/
def Token.cleaned (t : Token) : List Char :=
  match t with
  | .glyph c => [c]
  | .control c => if isLineControl c then [c] else []
  | t => (t.sgr?.map sgrText).getD []

/-- The characters of the cleaned text. -/
def cleanChars (cs : List Char) : List Char := (tokens cs).flatMap Token.cleaned

/-- The cleaned text. -/
def clean (text : String) : String := .ofList (cleanChars text.toList)

end ConsoleReplay.Capture
