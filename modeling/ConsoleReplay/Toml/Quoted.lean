import ConsoleReplay.Text.Digit

/-!
# TOML strings

A string is written between single or double quotation marks, on one line or, with
three marks at either end, over several.  Between double marks a backslash begins
an escape; at the end of a line it joins the line to the next text.

The text is read one character at a time by a machine that remembers what it is in
the middle of.  Line ends are line feeds.

## Main definitions

* `Toml.Quotation` — the forms of strings.
* `Toml.Quotation.step` — what one character does.
* `Toml.Quotation.read?` — the text of a string and the rest after its closing mark.
* `Toml.string? cs` — the string at the front of a text, in any form.
-/

namespace ConsoleReplay.Toml

/-- Whether a character may stand in a string or a comment: all but the control
characters, of which only the tab may. -/
def isPlain (c : Char) : Bool := c == '\t' || (' ' ≤ c && c ≠ '\x7f')

/-- Whether a character is a blank inside a line. -/
def isSpace (c : Char) : Bool := c == ' ' || c == '\t'

/-- A form of string. -/
structure Quotation where
  mark : Char
  /-- Whether a backslash begins an escape. -/
  escapes : Bool
  /-- Whether there are three marks at either end, and line ends may stand inside. -/
  multiline : Bool

namespace Quotation

/-- What the reader of a string is in the middle of. -/
inductive Progress
  | plain
  /-- A backslash. -/
  | escape
  /-- An escape with so many digits to come; `acc` is the number so far. -/
  | digits (missing acc : Nat)
  /-- A backslash and blanks, which a line end must follow. -/
  | beforeLineEnd
  /-- The blanks and line ends after a backslash at the end of a line. -/
  | joining
  deriving DecidableEq, Repr

/-- The character that a backslash and one more character stand for. -/
def escaped? : Char → Option Char
  | 'b' => some '\x08'
  | 'f' => some '\x0c'
  | 'n' => some '\n'
  | 'r' => some '\r'
  | 't' => some '\t'
  | '"' => some '"'
  | '\\' => some '\\'
  | _ => none

/-- The character with a number, if there is one. -/
def scalar? (n : Nat) : Option Char := if n.isValidChar then some (.ofNat n) else none

/-- What a character does that stands for itself. -/
def stepPlain (q : Quotation) (c : Char) : Option (Progress × List Char) :=
  if q.escapes && c == '\\' then some (.escape, [])
  else if isPlain c || (q.multiline && c == '\n') then some (.plain, [c])
  else none

/-- What one character does: the progress after it and the text it adds.  It is
`none` for a character that cannot stand there. -/
def step (q : Quotation) (p : Progress) (c : Char) : Option (Progress × List Char) :=
  match p with
  | .plain => q.stepPlain c
  | .escape =>
    match escaped? c with
    | some d => some (.plain, [d])
    | none =>
      if c == 'u' then some (.digits 4 0, [])
      else if c == 'U' then some (.digits 8 0, [])
      else if q.multiline && isSpace c then some (.beforeLineEnd, [])
      else if q.multiline && c == '\n' then some (.joining, [])
      else none
  | .digits missing acc => do
    let n := acc * 16 + (← Text.hexValue? c)
    if 1 < missing then return (.digits (missing - 1) n, [])
    return (.plain, [← scalar? n])
  | .beforeLineEnd =>
    if isSpace c then some (.beforeLineEnd, [])
    else if c == '\n' then some (.joining, [])
    else none
  | .joining => if isSpace c || c == '\n' then some (.joining, []) else q.stepPlain c

/-- Whether a mark may close the string. -/
def Progress.isOpen : Progress → Bool
  | .plain | .joining => true
  | _ => false

/-- The text of a string up to its closing mark, after the text already read, which
is held in reverse, and the rest.  Up to two marks before the three closing ones
belong to the text. -/
def read? (q : Quotation) (p : Progress) (done : List Char) :
    List Char → Option (String × List Char)
  | [] => none
  | c :: cs =>
    if c == q.mark && p.isOpen then
      if q.multiline then
        if cs.take 2 = [q.mark, q.mark] then
          let extra := ((cs.drop 2).takeWhile (· == q.mark)).take 2
          some (.ofList (extra ++ done).reverse, cs.drop (2 + extra.length))
        else read? q .plain (c :: done) cs
      else some (.ofList done.reverse, cs)
    else
      match q.step p c with
      | some (p, new) => read? q p (new ++ done) cs
      | none => none

/-- The quotation between double marks on one line. -/
def basic : Quotation := ⟨'"', true, false⟩

/-- The quotation between single marks on one line. -/
def literal : Quotation := ⟨'\x27', false, false⟩

/-- The quotation at the front of a text that begins with three marks, read over
several lines.  A line end right after the opening marks is not part of the text. -/
def readLines? (q : Quotation) (cs : List Char) : Option (String × List Char) :=
  { q with multiline := true }.read? .plain [] (if cs.head? = some '\n' then cs.tail else cs)

end Quotation

/-- The string on one line at the front of a text. -/
def lineString? : List Char → Option (String × List Char)
  | c :: cs =>
    if c == '"' then Quotation.basic.read? .plain [] cs
    else if c == '\x27' then Quotation.literal.read? .plain [] cs
    else none
  | [] => none

/-- The string at the front of a text, in any form. -/
def string? (cs : List Char) : Option (String × List Char) :=
  if ['"', '"', '"'].isPrefixOf cs then Quotation.basic.readLines? (cs.drop 3)
  else if ['\x27', '\x27', '\x27'].isPrefixOf cs then Quotation.literal.readLines? (cs.drop 3)
  else lineString? cs

end ConsoleReplay.Toml
