import ConsoleReplay.Toml.Quoted
import ConsoleReplay.Toml.Scalar

/-!
# Reading TOML

A document consists of statements on lines of their own: headers and keys with
values.  The functions of the reader take something from the front of a text and
return what is left of the text; they answer `none` where the grammar does not go
on.  Line ends are line feeds.

## Main definitions

* `Toml.Statement` — the statements of a document.
* `Toml.key?` — a dotted key.
* `Toml.value?` — a value.
* `Toml.statements?` — the statements that a text consists of.
-/

namespace ConsoleReplay.Toml

/-- A statement of a document. -/
inductive Statement
  /-- The header of a table. -/
  | header (path : List String)
  /-- The header of one more table of a name. -/
  | element (path : List String)
  /-- A dotted key with its value. -/
  | assign (path : List String) (value : Toml)

/-! ### Blanks, comments and lines -/

/-- The text after its leading blanks. -/
def skipSpace (cs : List Char) : List Char := cs.dropWhile isSpace

/-- The text after leading blanks, line ends and whole comments. -/
def skipLines (inComment : Bool) : List Char → List Char
  | [] => []
  | c :: cs =>
    if c == '\n' then skipLines false cs
    else if inComment then (if isPlain c then skipLines true cs else c :: cs)
    else if isSpace c then skipLines false cs
    else if c == '#' then skipLines true cs
    else c :: cs

/-- The text after the rest of a line that holds nothing more but a comment. -/
def restOfLine? (cs : List Char) : Option (List Char) :=
  let cs := match skipSpace cs with
    | '#' :: cs => cs.dropWhile isPlain
    | cs => cs
  match cs with
  | [] => some []
  | '\n' :: cs => some cs
  | _ => none

/-! ### Keys -/

/-- Whether a character may stand in a key without quotation marks. -/
def isKeyChar (c : Char) : Bool := c.isAlphanum || c == '_' || c == '-'

/-- The key at the front of a text, without dots. -/
def simpleKey? (cs : List Char) : Option (String × List Char) :=
  match lineString? cs with
  | some found => some found
  | none =>
    let name := cs.takeWhile isKeyChar
    if name.isEmpty then none else some (.ofList name, cs.dropWhile isKeyChar)

/-- The parts of a dotted key at the front of a text, blanks around them aside. -/
def keyParts? : Nat → List Char → Option (List String × List Char)
  | 0, _ => none
  | fuel + 1, cs => do
    let (name, cs) ← simpleKey? (skipSpace cs)
    match skipSpace cs with
    | '.' :: cs =>
      let (names, rest) ← keyParts? fuel cs
      return (name :: names, rest)
    | cs => return ([name], cs)

/-- The first number of parts that a key must not have, and the first depth of
nesting that a value must not have. -/
def depthLimit : Nat := 80

/-- The dotted key at the front of a text. -/
def key? (cs : List Char) : Option (List String × List Char) := keyParts? depthLimit.pred cs

/-! ### Values -/

/-- The text after a word at its front. -/
def word (w : String) (v : Toml) (cs : List Char) : Option (Toml × List Char) :=
  if w.toList.isPrefixOf cs then some (v, cs.drop w.length) else none

mutual

/-- The value at the front of a text.  It lies inside `depth` arrays and tables in
braces. -/
def value? : Nat → Nat → List Char → Option (Toml × List Char)
  | 0, _, _ => none
  | fuel + 1, depth, cs =>
    match cs with
    | '[' :: rest =>
      if depth + 1 < depthLimit then
        match skipLines false rest with
        | ']' :: rest => some (.array [], rest)
        | rest => items? fuel (depth + 1) [] rest
      else none
    | '{' :: rest =>
      if depth + 1 < depthLimit then
        match skipSpace rest with
        | '}' :: rest => some (.table .braces [], rest)
        | rest => members? fuel (depth + 1) [] rest
      else none
    | 't' :: _ => word "true" (.bool true) cs
    | 'f' :: _ => word "false" (.bool false) cs
    | c :: _ =>
      if c == '"' || c == '\x27' then (string? cs).map fun (s, rest) => (.string s, rest)
      else scalar? cs
    | [] => none

/-- The items of an array from the next one on.  The items before it are held in reverse.  A comma
may stand after the last item.  Line ends and comments may stand anywhere between the items. -/
def items? : Nat → Nat → List Toml → List Char → Option (Toml × List Char)
  | 0, _, _, _ => none
  | fuel + 1, depth, done, cs =>
    match value? fuel depth cs with
    | some (v, rest) =>
      match skipLines false rest with
      | ',' :: rest =>
        match skipLines false rest with
        | ']' :: rest => some (.array (v :: done).reverse, rest)
        | rest => items? fuel depth (v :: done) rest
      | ']' :: rest => some (.array (v :: done).reverse, rest)
      | _ => none
    | none => none

/-- The members of a table in braces from the next one on.  No comma may stand
after the last member, and no line end between them. -/
def members? : Nat → Nat → Members → List Char → Option (Toml × List Char)
  | 0, _, _, _ => none
  | fuel + 1, depth, done, cs =>
    match key? cs with
    | some (path, '=' :: rest) =>
      match value? fuel depth (skipSpace rest) with
      | some (v, rest) =>
        match done.assign path v, skipSpace rest with
        | some ms, ',' :: rest => members? fuel depth ms rest
        | some ms, '}' :: rest => some (.table .braces ms, rest)
        | _, _ => none
      | none => none
    | _ => none

end

/-! ### Statements -/

/-- The statement at the front of a text.  Every step of the reader of values takes
a character off the text, so twice its length is fuel enough. -/
def statement? (cs : List Char) : Option (Statement × List Char) := do
  match cs with
  | '[' :: '[' :: rest =>
    match ← key? rest with
    | (path, ']' :: ']' :: rest) => return (.element path, rest)
    | _ => none
  | '[' :: rest =>
    match ← key? rest with
    | (path, ']' :: rest) => return (.header path, rest)
    | _ => none
  | _ =>
    match ← key? cs with
    | (path, '=' :: rest) =>
      let (v, rest) ← value? (2 * rest.length + 2) 0 (skipSpace rest)
      return (.assign path v, rest)
    | _ => none

/-- The statements on the lines of a text, after those already read, which are held
in reverse. -/
def statementsFrom? : Nat → List Statement → List Char → Option (List Statement)
  | 0, _, _ => none
  | fuel + 1, done, cs =>
    match skipLines false cs with
    | [] => some done.reverse
    | cs => do
      let (s, rest) ← statement? cs
      statementsFrom? fuel (s :: done) (← restOfLine? rest)

/-- A text with a line feed alone at each line end. -/
def unifyLineEnds : List Char → List Char
  | '\r' :: '\n' :: cs => '\n' :: unifyLineEnds cs
  | c :: cs => c :: unifyLineEnds cs
  | [] => []

/-- The statements that a text consists of; a byte order mark may stand before
them. -/
def statements? (cs : List Char) : Option (List Statement) :=
  let cs := if cs.head? = some '\ufeff' then cs.tail else cs
  statementsFrom? (cs.length + 1) [] (unifyLineEnds cs)

end ConsoleReplay.Toml
