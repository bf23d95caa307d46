import ConsoleReplay.Json.Basic

/-!
# Writing JSON

A value is written compactly or, for reading by people, with one item to a line
and two spaces for each level of nesting.

## Main definitions

* `Json.quoted s` — a string between quotation marks.
* `Json.compact j` — the value without any blank.
* `Json.pretty j` — the value with one item to a line.
-/

namespace ConsoleReplay.Json

/-- A hexadecimal digit in lower case. -/
def hexDigit (n : Nat) : Char :=
  if n < 10 then .ofNat ('0'.toNat + n) else .ofNat ('a'.toNat + (n - 10))

/-- A character inside a string: the quotation mark, the backslash and the control characters of
ASCII are written as escapes, and all others as they are. -/
def escapeChar (c : Char) : List Char :=
  match c with
  | '"' => ['\\', '"']
  | '\\' => ['\\', '\\']
  | '\x08' => ['\\', 'b']
  | '\x0c' => ['\\', 'f']
  | '\n' => ['\\', 'n']
  | '\r' => ['\\', 'r']
  | '\t' => ['\\', 't']
  | c =>
    if c.toNat < 0x20 then
      ['\\', 'u', '0', '0', hexDigit (c.toNat / 16), hexDigit (c.toNat % 16)]
    else [c]

/-- A string between quotation marks. -/
def quoted (s : String) : String :=
  .ofList ('"' :: s.toList.flatMap escapeChar ++ ['"'])

/-- A value without parts.  What stands for nothing is written as nothing. -/
def atom : Json → String
  | .bool b => if b then "true" else "false"
  | .integer n => toString n
  | .float x => x.text
  | .string s => quoted s
  | _ => "null"

mutual

/-- The value without any blank. -/
def compact : Json → String
  | .array items => "[" ++ ",".intercalate (compactItems items) ++ "]"
  | .object members => "\x7b" ++ ",".intercalate (compactMembers members) ++ "\x7d"
  | j => j.atom

/-- The items of an array without any blank. -/
def compactItems : List Json → List String
  | [] => []
  | item :: items => compact item :: compactItems items

/-- The members of an object without any blank. -/
def compactMembers : List (String × Json) → List String
  | [] => []
  | (name, value) :: members =>
    (quoted name ++ ":" ++ compact value) :: compactMembers members

end

/-- The beginning of a line at a level of nesting. -/
def newline (level : Nat) : String := .ofList ('\n' :: List.replicate (2 * level) ' ')

/-- Parts between brackets, one to a line. -/
def block (level : Nat) (left right : String) (parts : List String) : String :=
  if parts.isEmpty then left ++ right
  else
    left ++ newline (level + 1) ++ ("," ++ newline (level + 1)).intercalate parts
      ++ newline level ++ right

mutual

/-- The value at a level of nesting, with one item to a line. -/
def prettyAt (level : Nat) : Json → String
  | .array items => block level "[" "]" (prettyItems level items)
  | .object members => block level "\x7b" "\x7d" (prettyMembers level members)
  | j => j.atom

/-- The items of an array, each one level deeper than the array. -/
def prettyItems (level : Nat) : List Json → List String
  | [] => []
  | item :: items => prettyAt (level + 1) item :: prettyItems level items

/-- The members of an object, each one level deeper than the object. -/
def prettyMembers (level : Nat) : List (String × Json) → List String
  | [] => []
  | (name, value) :: members =>
    (quoted name ++ ": " ++ prettyAt (level + 1) value) :: prettyMembers level members

end

/-- The value with one item to a line. -/
def pretty (j : Json) : String := prettyAt 0 j

end ConsoleReplay.Json
