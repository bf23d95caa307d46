import ConsoleReplay.Json.Numeral

/-!
# Reading JSON

The reader takes a value from the front of a text and returns what is left of the
text.  Each function answers `none` where the grammar does not go on.

## Main definitions

* `Json.Reader.value fuel cs` — the value at the front of a text.
* `Json.parse? cs` — the value that a text consists of, blanks around it aside.
-/

namespace ConsoleReplay.Json

namespace Reader

/-- The blanks that may stand between the parts of a text. -/
def isSpace (c : Char) : Bool := c == ' ' || c == '\n' || c == '\t' || c == '\r'

/-- The text after its leading blanks. -/
def skipSpace (cs : List Char) : List Char := cs.dropWhile isSpace

/-- The decimal digits at the front of a text, and the rest. -/
def digits (cs : List Char) : List Nat × List Char :=
  ((cs.takeWhile Char.isDigit).map Text.digitValue, cs.dropWhile Char.isDigit)

/-- The number that four hexadecimal digits stand for. -/
def hex4? (a b c d : Char) : Option Nat :=
  ([a, b, c, d].mapM Text.hexValue?).map (Text.ofDigits 16)

/-- The character that a backslash and one more character stand for. -/
def simpleEscape? : Char → Option Char
  | '"' => some '"'
  | '\\' => some '\\'
  | '/' => some '/'
  | 'b' => some '\x08'
  | 'f' => some '\x0c'
  | 'n' => some '\n'
  | 'r' => some '\r'
  | 't' => some '\t'
  | _ => none

/-- Join code points into characters; an escape gives a code point that may be half
a surrogate pair.  A high surrogate needs a low one right after it and a low one
stands only there, otherwise the code points stand for nothing. -/
def joinSurrogates (done : List Char) : List Nat → Option (List Char)
  | [] => some done.reverse
  | u :: rest =>
    if 0xd800 ≤ u ∧ u < 0xdc00 then
      match rest with
      | v :: rest =>
        if 0xdc00 ≤ v ∧ v < 0xe000 then
          joinSurrogates (.ofNat (0x10000 + (u - 0xd800) * 0x400 + (v - 0xdc00)) :: done) rest
        else none
      | [] => none
    else if 0xdc00 ≤ u ∧ u < 0xe000 then none
    else joinSurrogates (.ofNat u :: done) rest

/-- The code points inside a string up to its closing quotation mark, in reverse
after those already read, and the rest of the text. -/
def stringBody (done : List Nat) : List Char → Option (List Nat × List Char)
  | [] => none
  | '"' :: rest => some (done, rest)
  | '\\' :: 'u' :: a :: b :: c :: d :: rest =>
    match hex4? a b c d with
    | some n => stringBody (n :: done) rest
    | none => none
  | '\\' :: c :: rest =>
    match simpleEscape? c with
    | some d => stringBody (d.toNat :: done) rest
    | none => none
  | c :: rest =>
    if c.toNat < 0x20 || c == '\\' then none else stringBody (c.toNat :: done) rest

/-- The string at the front of a text, after its opening quotation mark.  Inside, `none` is a
string that is written correctly and stands for nothing; it only spoils a value that is read as a
whole. -/
def string (cs : List Char) : Option (Option String × List Char) :=
  (stringBody [] cs).map fun (points, rest) =>
    ((joinSurrogates [] points.reverse).map String.ofList, rest)

/-- The fraction at the front of a text: a point and at least one digit, or
nothing. -/
def fraction : List Char → Option (List Nat × List Char)
  | '.' :: cs =>
    match digits cs with
    | ([], _) => none
    | (ds, rest) => some (ds, rest)
  | cs => some ([], cs)

/-- The exponent at the front of a text: its mark, a sign and at least one digit,
or nothing. -/
def exponent : List Char → Option (Option (Bool × List Nat) × List Char)
  | c :: cs =>
    if c == 'e' || c == 'E' then
      let (negative, cs) := match cs with
        | '+' :: cs => (false, cs)
        | '-' :: cs => (true, cs)
        | cs => (false, cs)
      match digits cs with
      | ([], _) => none
      | (ds, rest) => some (some (negative, ds), rest)
    else some (none, c :: cs)
  | [] => some (none, [])

/-- The numeral at the front of a text, after its sign.  Only the numeral zero
begins with the digit zero. -/
def numeral (negative : Bool) (cs : List Char) : Option (Json × List Char) := do
  let (whole, cs) ← match digits cs with
    | ([], _) => none
    | (0 :: _ :: _, _) => none
    | (ds, rest) => some (ds, rest)
  let (frac, cs) ← fraction cs
  let (exp, cs) ← exponent cs
  return (Numeral.value ⟨negative, whole, frac, exp⟩, cs)

/-- The text after a word at its front. -/
def literal (word : String) (cs : List Char) : Option (List Char) :=
  let w := word.toList
  if w.isPrefixOf cs then some (cs.drop w.length) else none

mutual

/-- The value at the front of a text, and the rest. -/
def value : Nat → List Char → Option (Json × List Char)
  | 0, _ => none
  | fuel + 1, cs =>
    match skipSpace cs with
    | '{' :: rest =>
      match skipSpace rest with
      | '}' :: rest => some (.object [], rest)
      | rest => members fuel (some []) rest
    | '[' :: rest =>
      match skipSpace rest with
      | ']' :: rest => some (.array [], rest)
      | rest => items fuel [] rest
    | '"' :: rest =>
      match string rest with
      | some (some s, rest) => some (.string s, rest)
      | some (none, rest) => some (.malformed, rest)
      | none => none
    | '-' :: rest => numeral true rest
    | c :: rest =>
      if c.isDigit then numeral false (c :: rest)
      else if c == 't' then (literal "rue" rest).map (.bool true, ·)
      else if c == 'f' then (literal "alse" rest).map (.bool false, ·)
      else if c == 'n' then (literal "ull" rest).map (.null, ·)
      else none
    | [] => none

/-- The items of an array from the next one on, and the rest.  The items before it
are held in reverse. -/
def items : Nat → List Json → List Char → Option (Json × List Char)
  | 0, _, _ => none
  | fuel + 1, acc, cs =>
    match value fuel cs with
    | some (v, rest) =>
      match skipSpace rest with
      | ',' :: rest => items fuel (v :: acc) rest
      | ']' :: rest => some (.array (v :: acc).reverse, rest)
      | _ => none
    | none => none

/-- The members of an object from the next one on, and the rest.  The members
before it are held in reverse; `none` stands for an object one of whose names
stands for nothing. -/
def members : Nat → Option (List (String × Json)) → List Char → Option (Json × List Char)
  | 0, _, _ => none
  | fuel + 1, acc, cs =>
    match skipSpace cs with
    | '"' :: rest =>
      match string rest with
      | some (name, rest) =>
        match skipSpace rest with
        | ':' :: rest =>
          match value fuel rest with
          | some (v, rest) =>
            let acc := acc.bind fun done => name.map fun n => (n, v) :: done
            match skipSpace rest with
            | ',' :: rest => members fuel acc rest
            | '}' :: rest => some ((acc.map fun ms => .object ms.reverse).getD .malformed, rest)
            | _ => none
          | none => none
        | _ => none
      | none => none
    | _ => none

end

end Reader

/-- The value that a text consists of, blanks around it aside.  Every step of the reader takes a
character off the text, so twice its length is fuel enough. -/
def parse? (cs : List Char) : Option Json :=
  match Reader.value (2 * cs.length + 2) cs with
  | some (v, rest) => if (Reader.skipSpace rest).isEmpty then some v else none
  | none => none

end ConsoleReplay.Json
