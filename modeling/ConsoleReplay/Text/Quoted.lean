import ConsoleReplay.Text.Printable

/-!
# Names in messages

A message shows the name of a file between quotation marks.  What would end the
name, attach to a mark or not be seen at all is written as an escape.

## Main definitions

* `quoteChar c` — a character as it is shown.
* `quotedName s` — a name between quotation marks.
-/

namespace ConsoleReplay.Text

/-- A number in hexadecimal digits, in lower case and without leading zeros. -/
def hexText (n : Nat) : List Char := Nat.toDigits 16 n

/-- A character as it is shown inside a name.  What cannot be seen, or would change what stands
before it, is written as an escape. -/
def quoteChar (c : Char) : List Char :=
  match c with
  | '\x00' => ['\\', '0']
  | '\t' => ['\\', 't']
  | '\n' => ['\\', 'n']
  | '\r' => ['\\', 'r']
  | '"' => ['\\', '"']
  | '\x27' => ['\\', '\x27']
  | '\\' => ['\\', '\\']
  | c =>
    if extendsGrapheme c || !isPrintable c then
      ['\\', 'u', '\x7b'] ++ hexText c.toNat ++ ['\x7d']
    else [c]

/-- A name between quotation marks. -/
def quotedName (s : String) : String := .ofList ('"' :: s.toList.flatMap quoteChar ++ ['"'])

end ConsoleReplay.Text
