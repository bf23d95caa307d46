import ConsoleReplay.Screen.Sequence

/-!
# Decoding console output for a screen

Console output mixes characters to show with control characters and escape
sequences.  The decoder reads it character by character and turns it into
instructions for a screen.  It remembers what it has read of a sequence, so a
sequence may arrive in pieces.  Nothing it reads is an error: what it does not
know is read to its end and dropped.

Control strings (window titles, device strings and the like) are read up to their
terminator and dropped.  So that a lost terminator cannot hide much, a line break
ends such a string too, and so does its length.

## Main definitions

* `Csi` — what has been read of a control sequence.
* `Decoder` — what has been read of the sequence in progress, if there is one.
* `Decoder.step d c` — the decoder after a character, and the instruction that
  the character completes.
* `Terminal` — a screen with its decoder; `Terminal.feed` applies a text to it.
-/

namespace ConsoleReplay

/-- Parameters kept of one control sequence; later ones are dropped.  No sequence of the screen uses
more than a few, and a hostile one cannot make the decoder grow. -/
def maxParams : Nat := 16

/-- Largest value of a parameter, which is a word of 16 bits; larger ones are held at it. -/
def maxParam : Nat := 65535

/-- Most characters of a control string that are read before it is given up.  Without a bound a
string that is never ended would swallow the rest of the session. -/
def maxStringLength : Nat := 1024

/-- A control sequence in progress. -/
structure Csi where
  /-- The complete parameters, in order. -/
  params : List Nat
  /-- The parameter whose digits are being read. -/
  current : Option Nat
  /-- A question mark came first: the sequence is a private one. -/
  isPrivate : Bool
  /-- Something was read that no operation here takes. -/
  isUnsupported : Bool
  deriving DecidableEq, Repr

namespace Csi

/-- A control sequence of which nothing has been read. -/
def empty : Csi := ⟨[], none, false, false⟩

/-- Keep a complete parameter, if there is still room for it. -/
def push (seq : Csi) (n : Nat) : Csi :=
  if seq.params.length < maxParams then { seq with params := seq.params ++ [n] } else seq

/-- Take one more digit of the current parameter.  The product and the sum are both held at the
largest value, so a longer numeral is no larger. -/
def digit (seq : Csi) (c : Char) : Csi :=
  let value := min maxParam (min maxParam (seq.current.getD 0 * 10) + (c.toNat - '0'.toNat))
  { seq with current := some value }

/-- End the current parameter; one without a digit is zero.  So a separator always gives a
parameter, and the final character only gives one if it has a digit. -/
def separate (seq : Csi) : Csi := { seq with current := none }.push (seq.current.getD 0)

/-- All parameters, the current one among them if it has a digit.  A last parameter that is left
empty is not there at all. -/
def allParams (seq : Csi) : List Nat :=
  match seq.current with
  | some n => (seq.push n).params
  | none => seq.params

/-- The instruction that a final character completes.  Private and unsupported sequences are read to
their end like any other, so that nothing of them is printed, and ask for nothing. -/
def complete (seq : Csi) (final : Char) : Option Instruction :=
  if seq.isPrivate || seq.isUnsupported then none
  else some (.sequence final seq.allParams)

end Csi

/-- What the decoder has read of the sequence in progress.  What it has gathered stands in the state
it is used in, so there is nothing to clear on the way to another one. -/
inductive Decoder
  /-- No sequence is in progress. -/
  | ground
  /-- An escape character. -/
  | escape
  /-- An escape character and one or more intermediate characters. -/
  | escapeIntermediate
  /-- A control sequence without its final character. -/
  | csi (seq : Csi)
  /-- A control string with so many characters. -/
  | controlString (length : Nat)
  /-- A control string and an escape character that may begin its terminator. -/
  | controlStringEscape
  deriving DecidableEq, Repr

/-- The instruction of a control character, if it has one. -/
def Instruction.ofControl? (c : Char) : Option Instruction :=
  match c with
  | '\r' => some .carriageReturn
  | '\n' | '\x0b' | '\x0c' => some .lineFeed
  | '\x08' => some .backspace
  | '\t' => some .tab
  | _ => none

namespace Decoder

/-- Whether no sequence is in progress. -/
def isGround : Decoder → Bool
  | .ground => true
  | _ => false

/-- An intermediate character of an escape sequence: the space up to the slash. -/
def isIntermediate (c : Char) : Bool := 0x20 ≤ c.toNat && c.toNat ≤ 0x2f

/-- The state after an escape character and the one that follows it. -/
def afterEscape (c : Char) : Decoder :=
  if c = '[' then .csi .empty
  else if c = ']' || c = 'P' || c = 'X' || c = '^' || c = '_' then .controlString 0
  else if isIntermediate c then .escapeIntermediate
  else .ground

/-- A control character outside control strings.  An escape begins a new sequence, cancel and
substitute end the one in progress, and the others act at once and leave it as it is. -/
def control (d : Decoder) (c : Char) : Decoder × Option Instruction :=
  if c = '\x1b' then (.escape, none)
  else if c = '\x18' || c = '\x1a' then (.ground, none)
  else (d, Instruction.ofControl? c)

/-- A character of a control string of the given length.  The bell ends the string, an escape may;
cancel and substitute break it off; a line break ends it and acts, so that a lost end hides no more
than the rest of a line; any other character is dropped, and one too many ends the string. -/
def inString (length : Nat) (c : Char) : Decoder × Option Instruction :=
  if c = '\x07' then (.ground, none)
  else if c = '\x1b' then (.controlStringEscape, none)
  else if c = '\x18' || c = '\x1a' then (.ground, none)
  else if c = '\r' || c = '\n' then (.ground, Instruction.ofControl? c)
  else if maxStringLength < length + 1 then (.ground, none)
  else (.controlString (length + 1), none)

/-- A printable character of a control sequence.  Digits and semicolons make up the parameters; a
question mark in front of them makes the sequence private; other marks and intermediates make it
unsupported; a final character completes it; anything else breaks it off. -/
def inCsi (seq : Csi) (c : Char) : Decoder × Option Instruction :=
  if c.isDigit then (.csi (seq.digit c), none)
  else if c = ';' then (.csi seq.separate, none)
  else if c = '?' && seq.params.isEmpty && seq.current.isNone then
    (.csi { seq with isPrivate := true }, none)
  else if (0x3a ≤ c.toNat && c.toNat ≤ 0x3f) || isIntermediate c then
    (.csi { seq with isUnsupported := true }, none)
  else if 0x40 ≤ c.toNat && c.toNat ≤ 0x7e then (.ground, seq.complete c)
  else (.ground, none)

/-- A printable character outside sequences.  Delete and the controls above ASCII
have no shape. -/
def print (c : Char) : Option Instruction :=
  if 0x7f ≤ c.toNat && c.toNat ≤ 0x9f then none else some (.write c)

/-- The decoder after a character, and the instruction that the character completes.  Control
strings come first, since in them a control character does not act; everywhere else one acts before
the state is asked. -/
def step (d : Decoder) (c : Char) : Decoder × Option Instruction :=
  match d with
  | .controlString length => inString length c
  | .controlStringEscape => (if c = '\\' then .ground else afterEscape c, none)
  | .ground => if c.toNat < 0x20 then d.control c else (.ground, print c)
  | .escape => if c.toNat < 0x20 then d.control c else (afterEscape c, none)
  | .escapeIntermediate =>
    if c.toNat < 0x20 then d.control c
    else (if isIntermediate c then d else .ground, none)
  | .csi seq => if c.toNat < 0x20 then d.control c else inCsi seq c

end Decoder

/-- A screen and the decoder of the output written to it.  The decoder is kept between pieces of
output, so a sequence that is cut in two is completed by the second piece. -/
structure Terminal where
  screen : Screen
  decoder : Decoder
  deriving DecidableEq, Repr

namespace Terminal

/-- A terminal that has received nothing. -/
def start (width height : Nat) : Terminal := ⟨.blank width height, .ground⟩

/-- The terminal after one more character. -/
def step (t : Terminal) (c : Char) : Terminal :=
  let (decoder, instruction) := t.decoder.step c
  ⟨instruction.elim t.screen t.screen.perform, decoder⟩

/-- The terminal after a text, character by character. -/
def feed (t : Terminal) (cs : List Char) : Terminal := cs.foldl step t

/-- The terminal with the sequence in progress given up.  What it has done to the screen so far
stays. -/
def reset (t : Terminal) : Terminal := { t with decoder := .ground }

@[simp] theorem feed_nil (t : Terminal) : t.feed [] = t := rfl

@[simp] theorem feed_cons (t : Terminal) (c : Char) (cs : List Char) :
    t.feed (c :: cs) = (t.step c).feed cs := rfl

/-- How a text is cut into pieces makes no difference. -/
theorem feed_append (t : Terminal) (cs ds : List Char) :
    t.feed (cs ++ ds) = (t.feed cs).feed ds := by
  simp [feed]

end Terminal

end ConsoleReplay
