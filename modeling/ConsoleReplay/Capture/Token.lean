/-!
# Tokens of captured console text

Captured text is split into characters to show, control characters and control
sequences.  Escape sequences of other kinds, operating-system commands, device
strings and private strings leave no token.  Nothing is an error: what is cut
short or out of place is dropped.

Controls of ASCII inside a control sequence act at once and the sequence goes on.
Cancel and substitute end any sequence, escape begins a new one.

## Main definitions

* `Token` — a character to show, a control character or a control sequence.
* `Sequence` — what has been read of a control sequence: parameters, each with its
  sub-parameters, and intermediate characters.
* `Scanner` — what has been read of the sequence in progress.
* `Scanner.step state c` — the state after a character, and the tokens it completes.
* `tokens cs` — the tokens of a text, in order.
-/

namespace ConsoleReplay.Capture

/-- A part of captured text that has a meaning of its own.  Of sequences only control sequences are
told; escapes, commands and device strings have none for any reader of tokens. -/
inductive Token
  /-- A character to show. -/
  | glyph (c : Char)
  /-- A control character. -/
  | control (c : Char)
  /-- A control sequence: parameters with their sub-parameters, intermediate
  characters, whether something in it did not fit, and the final character. -/
  | sequence (params : List (List Nat)) (intermediates : List Char) (overfull : Bool)
      (final : Char)
  deriving DecidableEq, Repr

/-- The codes of a select-graphic-rendition sequence, each with its sub-parameters.  A sequence with
an intermediate, or one that had no room for all of its parameters, is none. -/
def Token.sgr? : Token → Option (List (List Nat))
  | .sequence params [] false 'm' => some params
  | _ => none

/-- Values of a control sequence that fit, sub-parameters counted.  A sequence with more is read to
its end and has no effect. -/
def maxValues : Nat := 32

/-- Intermediate characters of a control sequence that fit. -/
def maxIntermediates : Nat := 2

/-- Largest value of a parameter; larger ones are held at it. -/
def maxValue : Nat := 65535

/-- What has been read of a control sequence.  A value that was not written is zero, so there is
always one in progress. -/
structure Sequence where
  /-- The complete parameters. -/
  params : List (List Nat)
  /-- The complete sub-parameters of the parameter in progress. -/
  group : List Nat
  /-- The value in progress. -/
  value : Nat
  /-- Number of complete values. -/
  count : Nat
  intermediates : List Char
  /-- Something did not fit. -/
  overfull : Bool
  deriving DecidableEq, Repr

namespace Sequence

/-- A sequence of which nothing has been read. -/
def empty : Sequence := ⟨[], [], 0, 0, [], false⟩

/-- Whether there is no room for another value. -/
def isFull (seq : Sequence) : Bool := seq.count == maxValues

/-- Take a digit of the value in progress.  The product and the sum are both held at the largest
value. -/
def digit (seq : Sequence) (c : Char) : Sequence :=
  if seq.isFull then { seq with overfull := true }
  else
    let value := min maxValue (min maxValue (seq.value * 10) + (c.toNat - '0'.toNat))
    { seq with value := value }

/-- End a sub-parameter; the parameter goes on.  A value without digits is kept as a zero. -/
def endValue (seq : Sequence) : Sequence :=
  if seq.isFull then { seq with overfull := true }
  else { seq with group := seq.group ++ [seq.value], value := 0, count := seq.count + 1 }

/-- End a parameter. -/
def endParam (seq : Sequence) : Sequence :=
  if seq.isFull then { seq with overfull := true }
  else
    { seq with
      params := seq.params ++ [seq.group ++ [seq.value]]
      group := []
      value := 0
      count := seq.count + 1 }

/-- Take an intermediate character or a private mark. -/
def collect (seq : Sequence) (c : Char) : Sequence :=
  if seq.intermediates.length = maxIntermediates then { seq with overfull := true }
  else { seq with intermediates := seq.intermediates ++ [c] }

/-- The token that a final character completes.  The value in progress is ended by it even if it has
no digit, so a sequence without parameters has one that is zero. -/
def finish (seq : Sequence) (final : Char) : Token :=
  let seq := seq.endParam
  let rest := if seq.group.isEmpty then [] else [seq.group]
  .sequence (seq.params ++ rest) seq.intermediates seq.overfull final

end Sequence

/-- What has been read of the sequence in progress.  It follows the table that parsers of such
sequences share; only the states that gather something hold it. -/
inductive Scanner
  /-- No sequence is in progress. -/
  | ground
  /-- An escape character. -/
  | escape
  /-- An escape character and intermediates. -/
  | escapeIntermediate
  /-- The beginning of a control sequence. -/
  | csiEntry
  /-- A control sequence up to some of its parameters. -/
  | csiParam (seq : Sequence)
  /-- A control sequence up to some of its intermediates. -/
  | csiIntermediate (seq : Sequence)
  /-- A control sequence that is dropped. -/
  | csiIgnore
  /-- The beginning of a device string. -/
  | deviceEntry
  /-- A device string up to some of its parameters. -/
  | deviceParam
  /-- A device string up to some of its intermediates. -/
  | deviceIntermediate
  /-- A device string with a malformed head. -/
  | deviceIgnore
  /-- The payload of a device string. -/
  | devicePayload
  /-- An operating-system command. -/
  | command
  /-- A string without a head: start of string, privacy message, program command. -/
  | string
  deriving DecidableEq, Repr

/-- The intermediate characters: the space up to the slash. -/
def isIntermediate (c : Char) : Bool := 0x20 ≤ c.toNat && c.toNat ≤ 0x2f

/-- The private marks: less-than up to the question mark. -/
def isPrivateMark (c : Char) : Bool := 0x3c ≤ c.toNat && c.toNat ≤ 0x3f

/-- The final characters of control sequences and device strings. -/
def isFinal (c : Char) : Bool := 0x40 ≤ c.toNat && c.toNat ≤ 0x7e

/-- The controls of ASCII. -/
def isLowControl (c : Char) : Bool := c.toNat < 0x20

/-- The controls of ASCII and those above it, delete aside. -/
def isControl (c : Char) : Bool := c.toNat < 0x20 || (0x80 ≤ c.toNat && c.toNat ≤ 0x9f)

/-- A character outside sequences: a control acts, any other is shown.  The delete character is
shown as well. -/
def plainToken (c : Char) : Token := if isControl c then .control c else .glyph c

/-- The byte that ends a device string.  It is a continuation byte too, so it may occur inside a
character. -/
def stringTerminator : UInt8 := 0x9c

/-- The tokens of the bytes that follow a string terminator inside a character.
They are continuation bytes without a beginning: up to 0x9f they are controls, and
any other one is shown as a replacement character. -/
def afterTerminator (bytes : List UInt8) : List Token :=
  bytes.map fun b => if b ≤ 0x9f then .control (.ofNat b.toNat) else .glyph '\ufffd'

/-- What follows the string terminator among the bytes of a character, if it is among them.  A
device string is read byte by byte, so such a character ends it. -/
def splitTerminator? (c : Char) : Option (List UInt8) :=
  match (String.utf8EncodeChar c).dropWhile (· != stringTerminator) with
  | _ :: rest => some rest
  | [] => none

namespace Scanner

/-- A control of ASCII where it ends or begins sequences: cancel and substitute go back to the
ground and act, escape begins a new sequence, and any other is left to the sequence. -/
def interrupt? (c : Char) : Option (Scanner × List Token) :=
  if c = '\x1b' then some (.escape, [])
  else if c = '\x18' || c = '\x1a' then some (.ground, [.control c])
  else none

/-- A control of ASCII that acts inside a sequence, which goes on. -/
def act (state : Scanner) (c : Char) : Scanner × List Token :=
  (interrupt? c).getD (state, [.control c])

/-- A control of ASCII that is dropped inside a string, which goes on. -/
def skip (state : Scanner) (c : Char) : Scanner × List Token :=
  (interrupt? c).getD (state, [])

/-- The state after an escape character and another one. -/
def afterEscape (c : Char) : Scanner :=
  if isIntermediate c then .escapeIntermediate
  else if c = '[' then .csiEntry
  else if c = 'P' then .deviceEntry
  else if c = ']' then .command
  else if c = 'X' || c = '^' || c = '_' then .string
  else if 0x30 ≤ c.toNat && c.toNat ≤ 0x7e then .ground
  else .escape

/-- A character that may begin, continue or end the parameters of a control
sequence; `other` is the state for private marks. -/
def inParams (state : Scanner) (seq : Sequence) (other : Scanner) (c : Char) :
    Scanner × List Token :=
  if isLowControl c then act state c
  else if isIntermediate c then (.csiIntermediate (seq.collect c), [])
  else if c.isDigit then (.csiParam (seq.digit c), [])
  else if c = ':' then (.csiParam seq.endValue, [])
  else if c = ';' then (.csiParam seq.endParam, [])
  else if isPrivateMark c then (other, [])
  else if isFinal c then (.ground, [seq.finish c])
  else (state, [])

/-- A character that may begin, continue or end the parameters of a device string;
`other` is the state for private marks. -/
def inDeviceParams (state other : Scanner) (c : Char) : Scanner × List Token :=
  if isLowControl c then skip state c
  else if isIntermediate c then (.deviceIntermediate, [])
  else if c.isDigit || c = ':' || c = ';' then (.deviceParam, [])
  else if isPrivateMark c then (other, [])
  else if isFinal c then (.devicePayload, [])
  else (state, [])

/-- The state after a character, and the tokens that it completes. -/
def step (state : Scanner) (c : Char) : Scanner × List Token :=
  match state with
  | .ground => if c = '\x1b' then (.escape, []) else (.ground, [plainToken c])
  | .escape => if isLowControl c then act state c else (afterEscape c, [])
  | .escapeIntermediate =>
    if isLowControl c then act state c
    else if 0x30 ≤ c.toNat && c.toNat ≤ 0x7e then (.ground, [])
    else (state, [])
  | .csiEntry => inParams state .empty (.csiParam (Sequence.empty.collect c)) c
  | .csiParam seq => inParams state seq .csiIgnore c
  | .csiIntermediate seq =>
    if isLowControl c then act state c
    else if isIntermediate c then (.csiIntermediate (seq.collect c), [])
    else if isFinal c then (.ground, [seq.finish c])
    else if c.toNat < 0x40 then (.csiIgnore, [])
    else (state, [])
  | .csiIgnore =>
    if isLowControl c then act state c
    else (if isFinal c then .ground else state, [])
  | .deviceEntry => inDeviceParams state .deviceParam c
  | .deviceParam => inDeviceParams state .deviceIgnore c
  | .deviceIntermediate =>
    if isLowControl c then skip state c
    else if isFinal c then (.devicePayload, [])
    else if 0x30 ≤ c.toNat && c.toNat < 0x40 then (.deviceIgnore, [])
    else (state, [])
  | .deviceIgnore => skip state c
  | .devicePayload =>
    match splitTerminator? c with
    | some bytes => (.ground, afterTerminator bytes)
    | none => skip state c
  | .command => if c = '\x07' then (.ground, []) else skip state c
  | .string => skip state c

/-- The state after a text, and the tokens it completes in reverse order. -/
def run (state : Scanner) (cs : List Char) : Scanner × List Token :=
  cs.foldl (fun (state, done) c =>
    let (state, new) := step state c
    (state, new.reverse ++ done)) (state, [])

@[simp] theorem run_nil (state : Scanner) : state.run [] = (state, []) := rfl

/-- What follows in a text is read from the state that the text before it leaves. -/
theorem run_append (state : Scanner) (cs ds : List Char) :
    state.run (cs ++ ds) =
      (((state.run cs).1.run ds).1, ((state.run cs).1.run ds).2 ++ (state.run cs).2) := by
  have fold (r : Scanner × List Token) : ds.foldl (fun (state, done) c =>
      let (state, new) := step state c
      (state, new.reverse ++ done)) r = ((r.1.run ds).1, (r.1.run ds).2 ++ r.2) := by
    induction ds generalizing r with
    | nil => rfl
    | cons d ds ih =>
      rw [run, List.foldl_cons, List.foldl_cons, ih, ih]
      simp
  rw [run, List.foldl_append, fold]
  rfl

/-- The tokens that the first character completes come before those of the others. -/
theorem run_cons (state : Scanner) (c : Char) (cs : List Char) :
    state.run (c :: cs) =
      (((state.step c).1.run cs).1, ((state.step c).1.run cs).2 ++ (state.step c).2.reverse) := by
  have hc : state.run [c] = ((state.step c).1, (state.step c).2.reverse) := by simp [run]
  rw [← List.singleton_append, run_append, hc]

/-- Outside sequences a character that is no control is shown. -/
theorem run_glyph {c : Char} (hlow : 0x20 ≤ c.toNat) (hhigh : c.toNat < 0x7f ∨ 0x9f < c.toNat) :
    run .ground [c] = (.ground, [.glyph c]) := by
  have hescape : ¬ c = '\x1b' := by
    rintro rfl
    exact absurd hlow (by decide)
  have hcontrol : ¬ isControl c = true := by
    rw [isControl, Bool.or_eq_true, Bool.and_eq_true]
    simp only [decide_eq_true_eq]
    omega
  rw [run_cons, step, if_neg hescape, plainToken, if_neg hcontrol]
  rfl

end Scanner

/-- The tokens of a text, in order.  A sequence in progress at its end is
dropped. -/
def tokens (cs : List Char) : List Token := (Scanner.run .ground cs).2.reverse

end ConsoleReplay.Capture
