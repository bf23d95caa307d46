import ConsoleReplay.Proofs.Screen.Escape

/-!
# A decoder with registers

A decoder knows of a sequence in progress what its state needs, and forgets it with the
state.  One can also be built with a single set of registers for all sequences.  A
register then keeps what was read until something clears it, and some ways back to the
ground clear nothing: after a control string that its bell ends, the number of its
characters is still there.

Nothing comes of it.  Every sequence begins with an escape, which clears the registers,
and outside sequences none is read.  So the decoder with registers asks the same of a
screen, character by character, as the decoder that forgets.

## Main definitions

* `Phase`, `Registers` — the part of a sequence that is read, and the registers.
* `Registers.step` — the registers after a character, and the completed instruction.
* `Registers.Cleared` — the invariant: right after an escape the registers are clear.
* `Registers.decoder` — the decoder that the registers stand for.
* `RegisterTerminal` — a screen and its registers.

## Main results

* `Registers.follows_step` — a character takes the registers where it takes the decoder.
* `RegisterTerminal.terminal_feed` — **a text does the same to both terminals**.
-/

namespace ConsoleReplay

/-- The part of a sequence that is read.  It holds nothing itself. -/
inductive Phase
  | ground
  | escape
  | escapeIntermediate
  | csi
  | controlString
  | controlStringEscape
  deriving DecidableEq, Repr

/-- What is kept from character to character, of this sequence or an earlier one.  Nothing keeps a
register from holding what an earlier sequence left there. -/
structure Registers where
  phase : Phase
  /-- What was gathered of a control sequence. -/
  seq : Csi
  /-- The number of characters read of a control string. -/
  stringLength : Nat
  deriving DecidableEq, Repr

/-- The part that an escape and the character after it leave to be read. -/
def Phase.afterEscape (c : Char) : Phase :=
  if c = '[' then .csi
  else if c = ']' || c = 'P' || c = 'X' || c = '^' || c = '_' then .controlString
  else if Decoder.isIntermediate c then .escapeIntermediate
  else .ground

namespace Registers

/-- Registers of which nothing has been used. -/
def start : Registers := ⟨.ground, .empty, 0⟩

/-- Nothing is left of any sequence, in whatever phase. -/
def clear (r : Registers) : Registers := { r with seq := .empty, stringLength := 0 }

/-- Back to the ground, leaving nothing behind. -/
def reset (r : Registers) : Registers := { r.clear with phase := .ground }

/-- An escape clears the registers. -/
def beginEscape (r : Registers) : Registers := { r.clear with phase := .escape }

/-- The registers after an escape and the character that follows it. -/
def afterEscape (r : Registers) (c : Char) : Registers := { r with phase := .afterEscape c }

/-- A control character outside control strings. -/
def control (r : Registers) (c : Char) : Registers × Option Instruction :=
  if c = '\x1b' then (r.beginEscape, none)
  else if c = '\x18' || c = '\x1a' then (r.reset, none)
  else (r, Instruction.ofControl? c)

/-- A character of a control string.  The bell goes back to the ground and clears
nothing. -/
def inString (r : Registers) (c : Char) : Registers × Option Instruction :=
  if c = '\x07' then ({ r with phase := .ground }, none)
  else if c = '\x1b' then ({ r with phase := .controlStringEscape }, none)
  else if c = '\x18' || c = '\x1a' then (r.reset, none)
  else if c = '\r' || c = '\n' then r.reset.control c
  else
    let r := { r with stringLength := r.stringLength + 1 }
    if maxStringLength < r.stringLength then (r.reset, none) else (r, none)

/-- The character after an escape inside a control string.  The terminator goes back to
the ground and clears nothing. -/
def inStringEscape (r : Registers) (c : Char) : Registers :=
  if c = '\\' then { r with phase := .ground } else r.beginEscape.afterEscape c

/-- A printable character of a control sequence. -/
def inCsi (r : Registers) (c : Char) : Registers × Option Instruction :=
  if c.isDigit then ({ r with seq := r.seq.digit c }, none)
  else if c = ';' then ({ r with seq := r.seq.separate }, none)
  else if c = '?' && r.seq.params.isEmpty && r.seq.current.isNone then
    ({ r with seq := { r.seq with isPrivate := true } }, none)
  else if (0x3a ≤ c.toNat && c.toNat ≤ 0x3f) || Decoder.isIntermediate c then
    ({ r with seq := { r.seq with isUnsupported := true } }, none)
  else if 0x40 ≤ c.toNat && c.toNat ≤ 0x7e then (r.reset, r.seq.complete c)
  else (r.reset, none)

/-- The registers after a character, and the instruction that the character completes. -/
def step (r : Registers) (c : Char) : Registers × Option Instruction :=
  match r.phase with
  | .controlString => r.inString c
  | .controlStringEscape => (r.inStringEscape c, none)
  | .ground => if c.toNat < 0x20 then r.control c else (r, Decoder.print c)
  | .escape => if c.toNat < 0x20 then r.control c else (r.afterEscape c, none)
  | .escapeIntermediate =>
    if c.toNat < 0x20 then r.control c
    else (if Decoder.isIntermediate c then r else { r with phase := .ground }, none)
  | .csi => if c.toNat < 0x20 then r.control c else r.inCsi c

/-- Right after an escape nothing is left of earlier sequences.  Only an escape leads to a sequence,
so what was left before is never read. -/
def Cleared (r : Registers) : Prop := r.phase = .escape → r.seq = .empty ∧ r.stringLength = 0

/-- The decoder that the registers stand for: it knows what its state needs, and none of the
rest. -/
def decoder (r : Registers) : Decoder :=
  match r.phase with
  | .ground => .ground
  | .escape => .escape
  | .escapeIntermediate => .escapeIntermediate
  | .csi => .csi r.seq
  | .controlString => .controlString r.stringLength
  | .controlStringEscape => .controlStringEscape

theorem cleared_of_ne {r : Registers} (h : r.phase ≠ .escape) : r.Cleared :=
  fun hescape => absurd hescape h

theorem isGround_decoder (r : Registers) : r.decoder.isGround = true ↔ r.phase = .ground := by
  rw [decoder]
  cases r.phase <;> simp [Decoder.isGround]

/-! ### A character

Only a phase that is in use has something to say about what its registers hold.  So registers and
decoder agree about a character as soon as they agree about the phase and what it uses. -/

/-- What follows an escape is read with clear registers.  They were cleared when the escape was
read. -/
theorem decoder_afterEscape {r : Registers} (hseq : r.seq = .empty) (hlen : r.stringLength = 0)
    (c : Char) : (r.afterEscape c).decoder = Decoder.afterEscape c := by
  -- With clear registers the phase alone tells the decoder, test by test.
  have hphase : (Registers.mk (.afterEscape c) .empty 0).decoder = Decoder.afterEscape c := by
    rw [Phase.afterEscape, Decoder.afterEscape]
    by_cases hbracket : c = '['
    · rw [if_pos hbracket, if_pos hbracket]
      rfl
    rw [if_neg hbracket, if_neg hbracket]
    by_cases hopener : (c = ']' || c = 'P' || c = 'X' || c = '^' || c = '_') = true
    · rw [if_pos hopener, if_pos hopener]
      rfl
    rw [if_neg hopener, if_neg hopener]
    by_cases hintermediate : Decoder.isIntermediate c = true
    · rw [if_pos hintermediate, if_pos hintermediate]
      rfl
    · rw [if_neg hintermediate, if_neg hintermediate]
      rfl
  rw [← hphase, afterEscape, hseq, hlen]

theorem cleared_afterEscape (r : Registers) (c : Char) : (r.afterEscape c).Cleared := by
  refine cleared_of_ne ?_
  simp only [afterEscape, Phase.afterEscape]
  repeat' split
  all_goals exact Phase.noConfusion

/-- The outcome of a character, for registers and for the decoder that they stand for. -/
structure Follows (outcome : Registers × Option Instruction)
    (outcome' : Decoder × Option Instruction) : Prop where
  decoder_eq : outcome.1.decoder = outcome'.1
  instruction_eq : outcome.2 = outcome'.2
  cleared : outcome.1.Cleared

theorem follows_control {r : Registers} (h : r.Cleared) (c : Char) :
    Follows (r.control c) (r.decoder.control c) := by
  rw [control, Decoder.control]
  split
  · exact ⟨rfl, rfl, fun _ => ⟨rfl, rfl⟩⟩
  · split
    · exact ⟨rfl, rfl, cleared_of_ne Phase.noConfusion⟩
    · exact ⟨rfl, rfl, h⟩

theorem follows_inString {r : Registers} (h : r.phase = .controlString) (c : Char) :
    Follows (r.inString c) (Decoder.inString r.stringLength c) := by
  have hne : ∀ p : Phase, p ≠ .escape → ∀ seq n, (Registers.mk p seq n).Cleared :=
    fun p hp seq n => cleared_of_ne hp
  rw [inString, Decoder.inString]
  split
  · exact ⟨rfl, rfl, hne _ Phase.noConfusion _ _⟩
  split
  · exact ⟨rfl, rfl, hne _ Phase.noConfusion _ _⟩
  split
  · exact ⟨rfl, rfl, hne _ Phase.noConfusion _ _⟩
  split
  · -- The string is over when the line break acts.
    next hescape hcancel _ =>
    rw [control, if_neg hescape, if_neg hcancel]
    exact ⟨rfl, rfl, hne _ Phase.noConfusion _ _⟩
  dsimp only
  split
  · exact ⟨rfl, rfl, hne _ Phase.noConfusion _ _⟩
  · refine ⟨?_, rfl, ?_⟩
    · rw [decoder, h]
    · refine cleared_of_ne ?_
      rw [h]
      exact Phase.noConfusion

theorem follows_inCsi {r : Registers} (h : r.phase = .csi) (c : Char) :
    Follows (r.inCsi c) (Decoder.inCsi r.seq c) := by
  -- What is gathered is gathered in the registers, in the same state.
  have hgather : ∀ seq : Csi, Follows ({ r with seq := seq }, none) (.csi seq, none) := by
    intro seq
    refine ⟨?_, rfl, ?_⟩
    · rw [decoder, h]
    · refine cleared_of_ne ?_
      rw [h]
      exact Phase.noConfusion
  have hreset : ∀ i : Option Instruction, Follows (r.reset, i) (.ground, i) :=
    fun i => ⟨rfl, rfl, cleared_of_ne Phase.noConfusion⟩
  rw [inCsi, Decoder.inCsi]
  split
  · exact hgather _
  split
  · exact hgather _
  split
  · exact hgather _
  split
  · exact hgather _
  split
  · exact hreset _
  · exact hreset _

/-- **A character takes the registers where it takes the decoder that they stand for**, and
completes the same instruction. -/
theorem follows_step {r : Registers} (h : r.Cleared) (c : Char) :
    Follows (r.step c) (r.decoder.step c) := by
  have hcontrol := follows_control h c
  obtain ⟨phase, seq, length⟩ := r
  cases phase with
  | ground =>
    simp only [decoder] at hcontrol
    simp only [step, decoder, Decoder.step]
    split
    · exact hcontrol
    · exact ⟨rfl, rfl, cleared_of_ne Phase.noConfusion⟩
  | escape =>
    -- It is only here that what earlier sequences left could show.
    obtain ⟨hseq, hlen⟩ := h rfl
    simp only [decoder] at hcontrol
    simp only [step, decoder, Decoder.step]
    split
    · exact hcontrol
    · exact ⟨decoder_afterEscape hseq hlen c, rfl, cleared_afterEscape _ c⟩
  | escapeIntermediate =>
    simp only [decoder] at hcontrol
    simp only [step, decoder, Decoder.step]
    split
    · exact hcontrol
    · split <;> exact ⟨rfl, rfl, cleared_of_ne Phase.noConfusion⟩
  | csi =>
    simp only [decoder] at hcontrol
    simp only [step, decoder, Decoder.step]
    split
    · exact hcontrol
    · exact follows_inCsi rfl c
  | controlString => exact follows_inString rfl c
  | controlStringEscape =>
    simp only [step, decoder, Decoder.step, inStringEscape]
    split
    · exact ⟨rfl, rfl, cleared_of_ne Phase.noConfusion⟩
    · exact ⟨decoder_afterEscape rfl rfl c, rfl, cleared_afterEscape _ c⟩

end Registers

/-! ### A terminal with registers -/

/-- A screen, and the registers of the decoder of the output written to it. -/
structure RegisterTerminal where
  screen : Screen
  registers : Registers
  deriving DecidableEq, Repr

namespace RegisterTerminal

/-- The terminal after one more character. -/
def step (t : RegisterTerminal) (c : Char) : RegisterTerminal :=
  let (registers, instruction) := t.registers.step c
  ⟨instruction.elim t.screen t.screen.perform, registers⟩

/-- The terminal after a text, character by character. -/
def feed (t : RegisterTerminal) (cs : List Char) : RegisterTerminal := cs.foldl step t

/-- The terminal that the registers stand for. -/
def terminal (t : RegisterTerminal) : Terminal := ⟨t.screen, t.registers.decoder⟩

theorem terminal_step {t : RegisterTerminal} (h : t.registers.Cleared) (c : Char) :
    (t.step c).terminal = t.terminal.step c := by
  have hstep := Registers.follows_step h c
  simp only [terminal, step, Terminal.step]
  rw [hstep.decoder_eq, hstep.instruction_eq]

/-- **A text does the same to both terminals.** -/
theorem terminal_feed {t : RegisterTerminal} (h : t.registers.Cleared) (cs : List Char) :
    (t.feed cs).terminal = t.terminal.feed cs := by
  induction cs generalizing t with
  | nil => rfl
  | cons c cs ih =>
    have hcleared : (t.step c).registers.Cleared := (Registers.follows_step h c).cleared
    rw [Terminal.feed_cons, ← terminal_step h]
    exact ih hcleared

end RegisterTerminal

end ConsoleReplay
