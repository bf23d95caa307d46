import ConsoleReplay.Proofs.Screen.Bounds
import ConsoleReplay.Proofs.Screen.Checked
import ConsoleReplay.Proofs.Screen.Registers

/-!
# What a terminal holds at most

A screen stores no more rows and cells than its size has room for, and an interpreter no more
of a sequence than its registers do.  The room of the registers is told of the registers
themselves.  A decoder that forgets would not do: it has no number of characters outside a
control string, while a register keeps the number until something clears it, also on the
ground after a string that its bell ended.

A register only ever grows inside a sequence of its own kind, where it is checked, and all
other ways leave it alone or clear it.  So whatever a run does to a terminal, its registers
stay within their room.

## Main definitions

* `Registers.Bounded r` — the registers hold no more than they have room for.
* `RegisterTerminal.apply`, `RegisterTerminal.run` — the operations on a terminal with
  registers, and runs of them.

## Main results

* `Registers.bounded_step` — a character keeps registers within their room.
* `RegisterTerminal.terminal_run` — a run takes registers where it takes the decoder.
* `RegisterTerminal.bounded_run` — **so does a run**, whatever its operations are.
* `Terminal.wellFormed_and_checked_run` — **every run from a new terminal** keeps within its
  bounds, screen and registers alike, and uses no index out of range.
-/

namespace ConsoleReplay

namespace Registers

/-! ### The room of registers -/

/-- The registers hold no more than they have room for, in whatever phase they are. -/
structure Bounded (r : Registers) : Prop where
  /-- Sixteen parameters are kept, and later ones dropped. -/
  length_params_le : r.seq.params.length ≤ maxParams
  /-- Every parameter is a word of 16 bits, the one that is being read too. -/
  seq_inWords : r.seq.InWords
  /-- A control string that gets longer is given up, and its length with it. -/
  stringLength_le : r.stringLength ≤ maxStringLength

theorem bounded_start : start.Bounded :=
  ⟨Nat.zero_le _, Csi.inWords_empty, Nat.zero_le _⟩

/-- A parameter is kept only where there is room for it. -/
theorem length_params_push_le {seq : Csi} (h : seq.params.length ≤ maxParams) (n : Nat) :
    (seq.push n).params.length ≤ maxParams := by
  rw [Csi.push]
  split
  · next hlt =>
    rw [List.length_append, List.length_singleton]
    exact hlt
  · exact h

variable {r : Registers}

/-- Changing the phase alone changes nothing that is held. -/
theorem Bounded.withPhase (h : r.Bounded) (phase : Phase) : { r with phase := phase }.Bounded :=
  ⟨h.length_params_le, h.seq_inWords, h.stringLength_le⟩

/-- What is gathered of a control sequence leaves the length of a string alone. -/
theorem Bounded.withSeq (h : r.Bounded) {seq : Csi} (hlen : seq.params.length ≤ maxParams)
    (hwords : seq.InWords) : { r with seq := seq }.Bounded :=
  ⟨hlen, hwords, h.stringLength_le⟩

/-- Clear registers have room for anything, whatever was in them. -/
theorem bounded_clear (r : Registers) : r.clear.Bounded :=
  ⟨Nat.zero_le _, Csi.inWords_empty, Nat.zero_le _⟩

theorem bounded_reset (r : Registers) : r.reset.Bounded := r.bounded_clear.withPhase .ground

theorem bounded_beginEscape (r : Registers) : r.beginEscape.Bounded :=
  r.bounded_clear.withPhase .escape

theorem bounded_control (h : r.Bounded) (c : Char) : (r.control c).1.Bounded := by
  rw [control]
  split
  · exact r.bounded_beginEscape
  · split
    · exact r.bounded_reset
    · exact h

/-- Only the character that is dropped is counted, and the count is checked at once.  The bell and
the escape leave the count where it is. -/
theorem bounded_inString (h : r.Bounded) (c : Char) : (r.inString c).1.Bounded := by
  rw [inString]
  split
  · exact h.withPhase .ground
  split
  · exact h.withPhase .controlStringEscape
  split
  · exact r.bounded_reset
  split
  · exact bounded_control r.bounded_reset c
  dsimp only
  split
  · exact bounded_reset _
  · next hroom => exact ⟨h.length_params_le, h.seq_inWords, Nat.le_of_not_lt hroom⟩

theorem bounded_inStringEscape (h : r.Bounded) (c : Char) : (r.inStringEscape c).Bounded := by
  rw [inStringEscape]
  split
  · exact h.withPhase .ground
  · exact r.bounded_beginEscape.withPhase _

theorem bounded_inCsi (h : r.Bounded) (c : Char) : (r.inCsi c).1.Bounded := by
  have hlen := h.length_params_le
  have hwords := h.seq_inWords
  rw [inCsi]
  split
  · exact h.withSeq hlen (hwords.digit c)
  split
  · -- A parameter is pushed only while there is room for one.
    have hseparate : r.seq.separate.params.length ≤ maxParams := by
      have hended : { r.seq with current := none }.params.length ≤ maxParams := hlen
      exact length_params_push_le hended _
    exact h.withSeq hseparate hwords.separate
  split
  · exact h.withSeq hlen ⟨hwords.params_le, hwords.current_le⟩
  split
  · exact h.withSeq hlen ⟨hwords.params_le, hwords.current_le⟩
  split
  · -- A final character clears all that was gathered.
    exact r.bounded_reset
  · exact r.bounded_reset

/-- **A character keeps registers within their room**, in every phase. -/
theorem bounded_step (h : r.Bounded) (c : Char) : (r.step c).1.Bounded := by
  have hcontrol := bounded_control h c
  rw [step]
  -- Length and parameters outlive the phases that read them, so the bounds are claimed in every
  -- phase and not only where they are in use.
  cases r.phase with
  | controlString => exact bounded_inString h c
  | controlStringEscape => exact bounded_inStringEscape h c
  | ground =>
    dsimp only
    split
    · exact hcontrol
    · exact h
  | escape =>
    dsimp only
    split
    · exact hcontrol
    · exact h.withPhase _
  | escapeIntermediate =>
    dsimp only
    split
    · exact hcontrol
    · split
      · exact h
      · exact h.withPhase .ground
  | csi =>
    dsimp only
    split
    · exact hcontrol
    · exact bounded_inCsi h c

end Registers

namespace RegisterTerminal

/-! ### Runs of a terminal with registers -/

/-- A terminal with registers that has received nothing. -/
def start (width height : Nat) : RegisterTerminal := ⟨.blank width height, .start⟩

/-- The terminal after an operation.  Text goes through the registers, giving a sequence up clears
them, and every other operation is one of the screen. -/
def apply (t : RegisterTerminal) : Terminal.Operation → RegisterTerminal
  | .feed cs => t.feed cs
  | .reset => { t with registers := t.registers.reset }
  | op => { t with screen := (t.terminal.apply op).screen }

/-- The terminal after several operations. -/
def run (t : RegisterTerminal) (ops : List Terminal.Operation) : RegisterTerminal :=
  ops.foldl apply t

variable {t : RegisterTerminal}

theorem cleared_feed (h : t.registers.Cleared) (cs : List Char) :
    (t.feed cs).registers.Cleared := by
  induction cs generalizing t with
  | nil => exact h
  | cons c cs ih => exact ih (t := t.step c) (Registers.follows_step h c).cleared

theorem cleared_apply (h : t.registers.Cleared) (op : Terminal.Operation) :
    (t.apply op).registers.Cleared := by
  cases op with
  | feed cs => exact cleared_feed h cs
  | reset => exact Registers.cleared_of_ne Phase.noConfusion
  | _ => exact h

/-- An operation does the same to both terminals. -/
theorem terminal_apply (h : t.registers.Cleared) (op : Terminal.Operation) :
    (t.apply op).terminal = t.terminal.apply op := by
  cases op with
  | feed cs => exact terminal_feed h cs
  | _ => rfl

/-- **A run takes registers where it takes the decoder that they stand for.** -/
theorem terminal_run (h : t.registers.Cleared) (ops : List Terminal.Operation) :
    (t.run ops).terminal = t.terminal.run ops := by
  induction ops generalizing t with
  | nil => rfl
  | cons op ops ih =>
    rw [Terminal.run_cons, ← terminal_apply h op]
    exact ih (cleared_apply h op)

theorem bounded_feed (h : t.registers.Bounded) (cs : List Char) :
    (t.feed cs).registers.Bounded := by
  induction cs generalizing t with
  | nil => exact h
  | cons c cs ih => exact ih (t := t.step c) (Registers.bounded_step h c)

theorem bounded_apply (h : t.registers.Bounded) (op : Terminal.Operation) :
    (t.apply op).registers.Bounded := by
  cases op with
  | feed cs => exact bounded_feed h cs
  | reset => exact t.registers.bounded_reset
  | _ => exact h

/-- **A run keeps registers within their room**, whatever its operations are. -/
theorem bounded_run (h : t.registers.Bounded) (ops : List Terminal.Operation) :
    (t.run ops).registers.Bounded := by
  induction ops generalizing t with
  | nil => exact h
  | cons op ops ih => exact ih (bounded_apply h op)

end RegisterTerminal

namespace Terminal

/-- **Every run from a new terminal keeps within its bounds**: whatever size was asked for and
whatever the operations and their arguments are, the screen stays well formed, the registers of the
interpreter hold no more than they have room for, and no operation looks a row or a cell up that is
not there.  The registers are those of the whole run: they keep what earlier sequences left in them,
and the decoder of the run is the one that they stand for. -/
theorem wellFormed_and_checked_run (width height : Nat) (ops : List Operation) :
    let t := (RegisterTerminal.start width height).run ops
    t.screen.WellFormed
      ∧ t.registers.Bounded
      ∧ t.terminal = (start width height).run ops
      ∧ Checked.run (start width height) ops = some t.terminal := by
  intro t
  have hstart := wellFormed_start width height
  have hsame : t.terminal = (start width height).run ops :=
    RegisterTerminal.terminal_run (Registers.cleared_of_ne Phase.noConfusion) ops
  have hscreen : t.terminal.screen.WellFormed := hsame ▸ (hstart.run ops).screen
  refine ⟨hscreen, RegisterTerminal.bounded_run Registers.bounded_start ops, hsame, ?_⟩
  rw [hsame]
  exact Checked.run_eq_some hstart ops

/-- A title that its bell ends leaves its length behind, and a second one starts anew. -/
example :
    let t := (RegisterTerminal.start 9 2).run [.feed "\x1b]0;title\x07".toList]
    t.registers.phase = .ground ∧ t.registers.stringLength = 7
      ∧ (t.feed "\x1b]2;".toList).registers.stringLength = 2 := by
  decide

end Terminal

end ConsoleReplay
