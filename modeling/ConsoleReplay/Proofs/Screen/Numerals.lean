import ConsoleReplay.Proofs.Capture.Rereading
import ConsoleReplay.Proofs.Screen.Registers

/-!
# Control sequences that hold numbers

The parameters of a control sequence are written as decimal numerals with semicolons between
them.  A decoder reads them digit by digit, holds a number that gets too large at the largest
parameter, and drops numbers for which there is no room.  The last number has no semicolon, so
it counts only when the final character comes.

Other control characters may come while a sequence is read, between any two of its characters.
Most of them act on the screen at once and leave the sequence as it is.  Only an escape, a
cancel and a substitute do not: they end it.

## Main definitions

* `Csi.numerals ns` — numbers as the parameters of a sequence are written.
* `Csi.holding done last` — a sequence in progress of which complete numbers and a last one have
  been read.
* `Screen.obey s c` — the screen after a control character.
* `Decoder.Interspersed plain text` — a text with control characters put in that end no sequence.

## Main results

* `Csi.foldl_read_numerals` — numerals are read as the numbers they stand for.
* `Terminal.feed_escape_interspersed` — a control sequence with controls put in.
* `RegisterTerminal.feed_numerals_pieces` — **a sequence of numbers is decoded exactly**.
-/

namespace ConsoleReplay

open Capture (valueText valueText_of_lt valueText_of_le isDigit_of_mem_valueText)

/-! ### Numbers -/

namespace Csi

/-- Numbers as the parameters of a control sequence are written, in decimal digits and with
semicolons between them. -/
def numerals (ns : List Nat) : List Char := List.intercalate [';'] (ns.map valueText)

@[simp] theorem numerals_singleton (n : Nat) : numerals [n] = valueText n :=
  List.intercalate_singleton

theorem numerals_cons_cons (n m : Nat) (ns : List Nat) :
    numerals (n :: m :: ns) = valueText n ++ ';' :: numerals (m :: ns) := by
  rw [numerals, List.map_cons, List.map_cons, List.intercalate_cons_cons, List.append_assoc]
  rfl

/-- A sequence in progress of which these complete numbers have been read, and a last one that
may go on.  Of the complete ones the first are kept, and each number is held at the largest
parameter. -/
def holding (done : List Nat) (last : Option Nat) : Csi :=
  ⟨(done.take maxParams).map (min maxParam), last.map (min maxParam), false, false⟩

/-- Holding a number at the largest parameter before a digit is read comes to the same as
holding the number with its digit. -/
theorem min_maxParam_digit (n d : Nat) :
    min maxParam (min maxParam (min maxParam n * 10) + d) = min maxParam (n * 10 + d) := by
  rw [maxParam]
  omega

/-- A digit makes the last number ten times as large and adds its value. -/
theorem digit_holding (done : List Nat) (last : Option Nat) (c : Char) :
    (holding done last).digit c
      = holding done (some (last.getD 0 * 10 + (c.toNat - '0'.toNat))) := by
  have hlast : (last.map (min maxParam)).getD 0 = min maxParam (last.getD 0) := by
    cases last with
    | none => rfl
    | some n => rfl
  rw [digit, holding, hlast, min_maxParam_digit]
  rfl

theorem params_push (seq : Csi) (n : Nat) :
    (seq.push n).params
      = if seq.params.length < maxParams then seq.params ++ [n] else seq.params := by
  rw [push]
  split <;> rfl

/-- A complete number is kept as long as there is room for it.  One that there is no room for is
dropped, and no later one takes its place. -/
theorem push_holding (done : List Nat) (n : Nat) :
    (holding done none).push (min maxParam n) = holding (done ++ [n]) none := by
  have hlen : (holding done none).params.length = min maxParams done.length := by
    rw [holding, List.length_map, List.length_take]
  rw [push, hlen]
  by_cases hroom : done.length < maxParams
  · have hconcat : (done ++ [n]).length ≤ maxParams := by
      rw [List.length_append, List.length_singleton]
      omega
    rw [if_pos (by omega), holding, holding, List.take_of_length_le (Nat.le_of_lt hroom),
      List.take_of_length_le hconcat, List.map_append]
    rfl
  · rw [if_neg (by omega), holding, holding, List.take_append_of_le_length (by omega)]

/-- A semicolon completes the last number. -/
theorem read_semicolon_holding (done : List Nat) (n : Nat) :
    (holding done (some n)).read ';' = holding (done ++ [n]) none := push_holding done n

/-- All parameters of a sequence in progress: the final character completes the last number as
a semicolon does. -/
theorem allParams_holding (done : List Nat) (last : Option Nat) :
    (holding done last).allParams = ((done ++ last.toList).take maxParams).map (min maxParam) := by
  cases last with
  | none =>
    rw [Option.toList_none, List.append_nil]
    rfl
  | some n =>
    have hparams : (holding done (some n)).allParams
        = ((holding done none).push (min maxParam n)).params := by
      show ((holding done (some n)).push (min maxParam n)).params = _
      rw [params_push, params_push]
      rfl
    rw [hparams, push_holding]
    rfl

/-- A numeral is read as the number it stands for. -/
theorem foldl_read_valueText (done : List Nat) (n : Nat) :
    (valueText n).foldl read (holding done none) = holding done (some n) := by
  have hdigit {last : Option Nat} {d : Nat} (hd : d < 10) :
      (holding done last).read d.digitChar = holding done (some (last.getD 0 * 10 + d)) := by
    have hclass : d.digitChar.isDigit = true := by rw [Nat.isDigit_digitChar, decide_eq_true hd]
    have hvalue : d.digitChar.toNat - '0'.toNat = d := Nat.toNat_digitChar_sub_48_of_lt_ten hd
    rw [read, if_pos hclass, digit_holding, hvalue]
  -- The last digit of a number is read after its tenth.
  induction n using Nat.strongRecOn with
  | ind n ih =>
    by_cases hlt : n < 10
    · rw [valueText_of_lt hlt, List.foldl_cons, List.foldl_nil, hdigit hlt, Option.getD_none,
        Nat.zero_mul, Nat.zero_add]
    · rw [valueText_of_le (by omega), List.foldl_append, ih (n / 10) (by omega), List.foldl_cons,
        List.foldl_nil, hdigit (by omega), Option.getD_some, Nat.div_add_mod']

/-- **Numerals are read as the numbers they stand for.** -/
theorem foldl_read_numerals (done : List Nat) {ns : List Nat} (h : ns ≠ []) :
    (numerals ns).foldl read (holding done none)
      = holding (done ++ ns.dropLast) ns.getLast? := by
  induction ns generalizing done with
  | nil => exact absurd rfl h
  | cons n ns ih =>
    cases ns with
    | nil =>
      rw [numerals_singleton, foldl_read_valueText]
      simp
    | cons m ns =>
      rw [numerals_cons_cons, List.foldl_append, foldl_read_valueText, List.foldl_cons,
        read_semicolon_holding, ih _ (List.cons_ne_nil m ns), List.append_assoc]
      rfl

/-- What is gathered of a body that holds numbers. -/
theorem ofBody_numerals (ns : List Nat) :
    ofBody (numerals ns) = holding ns.dropLast ns.getLast? := by
  cases ns with
  | nil => rfl
  | cons n ns => exact foldl_read_numerals [] (List.cons_ne_nil n ns)

/-- A final character completes the numbers: the first sixteen, each held at the largest
parameter. -/
theorem complete_numerals (ns : List Nat) (final : Char) :
    (ofBody (numerals ns)).complete final
      = some (.sequence final ((ns.take maxParams).map (min maxParam))) := by
  have hmarks : ¬ ((holding ns.dropLast ns.getLast?).isPrivate
      || (holding ns.dropLast ns.getLast?).isUnsupported) = true := Bool.false_ne_true
  have hnumbers : ns.dropLast ++ ns.getLast?.toList = ns := by
    rcases List.eq_nil_or_concat ns with rfl | ⟨front, last, rfl⟩
    · rfl
    · simp
  rw [ofBody_numerals, complete, if_neg hmarks, allParams_holding, hnumbers]

/-- The parameters are made up of digits and semicolons. -/
theorem isParam_of_mem_numerals {ns : List Nat} :
    ∀ c ∈ numerals ns, Escape.isParam c = true := by
  induction ns with
  | nil => exact fun c hc => absurd hc List.not_mem_nil
  | cons n ns ih =>
    have hn : ∀ c ∈ valueText n, Escape.isParam c = true := fun c hc =>
      Escape.isParam_iff.2 (.inl (isDigit_of_mem_valueText c hc))
    cases ns with
    | nil => rwa [numerals_singleton]
    | cons m ns =>
      rw [numerals_cons_cons]
      exact List.forall_mem_append.2 ⟨hn, List.forall_mem_cons.2 ⟨rfl, ih⟩⟩

theorem isBody_of_mem_numerals {ns : List Nat} : ∀ c ∈ numerals ns, Escape.isBody c = true :=
  fun c hc => Escape.isBody_of_isParam (isParam_of_mem_numerals c hc)

end Csi

/-! ### Controls inside a sequence

A control that acts leaves the sequence as it is.  So the characters of a sequence can be told
from the controls among them, as if the controls had come first. -/

/-- The screen after a control character that ends no sequence: the line controls act, the
others are ignored. -/
def Screen.obey (s : Screen) (c : Char) : Screen :=
  if c = '\r' then s.carriageReturn
  else if c = '\n' || c = '\x0b' || c = '\x0c' then s.lineFeed
  else if c = '\x08' then s.backspace
  else if c = '\t' then s.tab
  else s

/-- The decoder asks of a screen what a control character says. -/
theorem Screen.elim_ofControl? (s : Screen) (c : Char) :
    (Instruction.ofControl? c).elim s s.perform = s.obey c := by
  unfold Instruction.ofControl?
  split
  case h_7 hreturn hfeed hvertical hform hback htab =>
    have hline : ¬ (c = '\n' || c = '\x0b' || c = '\x0c') = true := by
      simp only [Bool.or_eq_true, decide_eq_true_eq]
      exact fun h => h.elim (·.elim hfeed hvertical) hform
    rw [obey, if_neg hreturn, if_neg hline, if_neg hback, if_neg htab]
    rfl
  all_goals rfl

namespace Decoder

/-- The controls of ASCII. -/
def isControl (c : Char) : Bool := c.toNat < 0x20

/-- The controls that end the sequence in progress: escape, cancel and substitute.  All others act
inside of it. -/
def enders : List Char := ['\x1b', '\x18', '\x1a']

/-- The controls of a text, in order. -/
def controls (text : List Char) : List Char := text.filter isControl

/-- The other characters of a text. -/
def withoutControls (text : List Char) : List Char := text.filter fun c => !isControl c

theorem filter_cons_of_isControl {c : Char} (h : isControl c = true) (text : List Char) :
    controls (c :: text) = c :: controls text
      ∧ withoutControls (c :: text) = withoutControls text :=
  ⟨List.filter_cons_of_pos h, List.filter_cons_of_neg (by simp [h])⟩

theorem filter_cons_of_not_isControl {c : Char} (h : isControl c = false) (text : List Char) :
    controls (c :: text) = controls text
      ∧ withoutControls (c :: text) = c :: withoutControls text :=
  ⟨List.filter_cons_of_neg (by simp [h]), List.filter_cons_of_pos (by simp [h])⟩

/-- A text with control characters put in anywhere.  None of them ends a sequence, and without
them the text is `plain`. -/
structure Interspersed (plain text : List Char) : Prop where
  withoutControls_eq : withoutControls text = plain
  notMem : ∀ c ∈ text, c ∉ enders

theorem Interspersed.of_cons {plain text : List Char} {c : Char}
    (h : Interspersed plain (c :: text)) : Interspersed (withoutControls text) text :=
  ⟨rfl, fun d hd => h.notMem d (List.mem_cons_of_mem c hd)⟩

/-- The beginning of such a text is the beginning of the plain one with controls put in. -/
theorem Interspersed.exists_of_prefix {plain text before : List Char}
    (h : Interspersed plain text) (hbefore : before <+: text) :
    ∃ front, front <+: plain ∧ Interspersed front before := by
  refine ⟨withoutControls before, ?_, rfl, fun c hc => h.notMem c (hbefore.subset hc)⟩
  rw [← h.withoutControls_eq]
  exact hbefore.filter _

/-- A control that does not end the sequence acts at once, and the sequence goes on. -/
theorem step_of_isControl {d : Decoder} (hd : d = .escape ∨ ∃ seq, d = .csi seq) {c : Char}
    (hc : isControl c = true) (hender : c ∉ enders) :
    d.step c = (d, Instruction.ofControl? c) := by
  have hlow : c.toNat < 0x20 := of_decide_eq_true hc
  simp only [enders, List.mem_cons, List.not_mem_nil, or_false, not_or] at hender
  obtain ⟨hescape, hcancel, hsubstitute⟩ := hender
  have habort : ¬ (c = '\x18' || c = '\x1a') = true := by simp [hcancel, hsubstitute]
  have hcontrol : d.control c = (d, Instruction.ofControl? c) := by
    rw [control, if_neg hescape, if_neg habort]
  rcases hd with rfl | ⟨seq, rfl⟩
  · rw [step, if_pos hlow, hcontrol]
  · rw [step, if_pos hlow, hcontrol]

end Decoder

namespace Terminal

open Decoder (Interspersed controls withoutControls enders)

theorem step_of_isControl (s : Screen) {d : Decoder} (hd : d = .escape ∨ ∃ seq, d = .csi seq)
    {c : Char} (hc : Decoder.isControl c = true) (hender : c ∉ enders) :
    step ⟨s, d⟩ c = ⟨s.obey c, d⟩ := by
  rw [Terminal.step, Decoder.step_of_isControl hd hc hender, ← s.elim_ofControl? c]

/-- After an escape controls act, and the sequence is still to come. -/
theorem feed_escape_controls (s : Screen) {text : List Char} (h : Interspersed [] text) :
    feed ⟨s, .escape⟩ text = ⟨(controls text).foldl Screen.obey s, .escape⟩ := by
  -- Nothing but controls stands between the escape and the bracket.
  have hcontrols : ∀ c ∈ text, Decoder.isControl c = true := by
    have hnone := List.filter_eq_nil_iff.1 h.withoutControls_eq
    simpa using hnone
  rw [controls, List.filter_eq_self.2 hcontrols]
  have hnotMem := h.notMem
  clear h
  induction text generalizing s with
  | nil => rfl
  | cons c text ih =>
    rw [feed_cons, step_of_isControl s (.inl rfl) (hcontrols c List.mem_cons_self)
      (hnotMem c List.mem_cons_self), List.foldl_cons]
    exact ih _ (fun d hd => hcontrols d (List.mem_cons_of_mem c hd))
      fun d hd => hnotMem d (List.mem_cons_of_mem c hd)

/-- In the body of a control sequence controls act, and the body is gathered without them.  The
controls act on the screen in their order, as if they stood in front of the sequence. -/
theorem feed_csi_interspersed (s : Screen) (seq : Csi) {body text : List Char}
    (hbody : ∀ c ∈ body, Escape.isBody c = true) (h : Interspersed body text) :
    feed ⟨s, .csi seq⟩ text
      = ⟨(controls text).foldl Screen.obey s, .csi (body.foldl Csi.read seq)⟩ := by
  induction text generalizing s seq body with
  | nil =>
    obtain rfl := h.withoutControls_eq
    rfl
  | cons c text ih =>
    have hrest := h.of_cons
    obtain rfl := h.withoutControls_eq
    have hc := h.notMem c List.mem_cons_self
    cases hcontrol : Decoder.isControl c with
    | true =>
      -- A control acts on the screen and leaves what is gathered alone.
      obtain ⟨hcontrols, hplain⟩ := Decoder.filter_cons_of_isControl hcontrol text
      rw [hplain] at hbody ⊢
      rw [feed_cons, step_of_isControl s (.inr ⟨seq, rfl⟩) hcontrol hc, ih _ _ hbody hrest,
        hcontrols, List.foldl_cons]
    | false =>
      -- A character of the body is gathered and leaves the screen alone.
      obtain ⟨hcontrols, hplain⟩ := Decoder.filter_cons_of_not_isControl hcontrol text
      rw [hplain] at hbody ⊢
      obtain ⟨hfirst, hothers⟩ := List.forall_mem_cons.1 hbody
      have hgathered := feed_body s seq (List.forall_mem_singleton.2 hfirst)
      rw [← List.singleton_append, feed_append, hgathered, ih _ _ hothers hrest,
        List.singleton_append, hcontrols, List.foldl_cons]
      rfl

/-- **A control sequence with controls put in.**  Up to its final character they act in order,
and nothing else happens to the screen. -/
theorem feed_escape_interspersed (s : Screen) {body text : List Char}
    (hbody : ∀ c ∈ body, Escape.isBody c = true) (h : Interspersed ('[' :: body) text) :
    feed ⟨s, .escape⟩ text
      = ⟨(controls text).foldl Screen.obey s, .csi (Csi.ofBody body)⟩ := by
  -- The controls part into those before the bracket and those behind it.
  obtain ⟨front, back, rfl, hfront, hbracket, hback⟩ :=
    List.filter_eq_cons_iff.1 h.withoutControls_eq
  have hnotMem := List.forall_mem_append.1 h.notMem
  have hfront' : Interspersed [] front := ⟨List.filter_eq_nil_iff.2 hfront, hnotMem.1⟩
  have hback' : Interspersed body back := ⟨hback, (List.forall_mem_cons.1 hnotMem.2).2⟩
  have hopen (s : Screen) : step ⟨s, .escape⟩ '[' = ⟨s, .csi .empty⟩ := rfl
  have hcontrols : controls (front ++ '[' :: back) = controls front ++ controls back :=
    List.filter_append ..
  rw [feed_append, feed_escape_controls s hfront', feed_cons, hopen,
    feed_csi_interspersed _ _ hbody hback', hcontrols, List.foldl_append]
  rfl

/-- Before the final character a sequence does to the screen what the controls in it say. -/
theorem screen_feed_escape_of_prefix (s : Screen) {body text before : List Char}
    (hbody : ∀ c ∈ body, Escape.isBody c = true) (h : Interspersed ('[' :: body) text)
    (hbefore : before <+: text) :
    (feed ⟨s, .escape⟩ before).screen = (controls before).foldl Screen.obey s := by
  obtain ⟨front, hfront, hinterspersed⟩ := h.exists_of_prefix hbefore
  rcases List.prefix_cons_iff.1 hfront with rfl | ⟨start, rfl, hstart⟩
  · rw [feed_escape_controls s hinterspersed]
  · rw [feed_escape_interspersed s (fun c hc => hbody c (hstart.subset hc)) hinterspersed]

/-- A sequence of numbers with controls put in, up to its final character and with it. -/
theorem feed_numerals (s : Screen) (ns : List Nat) {final : Char}
    (hfinal : Escape.isFinal final = true) {text : List Char}
    (htext : Interspersed ('[' :: Csi.numerals ns) text) :
    feed ⟨s, .ground⟩ ('\x1b' :: text)
        = ⟨(controls text).foldl Screen.obey s, .csi (Csi.ofBody (Csi.numerals ns))⟩
      ∧ feed ⟨s, .ground⟩ ('\x1b' :: text ++ [final])
        = ⟨((controls text).foldl Screen.obey s).perform
            (.sequence final ((ns.take maxParams).map (min maxParam))), .ground⟩ := by
  have hescape : step ⟨s, .ground⟩ '\x1b' = ⟨s, .escape⟩ := rfl
  have hbefore : feed ⟨s, .ground⟩ ('\x1b' :: text)
      = ⟨(controls text).foldl Screen.obey s, .csi (Csi.ofBody (Csi.numerals ns))⟩ := by
    rw [feed_cons, hescape, feed_escape_interspersed s Csi.isBody_of_mem_numerals htext]
  -- Only the final character makes an instruction of what was gathered.
  have hend : Decoder.step (.csi (Csi.ofBody (Csi.numerals ns))) final
      = (.ground, some (.sequence final ((ns.take maxParams).map (min maxParam)))) := by
    have hcode := (Escape.isFinal_iff.1 hfinal).1
    rw [Decoder.step, if_neg (by omega), Decoder.inCsi_of_isFinal _ hfinal, Csi.complete_numerals]
  refine ⟨hbefore, ?_⟩
  rw [feed_append, hbefore, feed_cons, feed_nil, Terminal.step, hend]
  rfl

end Terminal

/-! ### Sequences of numbers -/

namespace Registers

/-- In the body of a control sequence a character is gathered, or nothing is left of the
sequence. -/
theorem inCsi_eq_or (r : Registers) (c : Char) :
    (r.inCsi c).1.phase = r.phase ∨ (r.inCsi c).1 = .start := by
  rw [inCsi]
  repeat' split
  · exact .inl rfl
  · exact .inl rfl
  · exact .inl rfl
  · exact .inl rfl
  · exact .inr rfl
  · exact .inr rfl

/-- A control sequence that is over leaves nothing behind.  All registers are clear after it, not
only those that it used. -/
theorem step_eq_start {r : Registers} {seq : Csi} (h : r.decoder = .csi seq) {c : Char}
    (hc : 0x20 ≤ c.toNat) (hground : (r.step c).1.phase = .ground) : (r.step c).1 = .start := by
  have hphase : r.phase = .csi := by
    rw [decoder] at h
    revert h
    cases r.phase <;> simp
  have hstep : r.step c = r.inCsi c := by
    rw [step, hphase]
    exact if_neg (by omega)
  rw [hstep] at hground ⊢
  rcases r.inCsi_eq_or c with hsame | hstart
  · rw [hsame, hphase] at hground
    cases hground
  · exact hstart

end Registers

namespace RegisterTerminal

open Decoder (Interspersed controls)

/-- A control sequence that its final character ends leaves nothing in the registers. -/
theorem registers_feed_concat {t : RegisterTerminal} (ht : t.registers.Cleared)
    {text : List Char} {seq : Csi} (hseq : (t.terminal.feed text).decoder = .csi seq) {c : Char}
    (hc : 0x20 ≤ c.toNat) (hground : (t.terminal.feed (text ++ [c])).decoder.isGround = true) :
    (t.feed (text ++ [c])).registers = .start := by
  rw [← terminal_feed ht] at hseq hground
  have hphase := (Registers.isGround_decoder _).1 hground
  rw [feed, List.foldl_append] at hphase ⊢
  exact Registers.step_eq_start hseq hc hphase

/-- **A sequence of numbers is decoded exactly.**  It may come in pieces, hold any numbers, and
have controls put in anywhere after its escape.  Until its final character comes the controls act
in order, and nothing else touches the screen.  Then the operation is carried out, with the first
sixteen numbers, each held at 65535.  The decoder is back on the ground, and where registers could
keep something of the sequence, nothing is left in them. -/
theorem feed_numerals_pieces {t : RegisterTerminal} (hground : t.registers.phase = .ground)
    (ns : List Nat) {final : Char} (hfinal : Escape.isFinal final = true) {text : List Char}
    (htext : Interspersed ('[' :: Csi.numerals ns) text) {pieces : List (List Char)}
    (hpieces : pieces.flatten = '\x1b' :: text ++ [final]) :
    (∀ before, before <+: '\x1b' :: text →
        (t.feed before).screen = (controls before).foldl Screen.obey t.screen)
      ∧ pieces.foldl feed t
        = ⟨((controls text).foldl Screen.obey t.screen).perform
            (.sequence final ((ns.take 16).map (min 65535))), .start⟩
      ∧ pieces.foldl Terminal.feed t.terminal
        = ⟨((controls text).foldl Screen.obey t.screen).perform
            (.sequence final ((ns.take 16).map (min 65535))), .ground⟩ := by
  -- On the ground nothing is left of earlier sequences that could be taken for a part of this
  -- one.
  have hcleared : t.registers.Cleared := by
    refine Registers.cleared_of_ne ?_
    rw [hground]
    exact Phase.noConfusion
  have hterminal : t.terminal = ⟨t.screen, .ground⟩ := by
    rw [terminal, Registers.decoder, hground]
  obtain ⟨hbefore, hafter⟩ := Terminal.feed_numerals t.screen ns hfinal htext
  refine ⟨?_, ?_, ?_⟩
  · intro before hprefix
    show (t.feed before).terminal.screen = _
    rw [terminal_feed hcleared, hterminal]
    rcases List.prefix_cons_iff.1 hprefix with rfl | ⟨rest, rfl, hrest⟩
    · rfl
    · have hescape : Terminal.step ⟨t.screen, .ground⟩ '\x1b' = ⟨t.screen, .escape⟩ := rfl
      rw [Terminal.feed_cons, hescape,
        Terminal.screen_feed_escape_of_prefix _ Csi.isBody_of_mem_numerals htext hrest]
      rfl
  · -- Pieces are fed one after the other, so it does not matter where they were cut.
    have hflat : pieces.foldl feed t = t.feed ('\x1b' :: text ++ [final]) := by
      show pieces.foldl (fun t cs => cs.foldl step t) t = _
      rw [← List.foldl_flatten, hpieces]
      rfl
    have hcode := (Escape.isFinal_iff.1 hfinal).1
    rw [← hterminal] at hbefore hafter
    have hscreen : (t.feed ('\x1b' :: text ++ [final])).terminal.screen = _ :=
      congrArg Terminal.screen ((terminal_feed hcleared _).trans hafter)
    have hregisters := registers_feed_concat hcleared (congrArg Terminal.decoder hbefore)
      (by omega : 0x20 ≤ final.toNat) (congrArg (fun t => t.decoder.isGround) hafter)
    have hparts (u : RegisterTerminal) : u = ⟨u.terminal.screen, u.registers⟩ := rfl
    rw [hflat, hparts (t.feed _), hregisters, hscreen]
    rfl
  · show pieces.foldl (fun t cs => cs.foldl Terminal.step t) t.terminal = _
    rw [← List.foldl_flatten, hpieces, hterminal]
    exact hafter

/-- A position in two pieces, behind a window title whose length is still in the registers: its
first number is too large, and a line feed and a bell stand among its digits. -/
theorem feed_pieces_of_position :
    let t : RegisterTerminal := ⟨.blank 4 3, .ground, ⟨[7], some 3, true, false⟩, 700⟩
    Decoder.Interspersed ('[' :: Csi.numerals [70000, 2]) "[7\n0000;\x072".toList
      ∧ ["\x1b[7\n00".toList, "00;\x072H".toList].foldl feed t
        = ⟨{ Screen.blank 4 3 with column := 1, line := 2 }, .start⟩ := by
  intro t
  have henders : "[7\n0000;\x072".toList.all (fun c => !Decoder.enders.contains c) = true := by
    decide +kernel
  have htext : Decoder.Interspersed ('[' :: Csi.numerals [70000, 2]) "[7\n0000;\x072".toList := by
    refine ⟨by decide +kernel, fun c hc => ?_⟩
    simpa using List.all_eq_true.1 henders c hc
  have hground : t.registers.phase = .ground := rfl
  have hfinal : Escape.isFinal 'H' = true := rfl
  have hpieces : ["\x1b[7\n00".toList, "00;\x072H".toList].flatten
      = '\x1b' :: "[7\n0000;\x072".toList ++ ['H'] := by decide +kernel
  have hposition := (feed_numerals_pieces hground [70000, 2] hfinal htext hpieces).2.1
  exact ⟨htext, hposition.trans (by decide +kernel)⟩

end RegisterTerminal

end ConsoleReplay
