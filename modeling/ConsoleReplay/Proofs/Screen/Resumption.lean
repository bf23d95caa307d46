import ConsoleReplay.Proofs.Screen.Registers

/-!
# How long a sequence can hide output

Output that stops inside a sequence is read as part of the sequence for a while, and nothing of it
is seen.  How long this goes on is bounded.  Let the text be made of final characters, the capital
and small letters among them.  The first of these completes a control sequence, and a control
string counts its characters and is given up after too many.

The longest way back leads through a control string that the text itself opens.  After an escape,
which may also be half of the terminator of another string, the first character of the text opens
it, and it takes one character more than a control string may have to be rid of it.

## Main definitions

* `Decoder.delay d` — the most final characters that are read before no sequence is in progress.

## Main results

* `Decoder.delay_step_lt` — every final character brings the end of the sequence nearer.
* `Terminal.exists_feed_take_ground` — the sequence ends within a text as long as the delay.
* `RegisterTerminal.ground_within` — **a sequence ends within 1026 final characters**, and it may
  take as many.
-/

namespace ConsoleReplay

namespace Decoder

open Escape

/-- The most final characters that are read before no sequence is in progress.  A control string
takes the longest: up to its bound it takes final characters like any others. -/
def delay : Decoder → Nat
  | .ground => 0
  | .escape => maxStringLength + 2
  | .escapeIntermediate => 1
  | .csi _ => 1
  | .controlString length => maxStringLength - length + 1
  | .controlStringEscape => maxStringLength + 2

theorem delay_le (d : Decoder) : d.delay ≤ maxStringLength + 2 := by
  cases d with
  | ground => exact Nat.zero_le _
  | escape => exact Nat.le_refl _
  | escapeIntermediate => exact Nat.le_add_left 1 _
  | csi seq => exact Nat.le_add_left 1 _
  | controlString length =>
    rw [delay]
    omega
  | controlStringEscape => exact Nat.le_refl _

theorem eq_ground_of_delay_eq_zero {d : Decoder} (h : d.delay = 0) : d = .ground := by
  cases d with
  | ground => rfl
  | _ => exact absurd h (Nat.succ_ne_zero _)

/-- What follows an escape is at worst a control string of which nothing was read. -/
theorem delay_afterEscape_lt (c : Char) : (afterEscape c).delay < maxStringLength + 2 := by
  rw [afterEscape]
  split
  · exact Nat.lt_of_lt_of_le Nat.one_lt_two (Nat.le_add_left 2 _)
  · split
    · exact Nat.lt_succ_self _
    · split
      · exact Nat.lt_of_lt_of_le Nat.one_lt_two (Nat.le_add_left 2 _)
      · exact Nat.succ_pos _

/-- A final character neither ends a control string before its time nor begins its terminator. -/
theorem notMem_stringBreaks_of_isFinal {c : Char} (h : isFinal c = true) : c ∉ stringBreaks := by
  have hcode := (isFinal_iff.1 h).1
  intro hmem
  simp only [stringBreaks, List.mem_cons, List.not_mem_nil, or_false] at hmem
  rcases hmem with rfl | rfl | rfl | rfl | rfl | rfl <;> exact absurd hcode (by decide)

/-- A control string takes a final character, or had its last one.  Each character leaves fewer to
come, so the delay is a measure. -/
theorem delay_inString_lt {length : Nat} {c : Char} (h : isFinal c = true) :
    (inString length c).1.delay < (controlString length).delay := by
  by_cases hroom : length + 1 ≤ maxStringLength
  · rw [inString_of_notMem (notMem_stringBreaks_of_isFinal h) hroom]
    simp only [delay]
    omega
  · have hground : (inString length c).1 = .ground := by
      have hbreak := notMem_stringBreaks_of_isFinal h
      simp only [stringBreaks, List.mem_cons, List.not_mem_nil, or_false, not_or] at hbreak
      simp [inString, hbreak, show maxStringLength < length + 1 by omega]
    rw [hground]
    exact Nat.succ_pos _

/-- **Every final character brings the end of a sequence nearer.** -/
theorem delay_step_lt {d : Decoder} (hd : d ≠ .ground) {c : Char} (hc : isFinal c = true) :
    (d.step c).1.delay < d.delay := by
  have hcode := (isFinal_iff.1 hc).1
  -- A final character is no control, so that every state takes it for its sequence.
  obtain ⟨hescape, hstring⟩ := step_after_escape (c := c) (by omega)
  cases d with
  | ground => exact absurd rfl hd
  | escape =>
    rw [hescape]
    exact delay_afterEscape_lt c
  | escapeIntermediate =>
    have hintermediate : ¬ isIntermediate c = true := by
      rw [isIntermediate_iff]
      omega
    rw [step, if_neg (by omega), if_neg hintermediate]
    exact Nat.one_pos
  | csi seq =>
    rw [step, if_neg (by omega), inCsi_of_isFinal seq hc]
    exact Nat.one_pos
  | controlString length => exact delay_inString_lt hc
  | controlStringEscape =>
    rw [hstring]
    exact delay_afterEscape_lt c

end Decoder

namespace Terminal

open Escape

/-- In a text of final characters that is as long as the delay, the sequence ends. -/
theorem exists_feed_take_ground {cs : List Char} (hcs : ∀ c ∈ cs, isFinal c = true) (t : Terminal)
    (hlen : t.decoder.delay ≤ cs.length) :
    ∃ n ≤ t.decoder.delay, (t.feed (cs.take n)).decoder = .ground := by
  induction cs generalizing t with
  | nil => exact ⟨0, Nat.zero_le _, Decoder.eq_ground_of_delay_eq_zero (Nat.le_zero.1 hlen)⟩
  | cons c cs ih =>
    by_cases hground : t.decoder = .ground
    · exact ⟨0, Nat.zero_le _, hground⟩
    · obtain ⟨hc, hrest⟩ := List.forall_mem_cons.1 hcs
      have hnearer : (t.step c).decoder.delay < t.decoder.delay := Decoder.delay_step_lt hground hc
      rw [List.length_cons] at hlen
      obtain ⟨n, hn, hend⟩ := ih hrest (t.step c) (by omega)
      exact ⟨n + 1, by omega, hend⟩

/-- A text that opens a control string after an escape is hidden as long as it may be.  It makes the
bound sharp. -/
theorem feed_take_ne_ground (s : Screen) {n : Nat} (hn : n < maxStringLength + 2) :
    (feed ⟨s, .escape⟩ ((']' :: List.replicate (maxStringLength + 1) 'x').take n)).decoder
      ≠ .ground := by
  cases n with
  | zero => exact Decoder.noConfusion
  | succ n =>
    have hopen : Terminal.step ⟨s, .escape⟩ ']' = ⟨s, .controlString 0⟩ := rfl
    have hpayload : ∀ c ∈ List.replicate n 'x', c ∉ stringBreaks := by
      intro c hc
      rw [List.eq_of_mem_replicate hc]
      decide
    -- A string may hold one character more than its bound before it is given up.
    have hroom : 0 + (List.replicate n 'x').length ≤ maxStringLength := by
      rw [List.length_replicate]
      omega
    rw [List.take_succ_cons, List.take_replicate, Nat.min_eq_left (by omega), feed_cons, hopen,
      feed_payload s hpayload hroom]
    exact Decoder.noConfusion

end Terminal

namespace RegisterTerminal

open Escape

/-- **A lost terminator hides a bounded amount of output.**  Whatever was read before, a text of at
least 1026 final characters has a beginning of at most 1026 characters after which no sequence is in
progress.  It holds of a terminal in any state at all, and where registers keep what earlier
sequences left, in every state that a text leads to.  Fewer characters would not do: after an escape
there is a text of 1026 final characters no shorter beginning of which ends the sequence. -/
theorem ground_within {cs : List Char} (hcs : ∀ c ∈ cs, isFinal c = true)
    (hlen : 1026 ≤ cs.length) :
    (∀ t : Terminal, ∃ n ≤ 1026, (t.feed (cs.take n)).decoder = .ground)
      ∧ (∀ (s : Screen) (before : List Char), ∃ n ≤ 1026,
          (feed ⟨s, .start⟩ (before ++ cs.take n)).registers.phase = .ground)
      ∧ ∃ hidden : List Char, hidden.length = 1026 ∧ (∀ c ∈ hidden, isFinal c = true)
          ∧ ∀ (s : Screen) (n : Nat), n < 1026 →
            (Terminal.feed ⟨s, .ground⟩ ('\x1b' :: hidden.take n)).decoder ≠ .ground := by
  -- The bound is the longest delay that a state can have, and each character lowers it.
  have hends (t : Terminal) : ∃ n ≤ 1026, (t.feed (cs.take n)).decoder = .ground := by
    have hdelay : t.decoder.delay ≤ 1026 := t.decoder.delay_le
    obtain ⟨n, hn, hground⟩ := Terminal.exists_feed_take_ground hcs t (by omega)
    exact ⟨n, by omega, hground⟩
  refine ⟨hends, ?_, ']' :: List.replicate (maxStringLength + 1) 'x', ?_, ?_, ?_⟩
  · intro s before
    -- The registers stand for a decoder, whose delay bounds theirs.
    have hstart : (RegisterTerminal.mk s .start).registers.Cleared :=
      Registers.cleared_of_ne Phase.noConfusion
    obtain ⟨n, hn, hground⟩ := hends (feed ⟨s, .start⟩ before).terminal
    refine ⟨n, hn, ?_⟩
    rw [← Registers.isGround_decoder]
    rw [terminal_feed hstart, ← Terminal.feed_append, ← terminal_feed hstart] at hground
    exact congrArg Decoder.isGround hground
  · rw [List.length_cons, List.length_replicate]
    rfl
  · refine List.forall_mem_cons.2 ⟨by decide, fun c hc => ?_⟩
    rw [List.eq_of_mem_replicate hc]
    decide
  · intro s n hn
    exact Terminal.feed_take_ne_ground s hn

/-- A title that stops at the escape of its terminator, and letters after it. -/
theorem ground_within_title :
    let cs := List.replicate 1026 'P'
    (∀ c ∈ cs, isFinal c = true) ∧ 1026 ≤ cs.length
      ∧ (∃ n ≤ 1026,
          (((Terminal.start 10 3).feed "ab\x1b]0;title\x1b".toList).feed (cs.take n)).decoder
            = .ground)
      ∧ ∃ n ≤ 1026,
          (feed ⟨.blank 10 3, .start⟩ ("ab\x1b]0;title\x1b".toList ++ cs.take n)).registers.phase
            = .ground := by
  intro cs
  have hcs : ∀ c ∈ cs, isFinal c = true := by
    intro c hc
    rw [List.eq_of_mem_replicate hc]
    decide
  have hlen : 1026 ≤ cs.length := Nat.le_of_eq List.length_replicate.symm
  obtain ⟨hends, hregisters, -⟩ := ground_within hcs hlen
  exact ⟨hcs, hlen, hends _, hregisters _ _⟩

end RegisterTerminal

end ConsoleReplay
