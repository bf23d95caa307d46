import ConsoleReplay.Proofs.Screen.Registers

/-!
# Sequences that a screen does not know

A sequence that asks for nothing a screen can do must leave no trace: not on the screen,
and not in what is read after it.

## Main definitions

* `Escape.IsInert e` — a sequence of which a screen knows nothing.

## Main results

* `Terminal.feed_of_isInert` — an inert sequence leaves a terminal as it is.
* `RegisterTerminal.inert_sequence_unseen` — **output with an inert sequence in it** does
  what it does without the sequence, also where registers keep what the sequence left.
-/

namespace ConsoleReplay

namespace Escape

/-- A sequence of which a screen knows nothing: it is read to its end, and then nothing is done.
The kinds are those of the decoder, each with the condition under which nothing comes of it. -/
inductive IsInert : Escape → Prop
  /-- A control sequence whose body holds more than parameters. -/
  | marked {body : List Char} {final : Char} (hbody : ∀ c ∈ body, isBody c = true)
      (hmark : ∃ c ∈ body, isParam c = false) (hfinal : isFinal final = true) :
      IsInert (.control body final)
  /-- A control sequence for an operation that a screen does not know. -/
  | unknown {body : List Char} {final : Char} (hbody : ∀ c ∈ body, isParam c = true)
      (hfinal : isFinal final = true) (hunknown : final ∉ Screen.knownFinals) :
      IsInert (.control body final)
  | designation {intermediates : List Char} {final : Char} (hne : intermediates ≠ [])
      (hmem : ∀ c ∈ intermediates, Decoder.isIntermediate c = true)
      (hfinal : isShortFinal final = true) :
      IsInert (.designation intermediates final)
  | short {final : Char} (hfinal : isShortFinal final = true) (hbracket : final ≠ '[')
      (hopener : final ∉ openers) :
      IsInert (.short final)
  /-- A control string that is not too long and ends without acting. -/
  | string {opener : Char} {payload ending : List Char} (hopener : opener ∈ openers)
      (hmem : ∀ c ∈ payload, c ∉ stringBreaks) (hlen : payload.length ≤ maxStringLength)
      (hending : ending ∈ endings) :
      IsInert (.string opener payload ending)

end Escape

namespace Csi

open Escape

/-- Something was read that keeps the sequence from acting: a question mark in front, or a character
that no known sequence has. -/
def isMarked (seq : Csi) : Bool := seq.isPrivate || seq.isUnsupported

@[simp] theorem isMarked_push (seq : Csi) (n : Nat) : (seq.push n).isMarked = seq.isMarked := by
  rw [push]
  split <;> rfl

/-- A mark stays. -/
theorem isMarked_read {seq : Csi} (h : seq.isMarked = true) (c : Char) :
    (seq.read c).isMarked = true := by
  rw [read]
  split
  · exact h
  split
  · rw [separate, isMarked_push]
    exact h
  split
  · rfl
  · exact Bool.or_true _

/-- What is no parameter marks the sequence. -/
theorem isMarked_read_of_not_isParam (seq : Csi) {c : Char} (h : isParam c = false) :
    (seq.read c).isMarked = true := by
  obtain ⟨hdigit, hsemicolon⟩ := (Bool.or_eq_false_iff).1 h
  have hsemicolon' : ¬ c = ';' := fun hc => by simp [hc] at hsemicolon
  rw [read, if_neg (Bool.eq_false_iff.1 hdigit), if_neg hsemicolon']
  split
  · rfl
  · exact Bool.or_true _

theorem isMarked_foldl_read {seq : Csi} {body : List Char}
    (h : seq.isMarked = true ∨ ∃ c ∈ body, isParam c = false) :
    (body.foldl read seq).isMarked = true := by
  induction body generalizing seq with
  | nil =>
    rcases h with h | ⟨c, hc, -⟩
    · exact h
    · exact absurd hc (List.not_mem_nil)
  | cons b body ih =>
    -- A mark stays, so it does not matter where in the body it stands.
    refine ih ?_
    rcases h with h | ⟨c, hc, hparam⟩
    · exact .inl (isMarked_read h b)
    · rcases List.mem_cons.1 hc with rfl | hc
      · exact .inl (isMarked_read_of_not_isParam seq hparam)
      · exact .inr ⟨c, hc, hparam⟩

theorem complete_of_isMarked {seq : Csi} (h : seq.isMarked = true) (final : Char) :
    seq.complete final = none := if_pos h

end Csi

namespace Terminal

open Escape

/-- An inert sequence leaves a terminal as it is, with its decoder: that one keeps nothing of a
sequence that is over. -/
theorem feed_of_isInert {t : Terminal} (h : t.decoder.isGround = true) {e : Escape}
    (he : e.IsInert) : t.feed e.chars = t := by
  obtain ⟨screen, decoder⟩ := t
  have hground : decoder = .ground := by
    cases decoder with
    | ground => rfl
    | _ => exact absurd h Bool.false_ne_true
  subst hground
  have hne : (Terminal.mk screen .ground).decoder ≠ .controlStringEscape := Decoder.noConfusion
  cases he with
  | @marked body final hbody hmark hfinal =>
    -- A marked sequence is not completed, whatever its final character is.
    have hmarked : (Csi.ofBody body).isMarked = true := Csi.isMarked_foldl_read (.inr hmark)
    rw [feed_control hne hbody hfinal, Csi.complete_of_isMarked hmarked]
    rfl
  | @unknown body final hbody hfinal hunknown =>
    have hbody' : ∀ c ∈ body, isBody c = true := fun c hc => isBody_of_isParam (hbody c hc)
    rw [feed_control hne hbody' hfinal, Csi.complete]
    -- With parameters alone the sequence asks for an operation, but not for one of the screen's.
    split
    · rfl
    · have hnone := screen.sequence?_of_notMem hunknown (Csi.ofBody body).allParams
      rw [Option.elim_some, Screen.perform, hnone]
      rfl
  | designation hnil hmem hfinal => exact feed_designation hne hnil hmem hfinal
  | short hfinal hbracket hopener => exact feed_short hne hfinal hbracket hopener
  | string hopener hmem hlen hending => exact feed_string hne hopener hmem hlen hending

end Terminal

namespace RegisterTerminal

open Escape

/-- **Output with an inert sequence in it does what it does without the sequence.**  The
sequence may stand wherever no other is in progress.  The screens at the end are equal,
as a whole, and so is whether a sequence is in progress there.  It holds of the terminal
that forgets what it has read, and of the one whose registers may keep it. -/
theorem inert_sequence_unseen {t : RegisterTerminal} (ht : t.registers.Cleared)
    {before : List Char} (hground : (t.feed before).registers.phase = .ground) {e : Escape}
    (he : e.IsInert) (after : List Char) :
    (t.feed (before ++ e.chars ++ after)).screen = (t.feed (before ++ after)).screen
      ∧ ((t.feed (before ++ e.chars ++ after)).registers.phase = .ground
          ↔ (t.feed (before ++ after)).registers.phase = .ground)
      ∧ t.terminal.feed (before ++ e.chars ++ after) = t.terminal.feed (before ++ after) := by
  have hforgets : t.terminal.feed (before ++ e.chars ++ after)
      = t.terminal.feed (before ++ after) := by
    have hdecoder : (t.terminal.feed before).decoder.isGround = true := by
      rw [← terminal_feed ht]
      exact (Registers.isGround_decoder _).2 hground
    rw [Terminal.feed_append, Terminal.feed_append, Terminal.feed_of_isInert hdecoder he,
      ← Terminal.feed_append]
  have hkeeps : (t.feed (before ++ e.chars ++ after)).terminal
      = (t.feed (before ++ after)).terminal := by
    rw [terminal_feed ht, terminal_feed ht, hforgets]
  refine ⟨?_, ?_, hforgets⟩
  · exact congrArg Terminal.screen hkeeps
  · have hdecoders : (t.feed (before ++ e.chars ++ after)).registers.decoder
        = (t.feed (before ++ after)).registers.decoder := congrArg Terminal.decoder hkeeps
    rw [← Registers.isGround_decoder, hdecoders, Registers.isGround_decoder]

/-- A private mode between a title and a style, with leftovers of older sequences in the
registers: the string before it ended with its length still there. -/
theorem cursor_mode_unseen :
    let t : RegisterTerminal := ⟨.blank 10 3, .ground, ⟨[7], some 3, true, false⟩, 700⟩
    (t.feed "ab\x1b]0;title\x07".toList).registers.stringLength = 7
      ∧ (t.feed "ab\x1b]0;title\x07\x1b[?25h\x1b[31mc".toList).screen
        = (t.feed "ab\x1b]0;title\x07\x1b[31mc".toList).screen := by
  intro t
  have hcleared : t.registers.Cleared := Registers.cleared_of_ne Phase.noConfusion
  have hground : (t.feed "ab\x1b]0;title\x07".toList).registers.phase = .ground := by
    decide +kernel
  have hmode : (Escape.control ['?', '2', '5'] 'h').IsInert :=
    .marked (List.all_eq_true.1 rfl) ⟨'?', by decide, rfl⟩ rfl
  refine ⟨by decide +kernel, ?_⟩
  exact (inert_sequence_unseen hcleared hground hmode "\x1b[31mc".toList).1

end RegisterTerminal

end ConsoleReplay
