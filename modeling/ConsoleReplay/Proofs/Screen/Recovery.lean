import ConsoleReplay.Proofs.Screen.Escape

/-!
# Coming back from a sequence

Output that stops inside a sequence must not hide what comes after it.  A line break acts
on the screen whatever sequence is in progress, and an escape begins a new sequence, which
does what it would do on its own.

There is one state in which neither holds.  After an escape inside a control string the
decoder expects the rest of the string's terminator, and a control character that comes
instead is taken for the second character of a sequence of two: a line break there is lost,
and so is an escape, after which the sequence that it should have begun is written on the
screen.

## Main results

* `Decoder.step_eq_controlStringEscape_iff` — when the decoder gets into that state.
* `Terminal.step_of_controlStringEscape` — in that state a control character is lost.
* `Terminal.break_and_restart` — **line breaks and escapes are honoured** in every other state,
  and in none after half a terminator.
* `Terminal.break_and_restart_fails` — output for which it shows.
-/

namespace ConsoleReplay

namespace Decoder

/-- A line break acts, whatever is in progress. -/
theorem step_break {d : Decoder} (h : d ≠ .controlStringEscape) :
    (d.step '\r').2 = some .carriageReturn ∧ (d.step '\n').2 = some .lineFeed := by
  cases d with
  | controlString length => exact ⟨rfl, rfl⟩
  | controlStringEscape => exact absurd rfl h
  | ground => exact ⟨rfl, rfl⟩
  | escape => exact ⟨rfl, rfl⟩
  | escapeIntermediate => exact ⟨rfl, rfl⟩
  | csi seq => exact ⟨rfl, rfl⟩

/-- What follows an escape never ends up after an escape inside a control string. -/
theorem afterEscape_ne_controlStringEscape (c : Char) : afterEscape c ≠ .controlStringEscape := by
  rw [afterEscape]
  repeat' split
  all_goals exact Decoder.noConfusion

theorem control_eq_controlStringEscape {d : Decoder} {c : Char}
    (h : (d.control c).1 = .controlStringEscape) : d = .controlStringEscape := by
  rw [control] at h
  repeat' split at h
  · cases h
  · cases h
  · exact h

theorem inCsi_ne_controlStringEscape (seq : Csi) (c : Char) :
    (inCsi seq c).1 ≠ .controlStringEscape := by
  rw [inCsi]
  repeat' split
  all_goals exact Decoder.noConfusion

/-- The half of a terminator is an escape inside a control string, and nothing else.  So this is the
only way into the state in which controls are lost. -/
theorem step_eq_controlStringEscape_iff {d : Decoder} {c : Char} :
    (d.step c).1 = .controlStringEscape ↔ c = '\x1b' ∧ ∃ length, d = .controlString length := by
  constructor
  · intro h
    cases d with
    | controlString length =>
      rw [step, inString] at h
      repeat' split at h
      -- Inside a string every other character goes on with it or ends it.
      all_goals try cases h
      next hc => exact ⟨hc, length, rfl⟩
    | controlStringEscape =>
      rw [step] at h
      dsimp only at h
      split at h
      · cases h
      · exact absurd h (afterEscape_ne_controlStringEscape c)
    | ground =>
      -- The other states lead to it only through a control, and none of those does.
      rw [step] at h
      split at h
      · cases control_eq_controlStringEscape h
      · cases h
    | escape =>
      rw [step] at h
      split at h
      · cases control_eq_controlStringEscape h
      · exact absurd h (afterEscape_ne_controlStringEscape c)
    | escapeIntermediate =>
      rw [step] at h
      split at h
      · cases control_eq_controlStringEscape h
      · dsimp only at h
        split at h <;> cases h
    | csi seq =>
      rw [step] at h
      split at h
      · cases control_eq_controlStringEscape h
      · exact absurd h (inCsi_ne_controlStringEscape seq c)
  · rintro ⟨rfl, length, rfl⟩
    rfl

end Decoder

namespace Terminal

open Escape

/-- After an escape inside a control string a control character is lost: it ends the
sequence and does nothing else. -/
theorem step_of_controlStringEscape {t : Terminal} (h : t.decoder = .controlStringEscape)
    {c : Char} (hc : c.toNat < 0x20) : t.step c = t.reset := by
  -- A control character is none of those that open something after an escape.
  have hafter : Decoder.afterEscape c = .ground := by
    have hbracket : ¬ c = '[' := by
      rintro rfl
      exact absurd hc (by decide)
    have hopener : c ∉ openers := by
      intro hmem
      have hopens := le_toNat_of_mem_openers hmem
      omega
    have hintermediate : ¬ Decoder.isIntermediate c = true := by
      rw [Decoder.isIntermediate_iff]
      omega
    rw [Decoder.afterEscape, if_neg hbracket, if_neg (mt Decoder.opens_iff.1 hopener),
      if_neg hintermediate]
  have hstep : t.decoder.step c = (.ground, none) := by
    rw [h, Decoder.step, hafter, ite_self]
  exact step_of_silent hstep

/-- Where no terminator is half received a control sequence does to the screen what its parts ask,
and an escape begins a sequence that is read as if none were in progress. -/
theorem honours_of_ne {t : Terminal} (h : t.decoder ≠ .controlStringEscape) :
    (t.step '\r').screen = t.screen.carriageReturn
      ∧ (t.step '\n').screen = t.screen.lineFeed
      ∧ (∀ c cs, 0x20 ≤ c.toNat → t.feed ('\x1b' :: c :: cs) = t.reset.feed ('\x1b' :: c :: cs))
      ∧ ∀ body final, (∀ c ∈ body, isBody c = true) → isFinal final = true →
          t.feed (control body final).chars
            = ⟨((Csi.ofBody body).complete final).elim t.screen t.screen.perform, .ground⟩ := by
  obtain ⟨hreturn, hfeed⟩ := Decoder.step_break h
  refine ⟨?_, ?_, ?_, ?_⟩
  · rw [screen_step, hreturn]
    rfl
  · rw [screen_step, hfeed]
    rfl
  · intro c cs hc
    -- Both escapes lead to the same state, and what was in progress is forgotten there.
    have hground : t.reset.decoder ≠ .controlStringEscape := Decoder.noConfusion
    rw [feed_escape_cons h hc, feed_escape_cons hground hc]
    rfl
  · intro body final hbody hfinal
    exact feed_control h hbody hfinal

/-- **A line break and an escape are honoured**, in every state but that of a terminator
half received.  A carriage return and a line feed act on the screen as they do outside
sequences.  An escape begins a sequence that is read as if none were in progress, and a
control sequence does to the screen what its parts ask: it moves, erases or changes the
pen, or leaves the screen alone, and none of its characters is written.

With a terminator half received every control character, line breaks and escapes included, is
lost: it brings the decoder back to the ground and leaves the screen as it is.  An escape inside
a control string is what leads there, and nothing else does. -/
theorem break_and_restart (t : Terminal) :
    (t.decoder ≠ .controlStringEscape →
      (t.step '\r').screen = t.screen.carriageReturn
        ∧ (t.step '\n').screen = t.screen.lineFeed
        ∧ (∀ c cs, 0x20 ≤ c.toNat → t.feed ('\x1b' :: c :: cs) = t.reset.feed ('\x1b' :: c :: cs))
        ∧ ∀ body final, (∀ c ∈ body, isBody c = true) → isFinal final = true →
            t.feed (control body final).chars
              = ⟨((Csi.ofBody body).complete final).elim t.screen t.screen.perform, .ground⟩)
      ∧ (t.decoder = .controlStringEscape → ∀ c : Char, c.toNat < 0x20 → t.step c = t.reset)
      ∧ ∀ c : Char, (t.step c).decoder = .controlStringEscape
          ↔ c = '\x1b' ∧ ∃ length, t.decoder = .controlString length :=
  ⟨honours_of_ne, fun h _ hc => step_of_controlStringEscape h hc,
    fun _ => Decoder.step_eq_controlStringEscape_iff⟩

/-- A title without its end, a line break, and a position: the state is that of a control
string, and the text goes on where the position says. -/
theorem break_and_restart_in_title :
    let t := (start 10 3).feed "ab\x1b]0;title".toList
    t.decoder ≠ .controlStringEscape
      ∧ (t.step '\r').screen = t.screen.carriageReturn
      ∧ (t.step '\n').screen = t.screen.lineFeed
      ∧ t.feed "\x1b[2;3H".toList = t.reset.feed "\x1b[2;3H".toList
      ∧ t.feed (control ['2', ';', '3'] 'H').chars = ⟨t.screen.moveTo 2 1, .ground⟩ := by
  intro t
  have hstring : t.decoder ≠ .controlStringEscape := by decide +kernel
  obtain ⟨hreturn, hfeed, hescape, hsequence⟩ := (break_and_restart t).1 hstring
  have hposition := hsequence ['2', ';', '3'] 'H' (List.all_eq_true.1 rfl) rfl
  exact ⟨hstring, hreturn, hfeed, hescape '[' _ (by decide), hposition⟩

/-- A title broken off at the escape of its terminator takes the line break after it
along, and lets the sequence after it be written out. -/
theorem break_and_restart_fails :
    let t := (start 10 3).feed "ab\x1b]0;title\x1b".toList
    (t.step '\r').screen ≠ t.screen.carriageReturn
      ∧ (t.step '\n').screen ≠ t.screen.lineFeed
      ∧ (t.feed (control ['7'] 'm').chars).screen.text = "ab[7m\n\n"
      ∧ (t.reset.feed (control ['7'] 'm').chars).screen.text = "ab\n\n" := by
  decide +kernel

end Terminal

end ConsoleReplay
