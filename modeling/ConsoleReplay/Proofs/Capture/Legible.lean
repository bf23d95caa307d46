import ConsoleReplay.Capture.Clean

/-!
# What a scanner completes

A scanner counts the values of a control sequence and holds them at their bound, and
says so where something did not fit.  So the parameters of a sequence that fits are ones
that can be written: there is at least one, none of them is empty, and they are read in
full when they are read again.  Characters to show are never control characters.

## Main definitions

* `Readable params` — parameters that a control sequence has room for.
* `Token.IsLegible t` — a token that a scanner may complete.
* `Sequence.Fits seq`, `Scanner.Fits state` — what holds of a sequence in progress.

## Main results

* `Scanner.sound_step`, `Scanner.sound_run` — a character and a text keep to it.
* `isLegible_of_mem_tokens` — **the tokens of a text are legible**.
-/

namespace ConsoleReplay.Capture

/-- Parameters that a control sequence has room for, and so the ones that can be written and read
back. -/
structure Readable (params : List (List Nat)) : Prop where
  ne_nil : params ≠ []
  /-- No parameter is without a value. -/
  forall_ne_nil : ∀ group ∈ params, group ≠ []
  forall_le : ∀ group ∈ params, ∀ value ∈ group, value ≤ maxValue
  /-- The values of all parameters fit, sub-parameters counted. -/
  length_flatten_le : params.flatten.length ≤ maxValues

/-- A token that a scanner may complete.  Not every token is one: a glyph is no control, and the
parameters of a sequence have values and bounds. -/
def Token.IsLegible : Token → Prop
  | .glyph c => isControl c = false
  | .control _ => True
  | .sequence params _ overfull _ => overfull = false → Readable params

/-! ### Sequences in progress

What a scanner hands on has bounds: the number of values, the size of each, and the number of
intermediates.  They are kept while the sequence is read, so they hold of what is handed on. -/

namespace Sequence

/-- What holds of a sequence in progress: its values are counted and held at their bound, and no
parameter is without a value.  Each step of a scanner keeps to it. -/
structure Fits (seq : Sequence) : Prop where
  forall_ne_nil : ∀ group ∈ seq.params, group ≠ []
  params_le : ∀ group ∈ seq.params, ∀ value ∈ group, value ≤ maxValue
  group_le : ∀ value ∈ seq.group, value ≤ maxValue
  value_le : seq.value ≤ maxValue
  count_eq : seq.count = seq.params.flatten.length + seq.group.length
  count_le : seq.count ≤ maxValues

theorem fits_empty : empty.Fits where
  forall_ne_nil := List.forall_mem_nil _
  params_le := List.forall_mem_nil _
  group_le := List.forall_mem_nil _
  value_le := Nat.zero_le _
  count_eq := rfl
  count_le := Nat.zero_le _

/-- There is room for another value as long as the sequence is not full. -/
theorem count_lt_of_not_full {seq : Sequence} (h : seq.count ≤ maxValues)
    (hfull : ¬ seq.isFull = true) : seq.count < maxValues := by
  rw [isFull, beq_iff_eq] at hfull
  omega

namespace Fits

variable {seq : Sequence}

theorem digit (h : seq.Fits) (c : Char) : (seq.digit c).Fits := by
  rw [Sequence.digit]
  split
  · exact { h with }
  · exact { h with value_le := Nat.min_le_left .. }

theorem collect (h : seq.Fits) (c : Char) : (seq.collect c).Fits := by
  rw [Sequence.collect]
  split <;> exact { h with }

theorem endValue (h : seq.Fits) : seq.endValue.Fits := by
  rw [Sequence.endValue]
  split
  · exact { h with }
  · next hfull =>
    refine { h with group_le := ?_, value_le := Nat.zero_le _, count_eq := ?_, count_le := ?_ }
    · exact List.forall_mem_append.2 ⟨h.group_le, List.forall_mem_singleton.2 h.value_le⟩
    · dsimp only
      rw [h.count_eq, List.length_append, List.length_singleton, Nat.add_assoc]
    · exact count_lt_of_not_full h.count_le hfull

theorem endParam (h : seq.Fits) : seq.endParam.Fits := by
  rw [Sequence.endParam]
  split
  · exact { h with }
  · next hfull =>
    refine ⟨?_, ?_, List.forall_mem_nil _, Nat.zero_le _, ?_, ?_⟩
    · refine List.forall_mem_append.2 ⟨h.forall_ne_nil, List.forall_mem_singleton.2 ?_⟩
      exact List.append_ne_nil_of_right_ne_nil _ (List.cons_ne_nil _ _)
    · refine List.forall_mem_append.2 ⟨h.params_le, List.forall_mem_singleton.2 ?_⟩
      exact List.forall_mem_append.2 ⟨h.group_le, List.forall_mem_singleton.2 h.value_le⟩
    · simp only [List.flatten_append, List.flatten_singleton, List.length_append,
        List.length_singleton, List.length_nil, h.count_eq]
      omega
    · exact count_lt_of_not_full h.count_le hfull

/-- A final character completes a legible token.  In a full sequence the last value did
not fit, and the token says so. -/
theorem isLegible_finish (h : seq.Fits) (final : Char) : (seq.finish final).IsLegible := by
  rw [Sequence.finish]
  intro hoverfull
  by_cases hfull : seq.isFull = true
  · rw [Sequence.endParam, if_pos hfull] at hoverfull
    exact absurd hoverfull.symm Bool.false_ne_true
  · have hend := h.endParam
    rw [Sequence.endParam, if_neg hfull] at hend ⊢
    simp only [List.isEmpty_nil, if_true, List.append_nil]
    refine ⟨?_, hend.forall_ne_nil, hend.params_le, ?_⟩
    · exact List.append_ne_nil_of_right_ne_nil _ (List.cons_ne_nil _ _)
    · exact Nat.le_trans (Nat.le_of_eq hend.count_eq.symm) hend.count_le

end Fits

end Sequence

/-! ### The scanner -/

theorem isLegible_control (c : Char) : (Token.control c).IsLegible := trivial

theorem isLegible_plainToken (c : Char) : (plainToken c).IsLegible := by
  rw [plainToken]
  split
  · trivial
  · next h => exact Bool.eq_false_iff.2 h

theorem isLegible_of_mem_afterTerminator {bytes : List UInt8} :
    ∀ t ∈ afterTerminator bytes, t.IsLegible := by
  refine List.forall_mem_map.2 fun b _ => ?_
  split
  · trivial
  · exact (by decide : isControl '\ufffd' = false)

namespace Scanner

/-- What holds of a scanner: what it has read of a control sequence fits. -/
def Fits : Scanner → Prop
  | .csiParam seq | .csiIntermediate seq => seq.Fits
  | _ => True

/-- An outcome of a step or a run in good order. -/
def Sound (outcome : Scanner × List Token) : Prop :=
  outcome.1.Fits ∧ ∀ t ∈ outcome.2, t.IsLegible

theorem Fits.sound {state : Scanner} (h : state.Fits) : Sound (state, []) :=
  ⟨h, List.forall_mem_nil _⟩

theorem Fits.sound_singleton {state : Scanner} {t : Token} (h : state.Fits) (ht : t.IsLegible) :
    Sound (state, [t]) :=
  ⟨h, List.forall_mem_singleton.2 ht⟩

/-- A control ends or begins a sequence, or is left to the state. -/
theorem sound_interrupt {outcome : Scanner × List Token} (h : Sound outcome) (c : Char) :
    Sound ((interrupt? c).getD outcome) := by
  rw [interrupt?]
  repeat' split
  · exact Fits.sound trivial
  · exact Fits.sound_singleton trivial trivial
  · exact h

theorem sound_act {state : Scanner} (h : state.Fits) (c : Char) : Sound (act state c) :=
  sound_interrupt (h.sound_singleton (isLegible_control c)) c

theorem sound_skip {state : Scanner} (h : state.Fits) (c : Char) : Sound (skip state c) :=
  sound_interrupt h.sound c

theorem fits_afterEscape (c : Char) : (afterEscape c).Fits := by
  rw [afterEscape]
  repeat' split
  all_goals trivial

theorem sound_inParams {state other : Scanner} {seq : Sequence} (hstate : state.Fits)
    (hseq : seq.Fits) (hother : other.Fits) (c : Char) : Sound (inParams state seq other c) := by
  rw [inParams]
  repeat' split
  · exact sound_act hstate c
  · exact Fits.sound (hseq.collect c)
  · exact Fits.sound (hseq.digit c)
  · exact Fits.sound hseq.endValue
  · exact Fits.sound hseq.endParam
  · exact hother.sound
  · exact Fits.sound_singleton trivial (hseq.isLegible_finish c)
  · exact hstate.sound

theorem sound_inDeviceParams {state other : Scanner} (hstate : state.Fits) (hother : other.Fits)
    (c : Char) : Sound (inDeviceParams state other c) := by
  rw [inDeviceParams]
  repeat' split
  · exact sound_skip hstate c
  · exact Fits.sound trivial
  · exact Fits.sound trivial
  · exact hother.sound
  · exact Fits.sound trivial
  · exact hstate.sound

/-- A character in a control sequence that takes intermediates now. -/
theorem sound_csiIntermediate {seq : Sequence} (h : seq.Fits) (c : Char) :
    Sound (step (.csiIntermediate seq) c) := by
  have hstate : Fits (.csiIntermediate seq) := h
  rw [step]
  repeat' split
  · exact sound_act hstate c
  · exact Fits.sound (h.collect c)
  · exact Fits.sound_singleton trivial (h.isLegible_finish c)
  · exact Fits.sound trivial
  · exact hstate.sound

/-- A character in a device string whose parameters are read. -/
theorem sound_deviceIntermediate (c : Char) : Sound (step .deviceIntermediate c) := by
  have hstate : Fits .deviceIntermediate := trivial
  rw [step]
  repeat' split
  · exact sound_skip hstate c
  · exact Fits.sound trivial
  · exact Fits.sound trivial
  · exact hstate.sound

/-- A character keeps a scanner in good order, and completes legible tokens.  A token is completed
in four places only: outside sequences, at the end of a control sequence, at a control character
that acts inside a sequence, and where the terminator of a device string lies inside a character. -/
theorem sound_step {state : Scanner} (h : state.Fits) (c : Char) : Sound (state.step c) := by
  cases state with
  | ground =>
    rw [step]
    split
    · exact Fits.sound trivial
    · exact Fits.sound_singleton trivial (isLegible_plainToken c)
  | escape =>
    rw [step]
    split
    · exact sound_act h c
    · exact (fits_afterEscape c).sound
  | escapeIntermediate =>
    rw [step]
    repeat' split
    · exact sound_act h c
    · exact Fits.sound trivial
    · exact h.sound
  -- Only at its entry a control sequence takes a marker, and nothing has been read by then.
  | csiEntry =>
    have hmarked : Fits (.csiParam (Sequence.empty.collect c)) := Sequence.fits_empty.collect c
    exact sound_inParams h Sequence.fits_empty hmarked c
  | csiParam seq =>
    have hignore : Fits .csiIgnore := trivial
    exact sound_inParams h h hignore c
  | csiIntermediate seq => exact sound_csiIntermediate h c
  | csiIgnore =>
    rw [step]
    repeat' split
    · exact sound_act h c
    · exact Fits.sound trivial
    · exact h.sound
  | deviceEntry =>
    have hparam : Fits .deviceParam := trivial
    exact sound_inDeviceParams h hparam c
  | deviceParam =>
    have hignore : Fits .deviceIgnore := trivial
    exact sound_inDeviceParams h hignore c
  | deviceIntermediate => exact sound_deviceIntermediate c
  | devicePayload =>
    rw [step]
    split
    · -- The bytes behind the terminator are controls or are shown as replacement characters.
      exact ⟨trivial, isLegible_of_mem_afterTerminator⟩
    · exact sound_skip h c
  | command =>
    rw [step]
    split
    · exact Fits.sound trivial
    · exact sound_skip h c
  -- In these states no token is completed but by a character that interrupts the sequence.
  | deviceIgnore => exact sound_skip h c
  | string => exact sound_skip h c

/-- A text keeps a scanner in good order, and completes legible tokens. -/
theorem sound_run {state : Scanner} (h : state.Fits) (cs : List Char) : Sound (state.run cs) := by
  induction cs generalizing state with
  | nil => exact h.sound
  | cons c cs ih =>
    rw [run_cons]
    obtain ⟨hfits, hnew⟩ := sound_step h c
    refine ⟨(ih hfits).1, List.forall_mem_append.2 ⟨(ih hfits).2, fun t ht => ?_⟩⟩
    exact hnew t (List.mem_reverse.1 ht)

end Scanner

/-- **The tokens of a text are legible.** -/
theorem isLegible_of_mem_tokens {cs : List Char} : ∀ t ∈ tokens cs, t.IsLegible := by
  intro t ht
  have hground : Scanner.ground.Fits := trivial
  exact (Scanner.sound_run hground cs).2 t (List.mem_reverse.1 ht)

end ConsoleReplay.Capture
