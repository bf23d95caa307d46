import ConsoleReplay.Capture.PlainText
import ConsoleReplay.Proofs.Screen.Escape

/-!
# Escape sequences in captured text

The scanner of captured text goes through more states than the decoder of a screen does:
it tells the parameters of a control sequence from its intermediates, and the head of a
device string from its payload.  Whatever it goes through, a complete escape sequence takes
it back to the ground, and at most a control sequence is left of it, which a reader does
not see.

## Main definitions

* `Token.isSequence t` — the token is a control sequence.
* `Scanner.Silent state cs next` — a text takes the scanner from a state to another, and
  nothing is left of it but control sequences.
* `Scanner.inControl`, `Scanner.inString` — the states inside a control sequence, and those
  inside a control string.

## Main results

* `Scanner.silent_control`, `Scanner.silent_designation`, `Scanner.silent_short`,
  `Scanner.silent_string`, `Scanner.silent_command` — every kind of escape sequence is silent.
* `LineEditor.foldl_apply_of_silent` — what is silent does not show in plain text.
-/

namespace ConsoleReplay.Capture

open Escape (isBody isShortFinal isBody_iff isFinal_iff isShortFinal_iff)

/-- Whether a token is a control sequence. -/
def Token.isSequence : Token → Bool
  | .sequence .. => true
  | _ => false

/-- A printable character of ASCII. -/
def isPrintable (c : Char) : Bool := 0x20 ≤ c.toNat && c.toNat ≤ 0x7e

theorem isPrintable_iff {c : Char} : isPrintable c = true ↔ 0x20 ≤ c.toNat ∧ c.toNat ≤ 0x7e :=
  Text.within_iff

theorem isIntermediate_iff {c : Char} :
    isIntermediate c = true ↔ 0x20 ≤ c.toNat ∧ c.toNat ≤ 0x2f := Text.within_iff

theorem isPrivateMark_iff {c : Char} :
    isPrivateMark c = true ↔ 0x3c ≤ c.toNat ∧ c.toNat ≤ 0x3f := Text.within_iff

theorem not_isLowControl {c : Char} (h : 0x20 ≤ c.toNat) : ¬ isLowControl c = true := by
  rw [isLowControl, decide_eq_true_eq]
  exact Nat.not_lt.2 h

/-- A character of ASCII is one byte, and no byte of it ends a device string. -/
theorem splitTerminator?_of_lt {c : Char} (h : c.toNat < 0x80) : splitTerminator? c = none := by
  have hval : c.val ≤ 127 := UInt32.le_iff_toNat_le.2 (Nat.le_of_lt_succ h)
  have hbyte : String.utf8EncodeChar c = [c.val.toUInt8] :=
    String.utf8EncodeChar_eq_singleton (Char.utf8Size_eq_one_iff.2 hval)
  have hne : (c.val.toUInt8 != stringTerminator) = true := by
    rw [bne_iff_ne]
    intro heq
    -- The byte is the code of the character, which lies below the terminator.
    have hcode : c.toNat % 256 = 0x9c := congrArg UInt8.toNat heq
    omega
  have hdrop : [c.val.toUInt8].dropWhile (· != stringTerminator) = [] :=
    List.dropWhile_cons_of_pos hne
  rw [splitTerminator?, hbyte, hdrop]

namespace Scanner

/-- A text takes the scanner from a state to another, and the tokens that it completes are
control sequences. -/
def Silent (state : Scanner) (cs : List Char) (next : Scanner) : Prop :=
  (state.run cs).1 = next ∧ ∀ t ∈ (state.run cs).2, t.isSequence = true

theorem silent_nil (state : Scanner) : Silent state [] state := ⟨rfl, List.forall_mem_nil _⟩

theorem Silent.append {state mid next : Scanner} {cs ds : List Char} (hcs : Silent state cs mid)
    (hds : Silent mid ds next) : Silent state (cs ++ ds) next := by
  obtain ⟨rfl, hcs⟩ := hcs
  obtain ⟨hnext, hds⟩ := hds
  rw [Silent, run_append]
  exact ⟨hnext, List.forall_mem_append.2 ⟨hds, hcs⟩⟩

theorem silent_singleton {state next : Scanner} {c : Char} (h : state.step c = (next, [])) :
    Silent state [c] next := by
  rw [Silent, run_cons, h]
  exact ⟨rfl, List.forall_mem_nil _⟩

/-- Characters each of which keeps the scanner in a kind of state do so together.  The kind of
state is a parameter: the body of a control sequence and the payload of a control string both have
one. -/
theorem exists_silent {kind : Scanner → Prop} {cs : List Char}
    (hstep : ∀ state, kind state → ∀ c ∈ cs, ∃ next, kind next ∧ state.step c = (next, []))
    {state : Scanner} (hstate : kind state) : ∃ next, kind next ∧ Silent state cs next := by
  -- The states may differ from character to character; the kind is what stays.
  induction cs generalizing state with
  | nil => exact ⟨state, hstate, silent_nil state⟩
  | cons c cs ih =>
    obtain ⟨mid, hmid, hfirst⟩ := hstep state hstate c List.mem_cons_self
    have hrest : ∀ state, kind state → ∀ d ∈ cs, ∃ next, kind next ∧ state.step d = (next, []) :=
      fun state hstate d hd => hstep state hstate d (List.mem_cons_of_mem c hd)
    obtain ⟨next, hnext, hsilent⟩ := ih hrest hmid
    exact ⟨next, hnext, (silent_singleton hfirst).append hsilent⟩

/-! ### The beginning of a sequence -/

/-- An escape and a printable character begin a sequence, or are all of it. -/
theorem silent_escape {c : Char} (h : 0x20 ≤ c.toNat) :
    Silent .ground ['\x1b', c] (afterEscape c) := by
  have hlow : ¬ isLowControl c = true := not_isLowControl h
  have hafter : Scanner.step .escape c = (afterEscape c, []) := by rw [step, if_neg hlow]
  have hescape : Scanner.step .ground '\x1b' = (.escape, []) := rfl
  exact (silent_singleton hescape).append (silent_singleton hafter)

theorem afterEscape_of_isIntermediate {c : Char} (h : isIntermediate c = true) :
    afterEscape c = .escapeIntermediate := if_pos h

/-- A final character after an escape ends the sequence, unless it begins a longer one. -/
theorem afterEscape_of_isShortFinal {c : Char} (h : isShortFinal c = true) (hbracket : c ≠ '[')
    (hopener : c ∉ Escape.openers) : afterEscape c = .ground := by
  have hcode := isShortFinal_iff.1 h
  simp only [Escape.openers, List.mem_cons, List.not_mem_nil, or_false, not_or] at hopener
  obtain ⟨hcommand, hdevice, hstart, hprivacy, hprogram⟩ := hopener
  have hintermediate : ¬ isIntermediate c = true := by
    rw [isIntermediate_iff]
    omega
  have hstring : ¬ (c = 'X' || c = '^' || c = '_') = true := by simp [hstart, hprivacy, hprogram]
  have hfinal : (0x30 ≤ c.toNat && c.toNat ≤ 0x7e) = true := h
  rw [afterEscape, if_neg hintermediate, if_neg hbracket, if_neg hdevice, if_neg hcommand,
    if_neg hstring, if_pos hfinal]

/-! ### Control sequences -/

/-- Whether a control sequence is in progress. -/
def inControl : Scanner → Bool
  | .csiEntry | .csiParam _ | .csiIntermediate _ | .csiIgnore => true
  | _ => false

/-- A character of the body belongs to the parameters, to the intermediates, or is a private
mark. -/
theorem inParams_of_isBody {state other : Scanner} (hother : other.inControl = true)
    (seq : Sequence) {c : Char} (h : isBody c = true) :
    ∃ next, next.inControl = true ∧ inParams state seq other c = (next, []) := by
  have hcode := isBody_iff.1 h
  have hlow : ¬ isLowControl c = true := not_isLowControl (by omega)
  rw [inParams, if_neg hlow]
  split
  · exact ⟨_, rfl, rfl⟩
  split
  · exact ⟨_, rfl, rfl⟩
  split
  · exact ⟨_, rfl, rfl⟩
  split
  · exact ⟨_, rfl, rfl⟩
  next hintermediate hdigit hcolon hsemicolon =>
    -- What the four tests leave of a body are the private marks.
    have hmark : isPrivateMark c = true := by
      rw [isIntermediate_iff] at hintermediate
      rw [Text.isDigit_iff] at hdigit
      have hcolon' : c.toNat ≠ 0x3a := fun hc => hcolon (Char.toNat_inj.1 hc)
      have hsemicolon' : c.toNat ≠ 0x3b := fun hc => hsemicolon (Char.toNat_inj.1 hc)
      rw [isPrivateMark_iff]
      omega
    rw [if_pos hmark]
    exact ⟨other, hother, rfl⟩

/-- The body of a control sequence goes on. -/
theorem step_of_isBody {state : Scanner} (hstate : state.inControl = true) {c : Char}
    (h : isBody c = true) : ∃ next, next.inControl = true ∧ state.step c = (next, []) := by
  have hcode := isBody_iff.1 h
  have hlow : ¬ isLowControl c = true := not_isLowControl (by omega)
  have hfinal : ¬ isFinal c = true := by
    rw [isFinal, Text.within_iff]
    omega
  cases state with
  | csiEntry => exact inParams_of_isBody rfl .empty h
  | csiParam seq => exact inParams_of_isBody rfl seq h
  | csiIntermediate seq =>
    by_cases hintermediate : isIntermediate c = true
    · rw [step, if_neg hlow, if_pos hintermediate]
      exact ⟨_, rfl, rfl⟩
    · -- A parameter after an intermediate: the rest of the sequence is passed over.
      have hbelow : c.toNat < 0x40 := by omega
      rw [step, if_neg hlow, if_neg hintermediate, if_neg hfinal, if_pos hbelow]
      exact ⟨_, rfl, rfl⟩
  | csiIgnore =>
    rw [step, if_neg hlow, if_neg hfinal]
    exact ⟨_, rfl, rfl⟩
  | _ => exact absurd hstate Bool.false_ne_true

/-- A final character ends a control sequence. -/
theorem silent_of_isFinal {state : Scanner} (hstate : state.inControl = true) {c : Char}
    (h : isFinal c = true) : Silent state [c] .ground := by
  have hcode := isFinal_iff.1 h
  have hlow : ¬ isLowControl c = true := not_isLowControl (by omega)
  have hintermediate : ¬ isIntermediate c = true := by
    rw [isIntermediate_iff]
    omega
  -- A final character is none of what parameters are made of.
  have hparams (state other : Scanner) (seq : Sequence) :
      inParams state seq other c = (.ground, [seq.finish c]) := by
    have hdigit : ¬ c.isDigit = true := by
      rw [Text.isDigit_iff]
      omega
    have hcolon : ¬ c = ':' := by
      rintro rfl
      exact absurd h Bool.false_ne_true
    have hsemicolon : ¬ c = ';' := by
      rintro rfl
      exact absurd h Bool.false_ne_true
    have hmark : ¬ isPrivateMark c = true := by
      rw [isPrivateMark_iff]
      omega
    rw [inParams, if_neg hlow, if_neg hintermediate, if_neg hdigit, if_neg hcolon,
      if_neg hsemicolon, if_neg hmark, if_pos h]
  have hfinish {state : Scanner} {seq : Sequence}
      (hstep : state.step c = (.ground, [seq.finish c])) : Silent state [c] .ground := by
    rw [Silent, run_cons, hstep]
    exact ⟨rfl, List.forall_mem_singleton.2 rfl⟩
  cases state with
  | csiEntry => exact hfinish (hparams _ _ _)
  | csiParam seq => exact hfinish (hparams _ _ seq)
  | csiIntermediate seq =>
    have hstep : (csiIntermediate seq).step c = (.ground, [seq.finish c]) := by
      rw [step, if_neg hlow, if_neg hintermediate, if_pos h]
    exact hfinish hstep
  | csiIgnore =>
    -- An ignored sequence ends without a token at all.
    refine silent_singleton ?_
    rw [step, if_neg hlow, if_pos h]
  | _ => exact absurd hstate Bool.false_ne_true

/-- A control sequence is silent, whatever it asks for. -/
theorem silent_control {body : List Char} {final : Char} (hbody : ∀ c ∈ body, isBody c = true)
    (hfinal : isFinal final = true) : Silent .ground (Escape.control body final).chars .ground := by
  have hbegin : Silent .ground ['\x1b', '['] .csiEntry := silent_escape (by decide)
  have hstay : ∀ state, state.inControl = true → ∀ c ∈ body,
      ∃ next, next.inControl = true ∧ Scanner.step state c = (next, []) :=
    fun _ hstate c hc => step_of_isBody hstate (hbody c hc)
  have hentry : csiEntry.inControl = true := rfl
  obtain ⟨next, hnext, hsilent⟩ := exists_silent hstay hentry
  have hend := silent_of_isFinal hnext hfinal
  exact hbegin.append (hsilent.append hend)

/-! ### Shorter sequences -/

/-- A sequence with intermediates is silent.  The intermediates and the final character are all
taken by the same two states. -/
theorem silent_designation {intermediates : List Char} {final : Char} (hne : intermediates ≠ [])
    (hmem : ∀ c ∈ intermediates, isIntermediate c = true) (hfinal : isShortFinal final = true) :
    Silent .ground (Escape.designation intermediates final).chars .ground := by
  obtain ⟨c, rest, rfl⟩ := List.exists_cons_of_ne_nil hne
  obtain ⟨hc, hrest⟩ := List.forall_mem_cons.1 hmem
  have hbegin : Silent .ground ['\x1b', c] .escapeIntermediate := by
    have hsilent := silent_escape (isIntermediate_iff.1 hc).1
    rwa [afterEscape_of_isIntermediate hc] at hsilent
  -- Further intermediates stay in the state that the first one leads to.
  have hstay : ∀ state, state = .escapeIntermediate → ∀ c ∈ rest,
      ∃ next, next = .escapeIntermediate ∧ Scanner.step state c = (next, []) := by
    rintro _ rfl d hd
    have hcode := isIntermediate_iff.1 (hrest d hd)
    have hlow : ¬ isLowControl d = true := not_isLowControl (by omega)
    have hnot : ¬ (0x30 ≤ d.toNat && d.toNat ≤ 0x7e) = true := by
      rw [Text.within_iff]
      omega
    refine ⟨_, rfl, ?_⟩
    rw [step, if_neg hlow, if_neg hnot]
  obtain ⟨_, rfl, hmid⟩ := exists_silent hstay rfl
  have hend : Silent .escapeIntermediate [final] .ground := by
    have hcode := isShortFinal_iff.1 hfinal
    have hlow : ¬ isLowControl final = true := not_isLowControl (by omega)
    have hfinal' : (0x30 ≤ final.toNat && final.toNat ≤ 0x7e) = true := hfinal
    refine silent_singleton ?_
    rw [step, if_neg hlow, if_pos hfinal']
  exact hbegin.append (hmid.append hend)

/-- A sequence of two characters is silent. -/
theorem silent_short {final : Char} (hfinal : isShortFinal final = true) (hbracket : final ≠ '[')
    (hopener : final ∉ Escape.openers) : Silent .ground (Escape.short final).chars .ground := by
  have hcode := isShortFinal_iff.1 hfinal
  have hsilent := silent_escape (c := final) (by omega)
  rwa [afterEscape_of_isShortFinal hfinal hbracket hopener] at hsilent

/-! ### Control strings

A control string begins and ends with an escape sequence, and between these the scanner stays in
states that hand on no token for a printable character. -/

/-- Whether a control string is in progress, the parameters of a device string among it.  No
character of it is shown. -/
def inString : Scanner → Bool
  | .deviceEntry | .deviceParam | .deviceIntermediate | .deviceIgnore | .devicePayload
  | .command | .string => true
  | _ => false

/-- A printable character does not end a sequence as controls do. -/
theorem skip_of_isPrintable (state : Scanner) {c : Char} (h : isPrintable c = true) :
    skip state c = (state, []) := by
  have hescape : ¬ c = '\x1b' := by
    rintro rfl
    exact absurd h Bool.false_ne_true
  have habort : ¬ (c = '\x18' || c = '\x1a') = true := by
    rw [Bool.or_eq_true, decide_eq_true_eq, decide_eq_true_eq]
    rintro (rfl | rfl) <;> exact absurd h Bool.false_ne_true
  rw [skip, interrupt?, if_neg hescape, if_neg habort, Option.getD_none]

theorem inDeviceParams_of_isPrintable {state other : Scanner} (hstate : state.inString = true)
    (hother : other.inString = true) {c : Char} (h : isPrintable c = true) :
    ∃ next, next.inString = true ∧ inDeviceParams state other c = (next, []) := by
  have hcode := isPrintable_iff.1 h
  have hlow : ¬ isLowControl c = true := not_isLowControl (by omega)
  rw [inDeviceParams, if_neg hlow]
  repeat' split
  · exact ⟨_, rfl, rfl⟩
  · exact ⟨_, rfl, rfl⟩
  · exact ⟨other, hother, rfl⟩
  · exact ⟨_, rfl, rfl⟩
  · exact ⟨state, hstate, rfl⟩

/-- The payload of a control string goes on. -/
theorem step_of_isPrintable {state : Scanner} (hstate : state.inString = true) {c : Char}
    (h : isPrintable c = true) : ∃ next, next.inString = true ∧ state.step c = (next, []) := by
  have hcode := isPrintable_iff.1 h
  have hlow : ¬ isLowControl c = true := not_isLowControl (by omega)
  -- The payload of a device string may be read for its head, and stays hidden all the same.
  cases state with
  | deviceEntry => exact inDeviceParams_of_isPrintable rfl rfl h
  | deviceParam => exact inDeviceParams_of_isPrintable rfl rfl h
  | deviceIntermediate =>
    rw [step, if_neg hlow]
    repeat' split
    · exact ⟨_, rfl, rfl⟩
    · exact ⟨_, rfl, rfl⟩
    · exact ⟨_, rfl, rfl⟩
  | deviceIgnore => exact ⟨.deviceIgnore, rfl, skip_of_isPrintable _ h⟩
  | devicePayload =>
    refine ⟨.devicePayload, rfl, ?_⟩
    rw [step, splitTerminator?_of_lt (by omega)]
    exact skip_of_isPrintable _ h
  | command =>
    have hbell : ¬ c = '\x07' := by
      rintro rfl
      exact absurd h Bool.false_ne_true
    refine ⟨.command, rfl, ?_⟩
    rw [step, if_neg hbell, skip_of_isPrintable _ h]
  | string => exact ⟨.string, rfl, skip_of_isPrintable _ h⟩
  | _ => exact absurd hstate Bool.false_ne_true

/-- The terminator ends every control string.  It is an escape sequence of its own, whose first
character ends the string and whose second one does nothing. -/
theorem silent_terminator {state : Scanner} (hstate : state.inString = true) :
    Silent state ['\x1b', '\\'] .ground := by
  have hescape : state.step '\x1b' = (.escape, []) := by
    cases state with
    | devicePayload =>
      rw [step, splitTerminator?_of_lt (by decide)]
      rfl
    | deviceEntry => rfl
    | deviceParam => rfl
    | deviceIntermediate => rfl
    | deviceIgnore => rfl
    | command => rfl
    | string => rfl
    | _ => exact absurd hstate Bool.false_ne_true
  -- The escape alone ends the string, and with the backslash it is a sequence of its own.
  have hbackslash : Scanner.step .escape '\\' = (.ground, []) := rfl
  exact (silent_singleton hescape).append (silent_singleton hbackslash)

/-- A control string with its terminator is silent. -/
theorem silent_string {opener : Char} {payload : List Char} (hopener : opener ∈ Escape.openers)
    (hmem : ∀ c ∈ payload, isPrintable c = true) :
    Silent .ground (Escape.string opener payload ['\x1b', '\\']).chars .ground := by
  have hbegin : 0x20 ≤ opener.toNat ∧ (afterEscape opener).inString = true := by
    simp only [Escape.openers, List.mem_cons, List.not_mem_nil, or_false] at hopener
    rcases hopener with rfl | rfl | rfl | rfl | rfl <;> exact ⟨by decide, rfl⟩
  have hstay : ∀ state, state.inString = true → ∀ c ∈ payload,
      ∃ next, next.inString = true ∧ Scanner.step state c = (next, []) :=
    fun _ hstate c hc => step_of_isPrintable hstate (hmem c hc)
  obtain ⟨next, hnext, hsilent⟩ := exists_silent hstay hbegin.2
  exact (silent_escape hbegin.1).append (hsilent.append (silent_terminator hnext))

/-- An operating-system command may end with the bell. -/
theorem silent_command {payload : List Char} (hmem : ∀ c ∈ payload, isPrintable c = true) :
    Silent .ground (Escape.string ']' payload ['\x07']).chars .ground := by
  have hbegin : Silent .ground ['\x1b', ']'] .command := silent_escape (by decide)
  have hstay : ∀ state, state = .command → ∀ c ∈ payload,
      ∃ next, next = .command ∧ Scanner.step state c = (next, []) := by
    rintro _ rfl c hc
    have hbell : ¬ c = '\x07' := by
      rintro rfl
      exact absurd (hmem _ hc) Bool.false_ne_true
    refine ⟨_, rfl, ?_⟩
    rw [step, if_neg hbell, skip_of_isPrintable _ (hmem c hc)]
  obtain ⟨_, rfl, hmid⟩ := exists_silent hstay rfl
  have hend : Silent .command ['\x07'] .ground := silent_singleton rfl
  exact hbegin.append (hmid.append hend)

end Scanner

/-- Control sequences are not seen. -/
theorem LineEditor.apply_of_isSequence (e : LineEditor) {t : Token} (h : t.isSequence = true) :
    e.apply t = e := by
  cases t with
  | sequence params intermediates overfull final => rfl
  | glyph c => exact absurd h Bool.false_ne_true
  | control c => exact absurd h Bool.false_ne_true

/-- What is silent does not show in plain text. -/
theorem LineEditor.foldl_apply_of_silent (e : LineEditor) {state next : Scanner} {cs : List Char}
    (h : state.Silent cs next) : (state.run cs).2.reverse.foldl apply e = e := by
  have hall : ∀ t ∈ (state.run cs).2.reverse, t.isSequence = true :=
    fun t ht => h.2 t (List.mem_reverse.1 ht)
  generalize (state.run cs).2.reverse = ts at hall ⊢
  induction ts with
  | nil => rfl
  | cons t ts ih =>
    obtain ⟨ht, hts⟩ := List.forall_mem_cons.1 hall
    rw [List.foldl_cons, e.apply_of_isSequence ht]
    exact ih hts

end ConsoleReplay.Capture
