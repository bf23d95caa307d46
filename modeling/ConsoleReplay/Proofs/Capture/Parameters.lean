import ConsoleReplay.Proofs.Capture.Rereading
import ConsoleReplay.Proofs.Capture.Silence

/-!
# The parameters of a sequence in progress

A control sequence takes its parameters from digits, colons and semicolons.  Other control
characters may come in between, and characters above ASCII: the former act at once, the latter are
dropped, and the sequence goes on as if they were not there.  As long as there is room for its
values, what a sequence reads from some place on does not depend on the parameters before that
place.

## Main definitions

* `Sequence.read seq c` — the sequence after a character of its parameters.
* `Sequence.IsBetween seq` — no value of the next parameter has been read.
* `Sequence.behind base seq` — what `seq` has read, behind the parameters of `base`.
* `Sequence.paramsOf text` — the parameters that a text is read as.
* `Scanner.goesOn c` — the parameters of a sequence go on with this character.

## Main results

* `Sequence.foldl_read_behind` — **what is read does not depend on the parameters before it**.
* `Sequence.foldl_read_fields` — values with colons between them are one parameter.
* `Scanner.isBetween_of_run` — there is such a place behind every semicolon.
* `tokens_around` — the tokens of a text around the rest of a sequence.
-/

namespace ConsoleReplay.Capture

/-- The characters that end a value. -/
def isSeparator (c : Char) : Bool := c == ':' || c == ';'

namespace Sequence

/-- Take a character of the parameters.  Other characters than digits and separators change
nothing. -/
def read (seq : Sequence) (c : Char) : Sequence :=
  if c.isDigit then seq.digit c
  else if c = ':' then seq.endValue
  else if c = ';' then seq.endParam
  else seq

/-- No value of the next parameter has been read, or only zeros of its first one.  What comes next
is then a parameter of its own. -/
structure IsBetween (seq : Sequence) : Prop where
  group_eq : seq.group = []
  value_eq : seq.value = 0

/-- What a sequence has read, behind the parameters of another one. -/
def behind (base seq : Sequence) : Sequence :=
  { seq with
    params := base.params ++ seq.params
    count := base.count + seq.count
    intermediates := base.intermediates
    overfull := base.overfull }

/-- The parameters that a text is read as. -/
def paramsOf (text : List Char) : List (List Nat) := (text.foldl read empty).endParam.params

section

variable {base seq : Sequence}

theorem endParam_of_room (h : seq.count < maxValues) :
    seq.endParam =
      { seq with
        params := seq.params ++ [seq.group ++ [seq.value]]
        group := []
        value := 0
        count := seq.count + 1 } := by
  rw [endParam, if_neg (not_isFull h)]

theorem behind_empty (h : base.IsBetween) : base.behind empty = base := by
  obtain ⟨params, group, value, count, intermediates, overfull⟩ := base
  obtain ⟨rfl, rfl⟩ := h
  simp [behind, empty]

/-- A character is read behind other parameters as it is at the beginning. -/
theorem read_behind (h : base.count + seq.count < maxValues) (c : Char) :
    (base.behind seq).read c = base.behind (seq.read c) := by
  -- Both have room for a value more, and what they do with one is the same.
  have hfull : ¬ seq.isFull = true := not_isFull (by omega)
  have hfull' : ¬ (base.behind seq).isFull = true := not_isFull h
  rw [read, read]
  split
  · rw [digit, digit, if_neg hfull, if_neg hfull']
    rfl
  split
  · rw [endValue, endValue, if_neg hfull, if_neg hfull']
    rfl
  split
  · rw [endParam, endParam, if_neg hfull, if_neg hfull']
    simp only [behind, List.append_assoc, Nat.add_assoc]
  · rfl

/-- Only separators make the number of values larger.  Digits change the value in progress, and what
has no room is only remembered as too much. -/
theorem count_read (h : seq.count < maxValues) (c : Char) :
    (seq.read c).count = seq.count + if isSeparator c then 1 else 0 := by
  have hfull : ¬ seq.isFull = true := not_isFull h
  rw [read]
  split
  · next hdigit =>
    have hseparator : ¬ isSeparator c = true := by
      intro hseparator
      rw [isSeparator, Bool.or_eq_true, beq_iff_eq, beq_iff_eq] at hseparator
      rcases hseparator with rfl | rfl <;> exact absurd hdigit (by decide)
    rw [if_neg hseparator, digit, if_neg hfull]
    rfl
  split
  · next hcolon =>
    subst hcolon
    rw [endValue, if_neg hfull]
    rfl
  split
  · next hsemicolon =>
    subst hsemicolon
    rw [endParam, if_neg hfull]
    rfl
  · next hcolon hsemicolon =>
    -- Any other character is passed over.
    have hseparator : ¬ isSeparator c = true := by simp [isSeparator, hcolon, hsemicolon]
    rw [if_neg hseparator]
    rfl

/-- **What is read does not depend on the parameters before it**, as long as there is room. -/
theorem foldl_read_behind {text : List Char}
    (h : base.count + seq.count + text.countP isSeparator < maxValues) :
    text.foldl read (base.behind seq) = base.behind (text.foldl read seq)
      ∧ (text.foldl read seq).count = seq.count + text.countP isSeparator := by
  induction text generalizing seq with
  | nil => exact ⟨rfl, rfl⟩
  | cons c text ih =>
    rw [List.countP_cons] at h ⊢
    have hroom : seq.count < maxValues := by omega
    have hcount := count_read hroom c
    have hnext : base.count + (seq.read c).count + text.countP isSeparator < maxValues := by omega
    obtain ⟨hread, hrest⟩ := ih hnext
    rw [List.foldl_cons, List.foldl_cons, read_behind (by omega), hread]
    exact ⟨rfl, by omega⟩

end

/-- What is read from a place between two parameters, and how many values it has. -/
theorem foldl_read_of_isBetween {base : Sequence} (hbase : base.IsBetween) {text : List Char}
    (h : base.count + text.countP isSeparator < maxValues) :
    text.foldl read base = base.behind (text.foldl read empty)
      ∧ (text.foldl read empty).count = text.countP isSeparator := by
  have hroom : base.count + empty.count + text.countP isSeparator < maxValues := h
  obtain ⟨hread, hcount⟩ := foldl_read_behind hroom
  rw [behind_empty hbase] at hread
  exact ⟨hread, hcount.trans (Nat.zero_add _)⟩

/-- A final character completes the parameters before a place and those that are read from it. -/
theorem finish_foldl_read {base : Sequence} (hbase : base.IsBetween) {text : List Char}
    (h : base.count + text.countP isSeparator < maxValues) (final : Char) :
    (text.foldl read base).finish final
      = .sequence (base.params ++ paramsOf text) base.intermediates base.overfull final := by
  obtain ⟨hread, hcount⟩ := foldl_read_of_isBetween hbase h
  have hroom : (base.behind (text.foldl read empty)).count < maxValues := by
    show base.count + (text.foldl read empty).count < maxValues
    omega
  have hroom' : (text.foldl read empty).count < maxValues := by omega
  rw [hread, finish, paramsOf, endParam_of_room hroom, endParam_of_room hroom']
  simp [behind]

/-- The last parameter of a text is never empty, nor are there none. -/
theorem exists_paramsOf_eq {text : List Char} (h : text.countP isSeparator < maxValues) :
    ∃ params group value, paramsOf text = params ++ [group ++ [value]] := by
  have hbase : empty.IsBetween := ⟨rfl, rfl⟩
  have hroom : empty.count + text.countP isSeparator < maxValues := by
    rw [empty, Nat.zero_add]
    exact h
  have hcount := (foldl_read_of_isBetween hbase hroom).2
  rw [paramsOf, endParam_of_room (by omega)]
  exact ⟨_, _, _, rfl⟩

/-! ### Values -/

/-- A value with one more digit, held at its bound. -/
def addDigit (value : Nat) (c : Char) : Nat :=
  min maxValue (min maxValue (value * 10) + (c.toNat - '0'.toNat))

/-- The value of some digits. -/
def fieldValue (digits : List Char) : Nat := digits.foldl addDigit 0

theorem read_of_isDigit (seq : Sequence) {c : Char} (h : c.isDigit = true) :
    seq.read c = seq.digit c := if_pos h

theorem foldl_read_digits {seq : Sequence} (h : seq.count < maxValues) {digits : List Char}
    (hdigits : ∀ c ∈ digits, c.isDigit = true) :
    digits.foldl read seq = seq.withValue (digits.foldl addDigit seq.value) := by
  induction digits generalizing seq with
  | nil => rfl
  | cons c digits ih =>
    obtain ⟨hc, hrest⟩ := List.forall_mem_cons.1 hdigits
    have hfirst : seq.read c = seq.withValue (addDigit seq.value c) := by
      rw [seq.read_of_isDigit hc, digit, if_neg (not_isFull h)]
      rfl
    have hcount : (seq.withValue (addDigit seq.value c)).count < maxValues := h
    rw [List.foldl_cons, hfirst, ih hcount hrest]
    rfl

/-- **Values with colons between them are one parameter.** -/
theorem foldl_read_fields {seq : Sequence} (hvalue : seq.value = 0) {fields : List (List Char)}
    (hne : fields ≠ []) (hdigits : ∀ field ∈ fields, ∀ c ∈ field, c.isDigit = true)
    (hroom : seq.count + fields.length ≤ maxValues) :
    (List.intercalate [':'] fields ++ [';']).foldl read seq = seq.push (fields.map fieldValue) := by
  induction fields generalizing seq with
  | nil => exact absurd rfl hne
  | cons field fields ih =>
    obtain ⟨hfield, hrest⟩ := List.forall_mem_cons.1 hdigits
    rw [List.length_cons] at hroom
    have hcount : seq.count < maxValues := by omega
    have hfirst : field.foldl read seq = seq.withValue (fieldValue field) := by
      rw [foldl_read_digits hcount hfield, hvalue, fieldValue]
    cases fields with
    | nil =>
      rw [List.intercalate_singleton, List.foldl_append, hfirst]
      exact endParam_withValue hcount _
    | cons next fields =>
      -- The colon ends the first value, and the others are read from there.
      have hmid := endValue_withValue hcount (fieldValue field)
      have hvalue' : (seq.withValue (fieldValue field)).endValue.value = 0 := by rw [hmid]
      have hroom' : (seq.withValue (fieldValue field)).endValue.count + (next :: fields).length
          ≤ maxValues := by
        rw [hmid]
        dsimp only
        omega
      have hothers := ih hvalue' (List.cons_ne_nil next fields) hrest hroom'
      have hcolon : (seq.withValue (fieldValue field)).read ':'
          = (seq.withValue (fieldValue field)).endValue := rfl
      rw [List.intercalate_cons_cons, List.append_assoc, List.append_assoc, List.foldl_append,
        hfirst, List.singleton_append, List.foldl_cons, hcolon, hothers, push_endValue hcount]
      rfl

end Sequence

/-! ### The scanner

Between two parameters the scanner is where it was at the beginning of the sequence, but for what
it has gathered.  So a text of parameters gives the same ones at both places. -/

namespace Scanner

/-- The parameters of a sequence go on: with a digit or a separator, with a control character that
acts at once, or with a character that is dropped. -/
def goesOn (c : Char) : Bool :=
  c.isDigit || isSeparator c || (isLowControl c && (interrupt? c).isNone) || 0x7f ≤ c.toNat

/-- The tokens of the control characters in a text. -/
def lowControls (text : List Char) : List Token := (text.filter isLowControl).map Token.control

theorem lowControls_append (text text' : List Char) :
    lowControls (text ++ text') = lowControls text ++ lowControls text' := by
  rw [lowControls, List.filter_append, List.map_append]
  rfl

theorem lowControls_singleton_of_le {c : Char} (h : 0x20 ≤ c.toNat) : lowControls [c] = [] := by
  simp [lowControls, not_isLowControl h]

/-- Digits and separators stand next to each other in ASCII. -/
theorem not_isDigit_of_outside {c : Char} (h : c.toNat < 0x30 ∨ 0x3b < c.toNat) :
    ¬ c.isDigit = true ∧ c ≠ ':' ∧ c ≠ ';' := by
  refine ⟨?_, ?_, ?_⟩
  · rw [Text.isDigit_iff]
    omega
  · rintro rfl
    exact absurd h (by decide)
  · rintro rfl
    exact absurd h (by decide)

/-- Other characters than digits and separators are passed over. -/
theorem read_of_outside (seq : Sequence) {c : Char} (h : c.toNat < 0x30 ∨ 0x3b < c.toNat) :
    seq.read c = seq := by
  obtain ⟨hdigit, hcolon, hsemicolon⟩ := not_isDigit_of_outside h
  rw [Sequence.read, if_neg hdigit, if_neg hcolon, if_neg hsemicolon]

/-- A character above ASCII, or a delete, is dropped inside the parameters. -/
theorem inParams_of_le (state other : Scanner) (seq : Sequence) {c : Char} (h : 0x7f ≤ c.toNat) :
    inParams state seq other c = (state, []) := by
  -- Everything that means something in a sequence lies below.
  have hlow : ¬ isLowControl c = true := not_isLowControl (by omega)
  have hintermediate : ¬ isIntermediate c = true := by
    rw [isIntermediate_iff]
    omega
  obtain ⟨hdigit, hcolon, hsemicolon⟩ := not_isDigit_of_outside (.inr (by omega : 0x3b < c.toNat))
  have hmark : ¬ isPrivateMark c = true := by
    rw [isPrivateMark_iff]
    omega
  have hfinal : ¬ isFinal c = true := by
    rw [isFinal, Text.within_iff]
    omega
  rw [inParams, if_neg hlow, if_neg hintermediate, if_neg hdigit, if_neg hcolon, if_neg hsemicolon,
    if_neg hmark, if_neg hfinal]

/-- The sequence goes on, and a control character acts at once. -/
theorem step_of_goesOn (seq : Sequence) {c : Char} (h : goesOn c = true) :
    step (.csiParam seq) c = (.csiParam (seq.read c), lowControls [c]) := by
  simp only [goesOn, Bool.or_eq_true, Bool.and_eq_true, Option.isNone_iff_eq_none,
    decide_eq_true_eq] at h
  rcases h with ((hdigit | hseparator) | ⟨hlow, hacts⟩) | habove
  · have hcode := Text.isDigit_iff.1 hdigit
    rw [step, inParams_digit _ _ _ hdigit, lowControls_singleton_of_le (by omega),
      seq.read_of_isDigit hdigit]
  · rw [isSeparator, Bool.or_eq_true, beq_iff_eq, beq_iff_eq] at hseparator
    rcases hseparator with rfl | rfl <;> rfl
  · -- A control that does not interrupt the sequence acts and is not read.
    have hcode : c.toNat < 0x20 := of_decide_eq_true hlow
    have hcontrol : lowControls [c] = [.control c] := by simp [lowControls, hlow]
    rw [step, inParams, if_pos hlow, act, hacts, Option.getD_none, hcontrol,
      read_of_outside seq (.inl (by omega))]
  · rw [step, inParams_of_le _ _ _ habove, lowControls_singleton_of_le (by omega),
      read_of_outside seq (.inr (by omega))]

/-- The parameters of a sequence are read through, and the control characters among them act. -/
theorem run_of_goesOn (seq : Sequence) {text : List Char} (h : ∀ c ∈ text, goesOn c = true) :
    run (.csiParam seq) text
      = (.csiParam (text.foldl Sequence.read seq), (lowControls text).reverse) := by
  induction text generalizing seq with
  | nil => rfl
  | cons c text ih =>
    obtain ⟨hc, htext⟩ := List.forall_mem_cons.1 h
    have hsplit : lowControls (c :: text) = lowControls [c] ++ lowControls text :=
      lowControls_append [c] text
    rw [run_cons, step_of_goesOn seq hc, ih _ htext, hsplit, List.reverse_append]
    rfl

/-- Behind a semicolon the next parameter has not begun, whatever was read before it.  The value in
progress is zero and the group is empty right after every semicolon. -/
theorem isBetween_of_run (front : List Char) {seq : Sequence}
    (h : (run .ground (front ++ [';'])).1 = .csiParam seq) (hroom : seq.count < maxValues) :
    seq.IsBetween := by
  have hstep : ((run .ground front).1.step ';').1 = .csiParam seq := by
    rw [run_append, run_cons] at h
    exact h
  -- A semicolon leads to the parameters from two states only.
  generalize (run .ground front).1 = state at hstep
  cases state with
  | csiEntry =>
    obtain rfl : Sequence.empty.endParam = seq := Scanner.csiParam.inj hstep
    exact ⟨rfl, rfl⟩
  | csiParam mid =>
    obtain rfl : mid.endParam = seq := Scanner.csiParam.inj hstep
    by_cases hfull : mid.isFull = true
    · -- A full sequence stays full, against the assumption.
      rw [Sequence.endParam, if_pos hfull] at hroom
      exact absurd hfull (Sequence.not_isFull hroom)
    · rw [Sequence.endParam, if_neg hfull]
      exact ⟨rfl, rfl⟩
  | devicePayload =>
    rw [step, splitTerminator?_of_lt (by decide)] at hstep
    cases hstep
  | _ => cases hstep

end Scanner

/-- **The tokens of a text around the rest of a sequence.**  What has been read before it and what
comes after it do not depend on that rest. -/
theorem tokens_around {before text : List Char} {seq : Sequence} {ts : List Token}
    (hbefore : Scanner.run .ground before = (.csiParam seq, ts))
    (htext : ∀ c ∈ text, Scanner.goesOn c = true) (after : List Char) :
    tokens (before ++ (text ++ 'm' :: after))
      = ts.reverse ++ (Scanner.lowControls text
        ++ (text.foldl Sequence.read seq).finish 'm' :: tokens after) := by
  have hfinal (seq : Sequence) :
      Scanner.step (.csiParam seq) 'm' = (.ground, [seq.finish 'm']) := rfl
  rw [tokens, Scanner.run_append, hbefore, Scanner.run_append, Scanner.run_of_goesOn _ htext,
    Scanner.run_cons, hfinal]
  simp [tokens]

end ConsoleReplay.Capture
