import ConsoleReplay.Proofs.Capture.Legible
import ConsoleReplay.Text.Digit

/-!
# Reading cleaned text again

What cleaning writes is read as what it was written for: a number as its value, numbers
between colons as the sub-parameters of one parameter, and parameters between semicolons
as the parameters of one sequence, as long as they fit.  So the tokens of cleaned text
are the tokens that cleaning keeps, and nothing else.

## Main definitions

* `valueText`, `groupText`, `paramsText` — the parts of a written sequence.
* `Sequence.Reads seq cs next` — a text takes a sequence in progress to another point.
* `Token.isKept t` — cleaning leaves something of the token.

## Main results

* `Sequence.reads_valueText`, `Sequence.exists_reads_groupText`,
  `Sequence.exists_reads_paramsText` — written numbers are read in full.
* `Scanner.run_sgrText` — a written sequence is read as one token.
* `tokens_cleanChars` — **the tokens of cleaned text are those that cleaning keeps**.
-/

namespace ConsoleReplay.Capture

/-! ### Written sequences -/

/-- A value in decimal digits. -/
def valueText (n : Nat) : List Char := (toString n).toList

/-- The values of one parameter. -/
def groupText (group : List Nat) : List Char := List.intercalate [':'] (group.map valueText)

/-- The parameters of a sequence. -/
def paramsText (params : List (List Nat)) : List Char :=
  List.intercalate [';'] (params.map groupText)

theorem sgrText_eq (params : List (List Nat)) :
    sgrText params = '\x1b' :: '[' :: (paramsText params ++ ['m']) := rfl

@[simp] theorem groupText_singleton (n : Nat) : groupText [n] = valueText n :=
  List.intercalate_singleton

theorem groupText_cons_cons (n m : Nat) (group : List Nat) :
    groupText (n :: m :: group) = valueText n ++ ':' :: groupText (m :: group) := by
  rw [groupText, List.map_cons, List.map_cons, List.intercalate_cons_cons, List.append_assoc]
  rfl

@[simp] theorem paramsText_singleton (group : List Nat) : paramsText [group] = groupText group :=
  List.intercalate_singleton

theorem paramsText_cons_cons (g h : List Nat) (params : List (List Nat)) :
    paramsText (g :: h :: params) = groupText g ++ ';' :: paramsText (h :: params) := by
  rw [paramsText, List.map_cons, List.map_cons, List.intercalate_cons_cons, List.append_assoc]
  rfl

theorem valueText_eq (n : Nat) : valueText n = Nat.toDigits 10 n := by
  rw [valueText, Nat.toString_eq_repr, Nat.toList_repr]

theorem valueText_of_lt {n : Nat} (h : n < 10) : valueText n = [n.digitChar] := by
  rw [valueText_eq, Nat.toDigits_of_lt_base h]

/-- The last digit of a number comes after those of its tenth. -/
theorem valueText_of_le {n : Nat} (h : 10 ≤ n) :
    valueText n = valueText (n / 10) ++ [(n % 10).digitChar] := by
  rw [valueText_eq, valueText_eq, Nat.toDigits_of_base_le (by omega) h]

theorem isDigit_of_mem_valueText {n : Nat} : ∀ c ∈ valueText n, c.isDigit = true := by
  intro c hc
  rw [valueText_eq] at hc
  exact Nat.isDigit_of_mem_toDigits (by omega) (by omega) hc

theorem valueText_ne_nil (n : Nat) : valueText n ≠ [] := by
  rw [valueText_eq]
  exact Nat.toDigits_ne_nil

/-- A written parameter begins with a digit. -/
theorem exists_digit_groupText {group : List Nat} (h : group ≠ []) :
    ∃ d ds, d.isDigit = true ∧ groupText group = d :: ds := by
  obtain ⟨n, group, rfl⟩ := List.exists_cons_of_ne_nil h
  obtain ⟨d, ds, hn⟩ := List.exists_cons_of_ne_nil (valueText_ne_nil n)
  have hd : d.isDigit = true := isDigit_of_mem_valueText d (hn ▸ List.mem_cons_self ..)
  cases group with
  | nil => exact ⟨d, ds, hd, by rw [groupText_singleton, hn]⟩
  | cons m group => exact ⟨d, _, hd, by rw [groupText_cons_cons, hn, List.cons_append]⟩

/-- Written parameters begin with a digit. -/
theorem exists_digit_paramsText {params : List (List Nat)} (h : Readable params) :
    ∃ d ds, d.isDigit = true ∧ paramsText params = d :: ds := by
  obtain ⟨group, params, rfl⟩ := List.exists_cons_of_ne_nil h.ne_nil
  obtain ⟨d, ds, hd, hgroup⟩ :=
    exists_digit_groupText (h.forall_ne_nil group (List.mem_cons_self ..))
  cases params with
  | nil => exact ⟨d, ds, hd, by rw [paramsText_singleton, hgroup]⟩
  | cons next params =>
    exact ⟨d, _, hd, by rw [paramsText_cons_cons, hgroup, List.cons_append]⟩

/-! ### Reading parameters

A number that is written in decimal digits is read back as itself, unless it is too large.  A
scanner never hands on one that is, and so whole sequences are read back. -/

/-- A digit has one meaning in the parameters of a sequence. -/
theorem Scanner.inParams_digit (state other : Scanner) (seq : Sequence) {c : Char}
    (h : c.isDigit = true) : inParams state seq other c = (.csiParam (seq.digit c), []) := by
  have hc := Text.isDigit_iff.1 h
  have hlow : isLowControl c = false := decide_eq_false (by omega)
  have hintermediate : isIntermediate c = false := by
    rw [isIntermediate, Bool.and_eq_false_iff]
    exact .inr (decide_eq_false (by omega))
  rw [inParams, hlow, hintermediate, h]
  rfl

namespace Sequence

/-- A text takes a sequence in progress to another point, and completes no token.  Such texts can be
put one after the other, as the parts of a sequence are. -/
def Reads (seq : Sequence) (cs : List Char) (next : Sequence) : Prop :=
  Scanner.run (.csiParam seq) cs = (.csiParam next, [])

theorem Reads.append {seq mid next : Sequence} {cs ds : List Char} (h : seq.Reads cs mid)
    (h' : mid.Reads ds next) : seq.Reads (cs ++ ds) next := by
  unfold Reads at *
  rw [Scanner.run_append, h, h']
  rfl

theorem reads_colon (seq : Sequence) : seq.Reads [':'] seq.endValue := rfl

theorem reads_semicolon (seq : Sequence) : seq.Reads [';'] seq.endParam := rfl

/-- The sequence in progress with another value. -/
def withValue (seq : Sequence) (n : Nat) : Sequence := { seq with value := n }

/-- The sequence in progress after the values of a parameter and its end. -/
def push (seq : Sequence) (group : List Nat) : Sequence :=
  { seq with
    params := seq.params ++ [seq.group ++ group]
    group := []
    value := 0
    count := seq.count + group.length }

section

variable {seq : Sequence} (h : seq.count < maxValues)

include h

theorem not_isFull : ¬ seq.isFull = true := by
  rw [isFull, beq_iff_eq]
  omega

/-- The digit of a small number adds that number. -/
theorem reads_digitChar {d : Nat} (hd : d < 10) (hle : seq.value * 10 + d ≤ maxValue) :
    seq.Reads [d.digitChar] (seq.withValue (seq.value * 10 + d)) := by
  have hdigit : d.digitChar.isDigit = true := by rw [Nat.isDigit_digitChar, decide_eq_true hd]
  have hvalue : d.digitChar.toNat - '0'.toNat = d := Nat.toNat_digitChar_sub_48_of_lt_ten hd
  have htens : seq.value * 10 ≤ maxValue := by omega
  have hnext : seq.digit d.digitChar = seq.withValue (seq.value * 10 + d) := by
    rw [digit, if_neg (not_isFull h), hvalue, Nat.min_eq_right htens, Nat.min_eq_right hle]
    rfl
  rw [Reads, Scanner.run_cons, Scanner.step, Scanner.inParams_digit _ _ _ hdigit, hnext]
  rfl

theorem endParam_withValue (n : Nat) : (seq.withValue n).endParam = seq.push [n] := by
  have hcount : (seq.withValue n).count < maxValues := h
  rw [endParam, if_neg (not_isFull hcount)]
  rfl

theorem endValue_withValue (n : Nat) :
    (seq.withValue n).endValue =
      { seq with group := seq.group ++ [n], value := 0, count := seq.count + 1 } := by
  have hcount : (seq.withValue n).count < maxValues := h
  rw [endValue, if_neg (not_isFull hcount)]
  rfl

/-- A sub-parameter that has ended belongs to the values of its parameter. -/
theorem push_endValue (n : Nat) (group : List Nat) :
    (seq.withValue n).endValue.push group = seq.push (n :: group) := by
  simp only [endValue_withValue h, push, List.length_cons, List.append_assoc,
    List.singleton_append, Nat.add_assoc, Nat.add_comm 1]

/-- A written number is read as its value.  A number is written with its last digit behind the
digits of its tenth, and read in the same way, so the induction is on the number. -/
theorem reads_valueText (hvalue : seq.value = 0) {n : Nat} (hn : n ≤ maxValue) :
    seq.Reads (valueText n) (seq.withValue n) := by
  -- The last digit of a number is read after its tenth.
  induction n using Nat.strongRecOn with
  | ind n ih =>
    by_cases hlt : n < 10
    · have hread := reads_digitChar h hlt (by omega)
      rwa [hvalue, Nat.zero_mul, Nat.zero_add, ← valueText_of_lt hlt] at hread
    · have hcount : (seq.withValue (n / 10)).count < maxValues := h
      have htenth := ih (n / 10) (by omega) (by omega)
      have hlast := reads_digitChar hcount (d := n % 10) (by omega)
        (by dsimp only [withValue]; omega)
      dsimp only [withValue] at hlast
      rw [Nat.div_add_mod'] at hlast
      rw [valueText_of_le (by omega)]
      exact htenth.append hlast

end

/-- The values of a written parameter are read in full.  Each of them but the last is ended by its
colon. -/
theorem exists_reads_groupText {seq : Sequence} {group : List Nat} (hne : group ≠ [])
    (hle : ∀ value ∈ group, value ≤ maxValue) (hvalue : seq.value = 0)
    (hroom : seq.count + group.length ≤ maxValues) :
    ∃ next, seq.Reads (groupText group) next ∧ next.endParam = seq.push group := by
  induction group generalizing seq with
  | nil => exact absurd rfl hne
  | cons n group ih =>
    rw [List.length_cons] at hroom
    have hcount : seq.count < maxValues := by omega
    have hn := reads_valueText hcount hvalue (hle n (List.mem_cons_self ..))
    cases group with
    | nil =>
      rw [groupText_singleton]
      exact ⟨_, hn, endParam_withValue hcount n⟩
    | cons m group =>
      -- The colon ends the first value, and the others are read from there.
      have hmid := endValue_withValue hcount n
      have hvalue' : (seq.withValue n).endValue.value = 0 := by rw [hmid]
      have hroom' : (seq.withValue n).endValue.count + (m :: group).length ≤ maxValues := by
        rw [hmid]
        dsimp only
        omega
      obtain ⟨next, hread, hnext⟩ := ih (List.cons_ne_nil m group)
        (fun v hv => hle v (List.mem_cons_of_mem n hv)) hvalue' hroom'
      refine ⟨next, ?_, hnext.trans (push_endValue hcount n _)⟩
      rw [groupText_cons_cons]
      exact hn.append ((reads_colon _).append hread)

/-- Written parameters are read in full.  Each parameter but the last is ended by its semicolon; the
last one is left in progress for the final character. -/
theorem exists_reads_paramsText {seq : Sequence} {params : List (List Nat)} (hne : params ≠ [])
    (hgroups : ∀ group ∈ params, group ≠ [])
    (hle : ∀ group ∈ params, ∀ value ∈ group, value ≤ maxValue) (hvalue : seq.value = 0)
    (hroom : seq.count + params.flatten.length ≤ maxValues) :
    ∃ next, seq.Reads (paramsText params) next ∧ next.endParam = params.foldl push seq := by
  induction params generalizing seq with
  | nil => exact absurd rfl hne
  | cons group params ih =>
    rw [List.flatten_cons, List.length_append] at hroom
    -- The first group is read, its semicolon completes it, and the others follow.
    obtain ⟨mid, hmid, hend⟩ := exists_reads_groupText (hgroups group (List.mem_cons_self ..))
      (hle group (List.mem_cons_self ..)) hvalue (by omega)
    cases params with
    | nil =>
      rw [paramsText_singleton]
      exact ⟨mid, hmid, hend⟩
    | cons g params =>
      have hroom' : (seq.push group).count + (g :: params).flatten.length ≤ maxValues := by
        dsimp only [push]
        omega
      have hvalue' : (seq.push group).value = 0 := rfl
      obtain ⟨next, hread, hnext⟩ := ih (List.cons_ne_nil g params)
        (fun g' hg' => hgroups g' (List.mem_cons_of_mem group hg'))
        (fun g' hg' => hle g' (List.mem_cons_of_mem group hg')) hvalue' hroom'
      refine ⟨next, ?_, hnext⟩
      rw [paramsText_cons_cons]
      exact hmid.append ((hend ▸ reads_semicolon mid).append hread)

theorem foldl_push (params : List (List Nat)) {seq : Sequence} (h : seq.group = []) :
    (params.foldl push seq).params = seq.params ++ params
      ∧ (params.foldl push seq).group = []
      ∧ (params.foldl push seq).intermediates = seq.intermediates
      ∧ (params.foldl push seq).overfull = seq.overfull := by
  induction params generalizing seq with
  | nil => exact ⟨(List.append_nil _).symm, h, rfl, rfl⟩
  | cons group params ih =>
    rw [List.foldl_cons]
    have hpush : (seq.push group).group = [] := rfl
    obtain ⟨hparams, hgroup, hintermediates, hoverfull⟩ := ih hpush
    refine ⟨?_, hgroup, hintermediates, hoverfull⟩
    rw [hparams, push, h, List.nil_append, List.append_assoc, List.singleton_append]

end Sequence

/-! ### Reading tokens -/

namespace Scanner

theorem run_cons_of_step {state next : Scanner} {c : Char} (h : state.step c = (next, []))
    (cs : List Char) : state.run (c :: cs) = next.run cs := by
  rw [run_cons, h, List.reverse_nil, List.append_nil]

/-- At the beginning of a sequence digits are read as they are after other parameters. -/
theorem run_csiEntry {c : Char} (h : c.isDigit = true) (cs : List Char) :
    run .csiEntry (c :: cs) = run (.csiParam .empty) (c :: cs) := by
  rw [run_cons, run_cons, step, step, inParams_digit _ _ _ h, inParams_digit _ _ _ h]

/-- A written sequence is read as one token.  It has room for all of its values, since a scanner has
had room for them before. -/
theorem run_sgrText {params : List (List Nat)} (h : Readable params) :
    run .ground (sgrText params) = (.ground, [.sequence params [] false 'm']) := by
  have hgroup : Sequence.empty.group = [] := rfl
  have hvalue : Sequence.empty.value = 0 := rfl
  have hroom : Sequence.empty.count + params.flatten.length ≤ maxValues := by
    rw [Sequence.empty, Nat.zero_add]
    exact h.length_flatten_le
  obtain ⟨next, hread, hend⟩ :=
    Sequence.exists_reads_paramsText h.ne_nil h.forall_ne_nil h.forall_le hvalue hroom
  obtain ⟨hparams, hgroup, hintermediates, hoverfull⟩ := Sequence.foldl_push params hgroup
  rw [← hend] at hparams hgroup hintermediates hoverfull
  -- The final character adds the last parameter, for which there is room.
  have hfinish : next.finish 'm' = .sequence params [] false 'm' := by
    rw [Sequence.finish, hparams, hgroup, hintermediates, hoverfull]
    exact congrArg (Token.sequence · [] false 'm') (List.append_nil params)
  -- Parameters begin with a digit, and from there on the entry is no state of its own.
  have hentry : run .csiEntry (paramsText params ++ ['m'])
      = run (.csiParam .empty) (paramsText params ++ ['m']) := by
    obtain ⟨d, ds, hd, hds⟩ := exists_digit_paramsText h
    rw [hds, List.cons_append, run_csiEntry hd]
  calc
    run .ground (sgrText params) = run .csiEntry (paramsText params ++ ['m']) := by
      have hescape : step .ground '\x1b' = (.escape, []) := rfl
      have hbracket : step .escape '[' = (.csiEntry, []) := rfl
      rw [sgrText_eq, run_cons_of_step hescape, run_cons_of_step hbracket]
    _ = (.ground, [next.finish 'm']) := by
      rw [hentry, run_append, hread]
      rfl
    _ = (.ground, [.sequence params [] false 'm']) := by rw [hfinish]

end Scanner

/-- Whether cleaning leaves something of a token. -/
def Token.isKept : Token → Bool
  | .glyph _ => true
  | .control c => isLineControl c
  | t => t.sgr?.isSome

/-- A token has the codes of a style only if it is written as them. -/
theorem Token.eq_of_sgr? {t : Token} {params : List (List Nat)} (h : t.sgr? = some params) :
    t = .sequence params [] false 'm' := by
  unfold Token.sgr? at h
  split at h
  · rw [Option.some.inj h]
  · exact absurd h.symm (Option.some_ne_none params)

/-- What cleaning drops leaves no text. -/
theorem Token.cleaned_of_not_isKept {t : Token} (h : t.isKept = false) : t.cleaned = [] := by
  cases t with
  | glyph c => exact absurd h.symm Bool.false_ne_true
  | control c =>
    rw [isKept] at h
    rw [cleaned, h]
    rfl
  | sequence params intermediates overfull final =>
    rw [isKept, Option.isSome_eq_false_iff, Option.isNone_iff_eq_none] at h
    rw [cleaned, h]
    · rfl
    all_goals exact fun _ => Token.noConfusion

theorem isControl_of_isLineControl {c : Char} (h : isLineControl c = true) :
    isControl c = true := by
  simp only [isLineControl, Bool.or_eq_true, beq_iff_eq] at h
  rcases h with ((rfl | rfl) | rfl) | rfl <;> decide

/-- Outside sequences a character that is no escape is a token. -/
theorem Scanner.run_singleton {c : Char} (h : c ≠ '\x1b') :
    run .ground [c] = (.ground, [plainToken c]) := by
  rw [run_cons, step, if_neg h]
  rfl

/-- What cleaning leaves of a legible token is read as that token. -/
theorem Scanner.run_cleaned {t : Token} (ht : t.IsLegible) :
    run .ground t.cleaned = (.ground, if t.isKept then [t] else []) := by
  cases hkept : t.isKept with
  | false =>
    rw [Token.cleaned_of_not_isKept hkept]
    rfl
  | true =>
    rw [if_pos rfl]
    cases t with
    | glyph c =>
      have hc : isControl c = false := ht
      rw [Token.cleaned, run_singleton (by rintro rfl; exact absurd hc (by decide)), plainToken, hc]
      rfl
    | control c =>
      have hline : isLineControl c = true := hkept
      have hc : c ≠ '\x1b' := by
        rintro rfl
        exact absurd hline (by decide)
      rw [Token.cleaned, if_pos hline, run_singleton hc, plainToken,
        if_pos (isControl_of_isLineControl hline)]
    | sequence params intermediates overfull final =>
      -- What is kept of a sequence is its normal form.
      obtain ⟨codes, hcodes⟩ := Option.isSome_iff_exists.1 hkept
      obtain ⟨rfl, rfl, rfl, rfl⟩ := Token.sequence.inj (Token.eq_of_sgr? hcodes)
      exact run_sgrText (ht rfl)

/-- Cleaned text is read as the tokens it was made from, less those that were dropped. -/
theorem Scanner.run_flatMap_cleaned {ts : List Token} (h : ∀ t ∈ ts, t.IsLegible) :
    run .ground (ts.flatMap Token.cleaned) = (.ground, (ts.filter Token.isKept).reverse) := by
  induction ts with
  | nil => rfl
  | cons t ts ih =>
    obtain ⟨ht, hts⟩ := List.forall_mem_cons.1 h
    rw [List.flatMap_cons, run_append, run_cleaned ht, ih hts, List.filter_cons]
    cases t.isKept with
    | false => rw [if_neg Bool.false_ne_true, if_neg Bool.false_ne_true, List.append_nil]
    | true => rw [if_pos rfl, if_pos rfl, List.reverse_cons]

theorem toList_clean (text : String) : (clean text).toList = cleanChars text.toList :=
  String.toList_ofList

/-- **The tokens of cleaned text are those that cleaning keeps.** -/
theorem tokens_cleanChars (cs : List Char) :
    tokens (cleanChars cs) = (tokens cs).filter Token.isKept := by
  rw [tokens, cleanChars, Scanner.run_flatMap_cleaned isLegible_of_mem_tokens,
    List.reverse_reverse]

end ConsoleReplay.Capture
