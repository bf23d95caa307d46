import ConsoleReplay.Proofs.Capture.Rereading

/-!
# The normal form of captured text

Cleaned text is made of characters to show, line controls and sequences of style codes
that are complete.  No other control character stands in it, and every escape begins such
a sequence.  A text is changed by cleaning exactly if it is not of the form that cleaning
writes, so cleaning it a second time changes nothing.

## Main definitions

* `StyleCodes cs` — numbers with a semicolon or a colon between them.
* `Cleaned cs` — the language of cleaned text.
* `IsNormal cs` — a text that is written from tokens which cleaning keeps.

## Main results

* `cleaned_flatMap_cleaned` — what cleaning writes is in the language.
* `cleanChars_eq_self_iff` — the normal texts are those that cleaning does not change.
* `clean_clean_and_cleaned` — **cleaned text is in normal form**.
-/

namespace ConsoleReplay.Capture

/-! ### The language of cleaned text -/

/-- One or more numbers, with a semicolon or a colon between each two. -/
inductive StyleCodes : List Char → Prop
  | number {ds : List Char} (hne : ds ≠ []) (hds : ∀ d ∈ ds, d.isDigit = true) : StyleCodes ds
  | append {cs ds : List Char} (hcs : StyleCodes cs) {sep : Char} (hsep : sep = ';' ∨ sep = ':')
      (hds : StyleCodes ds) : StyleCodes (cs ++ sep :: ds)

/-- A text in which every escape begins a complete sequence of style codes, and no other
control characters stand than those that lay out a line. -/
structure Cleaned (cs : List Char) : Prop where
  control : ∀ c ∈ cs, isControl c = true → c = '\x1b' ∨ isLineControl c = true
  escape : ∀ rest, '\x1b' :: rest <:+ cs →
    ∃ codes, StyleCodes codes ∧ '[' :: (codes ++ ['m']) <+: rest

theorem cleaned_nil : Cleaned [] where
  control := List.forall_mem_nil _
  escape := fun _ h => absurd (List.suffix_nil.1 h) (List.cons_ne_nil _ _)

/-- A character in front of cleaned text: one that may stand there, and begins a complete
sequence if it is an escape. -/
theorem Cleaned.cons {c : Char} {cs : List Char}
    (hc : isControl c = true → c = '\x1b' ∨ isLineControl c = true)
    (hescape : c = '\x1b' → ∃ codes, StyleCodes codes ∧ '[' :: (codes ++ ['m']) <+: cs)
    (h : Cleaned cs) : Cleaned (c :: cs) where
  control := List.forall_mem_cons.2 ⟨hc, h.control⟩
  escape := fun rest hrest => by
    rcases List.suffix_cons_iff.1 hrest with heq | hrest
    · obtain ⟨hc, rfl⟩ := List.cons.inj heq
      exact hescape hc.symm
    · exact h.escape rest hrest

theorem Cleaned.tail {c : Char} {cs : List Char} (h : Cleaned (c :: cs)) : Cleaned cs where
  control := fun d hd => h.control d (List.mem_cons_of_mem c hd)
  escape := fun rest hrest => h.escape rest (hrest.trans (List.suffix_cons c cs))

/-- Cleaned texts one after the other are cleaned text. -/
theorem Cleaned.append {cs ds : List Char} (hcs : Cleaned cs) (hds : Cleaned ds) :
    Cleaned (cs ++ ds) := by
  induction cs with
  | nil => exact hds
  | cons c cs ih =>
    -- A sequence of the first text ends before the second one begins.
    refine (ih hcs.tail).cons (hcs.control c (List.mem_cons_self ..)) fun hc => ?_
    subst hc
    obtain ⟨codes, hcodes, hprefix⟩ := hcs.escape cs (List.suffix_refl _)
    exact ⟨codes, hcodes, hprefix.trans (List.prefix_append _ ds)⟩

/-- A text without control characters is cleaned. -/
theorem cleaned_of_not_control {cs : List Char} (h : ∀ c ∈ cs, isControl c = false) :
    Cleaned cs := by
  induction cs with
  | nil => exact cleaned_nil
  | cons c cs ih =>
    obtain ⟨hc, hcs⟩ := List.forall_mem_cons.1 h
    refine (ih hcs).cons (fun hcontrol => ?_) fun hescape => ?_
    · rw [hc] at hcontrol
      exact absurd hcontrol Bool.false_ne_true
    · subst hescape
      exact absurd hc (by decide)

/-! ### Written sequences -/

theorem styleCodes_valueText (n : Nat) : StyleCodes (valueText n) :=
  .number (valueText_ne_nil n) isDigit_of_mem_valueText

/-- A written parameter is made of numbers. -/
theorem styleCodes_groupText {group : List Nat} (h : group ≠ []) :
    StyleCodes (groupText group) := by
  induction group with
  | nil => exact absurd rfl h
  | cons n group ih =>
    cases group with
    | nil => exact groupText_singleton n ▸ styleCodes_valueText n
    | cons m group =>
      rw [groupText_cons_cons]
      exact (styleCodes_valueText n).append (.inr rfl) (ih (List.cons_ne_nil m group))

/-- Written parameters are made of numbers. -/
theorem styleCodes_paramsText {params : List (List Nat)} (hne : params ≠ [])
    (hgroups : ∀ group ∈ params, group ≠ []) : StyleCodes (paramsText params) := by
  induction params with
  | nil => exact absurd rfl hne
  | cons group params ih =>
    obtain ⟨hgroup, hparams⟩ := List.forall_mem_cons.1 hgroups
    cases params with
    | nil => exact paramsText_singleton group ▸ styleCodes_groupText hgroup
    | cons next params =>
      rw [paramsText_cons_cons]
      exact (styleCodes_groupText hgroup).append (.inl rfl)
        (ih (List.cons_ne_nil next params) hparams)

/-- The characters between an escape and the end of its sequence are no controls. -/
theorem StyleCodes.isControl_eq_false {cs : List Char} (h : StyleCodes cs) :
    ∀ c ∈ cs, isControl c = false := by
  induction h with
  | number hne hds =>
    intro d hd
    have hdigit := Text.isDigit_iff.1 (hds d hd)
    rw [isControl, decide_eq_false (by omega), decide_eq_false (by omega), Bool.false_and,
      Bool.or_false]
  | append hcs hsep hds ihcs ihds =>
    refine List.forall_mem_append.2 ⟨ihcs, List.forall_mem_cons.2 ⟨?_, ihds⟩⟩
    rcases hsep with rfl | rfl <;> decide

/-- A written sequence is cleaned text. -/
theorem cleaned_sgrText {params : List (List Nat)} (h : Readable params) :
    Cleaned (sgrText params) := by
  have hcodes := styleCodes_paramsText h.ne_nil h.forall_ne_nil
  rw [sgrText_eq]
  refine Cleaned.cons (fun _ => .inl rfl) (fun _ => ⟨_, hcodes, List.prefix_refl _⟩)
    (cleaned_of_not_control ?_)
  refine List.forall_mem_cons.2 ⟨by decide, List.forall_mem_append.2 ⟨?_, ?_⟩⟩
  · exact hcodes.isControl_eq_false
  · exact List.forall_mem_singleton.2 (by decide)

/-- What cleaning leaves of a token is cleaned text.  It is read back as one token, the same one,
and written again. -/
theorem Token.cleaned_cleaned {t : Token} (h : t.IsLegible) : Cleaned t.cleaned := by
  cases hkept : t.isKept with
  | false =>
    rw [cleaned_of_not_isKept hkept]
    exact cleaned_nil
  | true =>
    cases t with
    | glyph c => exact cleaned_of_not_control (List.forall_mem_singleton.2 h)
    | control c =>
      have hline : isLineControl c = true := hkept
      rw [cleaned, if_pos hline]
      refine Cleaned.cons (fun _ => .inr hline) (fun hc => ?_) cleaned_nil
      -- An escape is no control that a line keeps.
      subst hc
      exact absurd hline (by decide)
    | sequence params intermediates overfull final =>
      -- Of the sequences only those are kept that choose a style, and these are written in
      -- normal form.
      obtain ⟨codes, hcodes⟩ := Option.isSome_iff_exists.1 hkept
      obtain ⟨rfl, rfl, rfl, rfl⟩ := Token.sequence.inj (eq_of_sgr? hcodes)
      exact cleaned_sgrText (h rfl)

/-- What cleaning writes is cleaned text. -/
theorem cleaned_flatMap_cleaned {ts : List Token} (h : ∀ t ∈ ts, t.IsLegible) :
    Cleaned (ts.flatMap Token.cleaned) := by
  induction ts with
  | nil => exact cleaned_nil
  | cons t ts ih =>
    obtain ⟨ht, hts⟩ := List.forall_mem_cons.1 h
    rw [List.flatMap_cons]
    exact (Token.cleaned_cleaned ht).append (ih hts)

/-! ### Normal texts

Cleaning a text twice is cleaning it once because a cleaned text reads back as the tokens that it
was written from, each of which is kept again. -/

/-- A text that is written from tokens which cleaning keeps.  It is what cleaning can give, told
without cleaning. -/
def IsNormal (cs : List Char) : Prop :=
  ∃ ts : List Token, (∀ t ∈ ts, t.IsLegible ∧ t.isKept = true) ∧ cs = ts.flatMap Token.cleaned

/-- Tokens that cleaning drops make no difference to what it writes. -/
theorem flatMap_cleaned_filter (ts : List Token) :
    (ts.filter Token.isKept).flatMap Token.cleaned = ts.flatMap Token.cleaned := by
  induction ts with
  | nil => rfl
  | cons t ts ih =>
    cases hkept : t.isKept with
    | false =>
      rw [List.filter_cons_of_neg (Bool.eq_false_iff.1 hkept), ih, List.flatMap_cons,
        Token.cleaned_of_not_isKept hkept, List.nil_append]
    | true => rw [List.filter_cons_of_pos hkept, List.flatMap_cons, List.flatMap_cons, ih]

/-- Cleaning leaves a text of its own form as it is. -/
theorem cleanChars_of_isNormal {cs : List Char} (h : IsNormal cs) : cleanChars cs = cs := by
  obtain ⟨ts, hts, rfl⟩ := h
  have hread := Scanner.run_flatMap_cleaned fun t ht => (hts t ht).1
  rw [cleanChars, tokens, hread, List.reverse_reverse, flatMap_cleaned_filter]

/-- What cleaning leaves of a text is normal. -/
theorem isNormal_cleanChars (cs : List Char) : IsNormal (cleanChars cs) := by
  refine ⟨(tokens cs).filter Token.isKept, fun t ht => ?_, ?_⟩
  · obtain ⟨ht, hkept⟩ := List.mem_filter.1 ht
    exact ⟨isLegible_of_mem_tokens t ht, hkept⟩
  · rw [flatMap_cleaned_filter, cleanChars]

/-- The normal texts are those that cleaning does not change. -/
theorem cleanChars_eq_self_iff {cs : List Char} : cleanChars cs = cs ↔ IsNormal cs :=
  ⟨fun h => h ▸ isNormal_cleanChars cs, cleanChars_of_isNormal⟩

/-- **Cleaned text is in normal form.**  Cleaning it again changes nothing, every escape in
it begins a complete sequence of style codes, and the only other control characters in it
lay out a line.  The texts that cleaning does not change are exactly the normal ones. -/
theorem clean_clean_and_cleaned (text : String) :
    clean (clean text) = clean text ∧ Cleaned (clean text).toList ∧
      (clean text = text ↔ IsNormal text.toList) := by
  refine ⟨?_, ?_, ?_⟩
  · rw [clean, toList_clean, cleanChars_of_isNormal (isNormal_cleanChars _), clean]
  · rw [toList_clean]
    exact cleaned_flatMap_cleaned isLegible_of_mem_tokens
  · rw [← String.toList_inj, toList_clean]
    exact cleanChars_eq_self_iff

end ConsoleReplay.Capture
