import ConsoleReplay.Proofs.Json.Grammar
import ConsoleReplay.Text.Blank
import Mathlib.Data.List.Basic
import Mathlib.Data.List.Forall2

/-!
# Texts that are one value

A text is read as a value if the grammar takes the value from its front and leaves blanks.  The
value shows in the first character, and values with commas between them make up an array.

## Main definitions

* `Json.opening?` — the character that an object or an array begins with.
* `Json.arrayText items` — the text of an array, of the texts of its items.

## Main results

* `Json.parse?_eq_some_iff` — what a text is read as.
* `Json.exists_skipSpace_of_parse?` — how a text begins that is read as an object or an array.
* `Json.parse?_arrayText` — the text of an array is read as the values of its items.
-/

namespace ConsoleReplay.Json

open Reader

/-- A text is read as a value if it is that value with blanks after it. -/
theorem parse?_eq_some_iff {cs : List Char} {j : Json} :
    parse? cs = some j ↔ ∃ rest, Reads .value cs j rest ∧ skipSpace rest = [] := by
  -- Two steps for every character and two more are enough fuel, whatever the text is.
  have hreads (j : Json) (rest : List Char) :
      value (2 * cs.length + 2) cs = some (j, rest) ↔ Reads .value cs j rest :=
    run_eq_some_iff .value (Nat.le_succ _)
  rw [parse?]
  split
  · next v rest hv =>
    have hv' := (hreads v rest).1 hv
    constructor
    · intro h
      split at h
      · next hskip =>
        cases h
        exact ⟨rest, hv', List.isEmpty_iff.1 hskip⟩
      · cases h
    · rintro ⟨rest', hrest', hskip⟩
      cases hv.symm.trans ((hreads j rest').2 hrest')
      rw [if_pos (List.isEmpty_iff.2 hskip)]
  · next hv =>
    constructor
    · intro h
      cases h
    · rintro ⟨rest', hrest', -⟩
      cases hv.symm.trans ((hreads j rest').2 hrest')

theorem parse?_skipSpace (cs : List Char) : parse? (skipSpace cs) = parse? cs := by
  refine Option.ext fun j => ?_
  simp only [parse?_eq_some_iff, reads_skipSpace]

/-! ### How a value begins -/

/-- The character that an object or an array begins with. -/
def opening? : Json → Option Char
  | .object _ => some '{'
  | .array _ => some '['
  | _ => none

theorem Numeral.opening?_value (n : Numeral) : n.value.opening? = none := by
  unfold Numeral.value
  dsimp only
  repeat' split
  all_goals rfl

theorem Reader.Reads.opening?_items {cs rest : List Char} {done : List Json} {j : Json}
    (h : Reads (.items done) cs j rest) : j.opening? = some '[' := by
  generalize hpart : Part.items done = part at h
  induction h generalizing done with
  | lastItem => rfl
  | item _ _ _ _ ih => exact ih rfl
  | _ => cases hpart

/-- Members make up an object, unless a name stands for nothing. -/
theorem Reader.Reads.opening?_members {cs rest : List Char}
    {done : Option (List (String × Json))} {j : Json} (h : Reads (.members done) cs j rest) :
    ∀ c, j.opening? = some c → c = '{' := by
  generalize hpart : Part.members done = part at h
  induction h generalizing done with
  | @lastMember _ _ _ _ _ _ _ name v =>
    intro c hc
    rw [objectOf] at hc
    generalize addMember _ name v = members at hc
    cases members <;> cases hc
    rfl
  | member _ _ _ _ _ _ _ ih => exact ih rfl
  | _ => cases hpart

theorem Reader.Reads.head?_of_opening? {cs rest : List Char} {j : Json} {c : Char}
    (h : Reads .value cs j rest) (hc : j.opening? = some c) : (skipSpace cs).head? = some c := by
  generalize hpart : Part.value = part at h
  -- A bracket or a quote can only come from the rule that has it as its first character; a
  -- numeral or a word gives values that no bracket opens.
  cases h with
  | emptyObject hopen | emptyArray hopen =>
    rw [hopen]
    exact hc
  | object hopen hmembers => rw [hopen, hmembers.opening?_members c hc, List.head?_cons]
  | array hopen hitems =>
    rw [hopen, List.head?_cons]
    exact hitems.opening?_items.symm.trans hc
  | @string _ _ _ s => cases s <;> cases hc
  | negative _ hnumeral | positive _ _ hnumeral =>
    obtain ⟨_, _, _, _, _, _, _, rfl⟩ := numeral_eq_some_iff.1 hnumeral
    rw [Numeral.opening?_value] at hc
    cases hc
  | word _ hword =>
    simp only [words, List.mem_cons, Prod.mk.injEq, List.not_mem_nil, or_false] at hword
    obtain ⟨-, -, rfl⟩ | ⟨-, -, rfl⟩ | ⟨-, -, rfl⟩ := hword <;> cases hc
  | _ => cases hpart

/-- What is read as an object or an array begins with its opening character.  No other value begins
with a bracket. -/
theorem exists_skipSpace_of_parse? {cs : List Char} {j : Json} {c : Char} (h : parse? cs = some j)
    (hc : j.opening? = some c) : ∃ inner, skipSpace cs = c :: inner := by
  obtain ⟨rest, hreads, -⟩ := parse?_eq_some_iff.1 h
  have hhead := hreads.head?_of_opening? hc
  cases hskip : skipSpace cs with
  | nil =>
    rw [hskip] at hhead
    cases hhead
  | cons c' inner =>
    rw [hskip] at hhead
    cases hhead
    exact ⟨inner, rfl⟩

theorem isBlank_of_isSpace {c : Char} (h : isSpace c = true) : Text.isBlank c = true := by
  simp only [isSpace, Bool.or_eq_true, beq_iff_eq] at h
  obtain ((rfl | rfl) | rfl) | rfl := h <;> rfl

/-- Trimming a text takes no more than its blanks off the front of a value.  A text may begin with
blanks that are none in JSON, but then no value is read from it. -/
theorem trimStart_of_skipSpace {cs inner : List Char} {c : Char} (h : skipSpace cs = c :: inner)
    (hc : Text.isBlank c = false) : Text.trimStart cs = c :: inner := by
  induction cs with
  | nil => cases h
  | cons c' cs ih =>
    cases hspace : isSpace c' with
    | true =>
      rw [skipSpace, List.dropWhile_cons_of_pos hspace] at h
      rw [Text.trimStart, List.dropWhile_cons_of_pos (isBlank_of_isSpace hspace)]
      exact ih h
    | false =>
      rw [skipSpace, List.dropWhile_cons_of_neg (ne_true_of_eq_false hspace)] at h
      cases h
      exact List.dropWhile_cons_of_neg (ne_true_of_eq_false hc)

/-! ### Members of an object -/

theorem get?_eq_none_iff {members : List (String × Json)} {name : String} :
    (Json.object members).get? name = none ↔ ∀ member ∈ members, member.1 ≠ name := by
  rw [get?, Option.map_eq_none_iff, List.find?_eq_none]
  simp only [List.mem_reverse, beq_iff_eq]

/-! ### Arrays

Lines of JSON and an array of the same values differ in the text between the values.  A value is
read alike in both, since neither a comma nor a bracket goes on with a numeral. -/

/-- The text of an array, of the texts of its items. -/
def arrayText (items : List (List Char)) : List Char :=
  '[' :: (List.intercalate [','] items ++ [']'])

/-- Values with commas between them are the items of an array.  The texts are read one by one,
because a comma ends every value, also a numeral. -/
theorem reads_items_intercalate {texts : List (List Char)} {items : List Json}
    (h : List.Forall₂ (fun text item => parse? text = some item) texts items) (hne : texts ≠ [])
    (done : List Json) (rest : List Char) :
    Reads (.items done) (List.intercalate [','] texts ++ ']' :: rest)
      (.array (done.reverse ++ items)) rest := by
  induction h generalizing done with
  | nil => exact absurd rfl hne
  | @cons text item texts items hitem hitems ih =>
    obtain ⟨blanks, hreads, hblanks⟩ := parse?_eq_some_iff.1 hitem
    -- Neither a bracket nor a comma lets a numeral go on.
    cases hitems with
    | nil =>
      have hends : Ends (']' :: rest) := by
        rintro c ⟨⟩
        decide
      rw [List.intercalate_singleton, ← List.reverse_cons]
      exact .lastItem (hreads.append hends) (skipSpace_of_nil hblanks _)
    | cons =>
      have hmore := ih (List.cons_ne_nil _ _) (item :: done)
      rw [List.reverse_cons, List.append_assoc, List.singleton_append] at hmore
      rw [List.intercalate_cons_cons, List.append_assoc, List.append_assoc]
      have hends (tail : List Char) : Ends (',' :: tail) := by
        rintro c ⟨⟩
        decide
      exact .item (hreads.append (hends _)) (skipSpace_of_nil hblanks _) hmore

/-- The text of an array is read as the values of its items. -/
theorem parse?_arrayText {texts : List (List Char)} {items : List Json}
    (h : List.Forall₂ (fun text item => parse? text = some item) texts items) :
    parse? (arrayText texts) = some (.array items) := by
  rw [parse?_eq_some_iff]
  refine ⟨[], ?_, rfl⟩
  by_cases hne : texts = []
  · subst hne
    cases h
    exact .emptyArray rfl rfl
  · exact .array rfl (reads_items_intercalate h hne [] [])

end ConsoleReplay.Json
