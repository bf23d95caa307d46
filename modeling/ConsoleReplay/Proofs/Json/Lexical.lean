import ConsoleReplay.Json.Reader
import Mathlib.Data.List.Basic
import Mathlib.Data.List.DropRight
import Mathlib.Data.List.Infix

/-!
# Words, strings and numerals in front of more text

The reader takes as much of a text as it can and leaves the rest.  What it takes of a word, a
string or a numeral stays the same when more text follows, unless a numeral goes on in it.

## Main definitions

* `Json.Reader.Ends tail` — no numeral goes on at the front of a text.
* `Json.Reader.Extends tail read` — `read` takes of a text with the tail what it takes of the text.

## Main results

* `Json.Reader.literal_eq_some_iff` — words.
* `Json.Reader.string_extends`, `Json.Reader.numeral_extends` — more text makes no difference.
* `Json.Reader.string_suffix`, `Json.Reader.numeral_suffix` — what is left is the end of the text.
-/

namespace ConsoleReplay.Json.Reader

/-- No numeral goes on at the front of the text.  Numerals are the only values whose end is not
marked. -/
def Ends (tail : List Char) : Prop :=
  ∀ c, tail.head? = some c → c.isDigit = false ∧ c ≠ '.' ∧ c ≠ 'e' ∧ c ≠ 'E'

/-- Whatever is taken from the front of a text is taken from the front of the text with a tail, and
leaves the tail. -/
def Extends {α : Type} (tail : List Char) (read : List Char → Option (α × List Char)) : Prop :=
  ∀ ⦃cs : List Char⦄ ⦃x : α⦄ ⦃rest : List Char⦄, read cs = some (x, rest) →
    read (cs ++ tail) = some (x, rest ++ tail)

/-! ### Blanks -/

theorem skipSpace_of_cons {cs : List Char} {c : Char} {rest : List Char}
    (h : skipSpace cs = c :: rest) (tail : List Char) :
    skipSpace (cs ++ tail) = c :: (rest ++ tail) := by
  rw [skipSpace, List.dropWhile_append, if_neg]
  · exact congrArg (· ++ tail) h
  · rw [← skipSpace, h]
    exact Bool.false_ne_true

theorem skipSpace_of_nil {cs : List Char} (h : skipSpace cs = []) (tail : List Char) :
    skipSpace (cs ++ tail) = skipSpace tail := by
  rw [skipSpace, List.dropWhile_append, if_pos]
  · rfl
  · rw [← skipSpace, h]
    rfl

theorem skipSpace_skipSpace (cs : List Char) : skipSpace (skipSpace cs) = skipSpace cs :=
  List.dropWhile_idempotent isSpace cs

theorem length_of_skipSpace {cs : List Char} {c : Char} {rest : List Char}
    (h : skipSpace cs = c :: rest) : rest.length < cs.length := by
  have hle : (skipSpace cs).length ≤ cs.length := List.length_dropWhile_le isSpace cs
  rwa [h] at hle

/-! ### Strings and words -/

theorem stringBody_extends (done : List Nat) (tail : List Char) :
    Extends tail (stringBody done) := by
  intro cs points rest h
  fun_induction stringBody done cs with
  | case1 => cases h
  | case2 done rest' =>
    cases h
    simp [stringBody]
  | case3 done a b c d rest' n hhex ih => simp [stringBody, hhex, ih h]
  | case4 => cases h
  | case5 done c rest' hunicode d hescape ih =>
    have hc : c ≠ 'u' := by
      rintro rfl
      cases hescape
    rw [List.cons_append, List.cons_append, stringBody, hescape]
    · exact ih h
    · rintro _ _ _ _ _ rfl
      exact absurd rfl hc
  | case6 => cases h
  | case7 => cases h
  | case8 done c rest' hquote hunicode hsimple hplain ih =>
    -- A backslash is no character that stands for itself.
    have hc : c ≠ '\\' := by
      rintro rfl
      exact hplain rfl
    rw [List.cons_append, stringBody, if_neg hplain]
    · exact ih h
    · exact fun heq => hquote heq
    · exact fun _ _ _ _ _ heq _ => hc heq
    · exact fun _ _ heq _ => hc heq

theorem stringBody_suffix {done points : List Nat} {cs rest : List Char}
    (h : stringBody done cs = some (points, rest)) : rest <:+ cs := by
  fun_induction stringBody done cs with
  | case1 => cases h
  | case2 done rest' =>
    cases h
    exact List.suffix_cons _ _
  | case3 done a b c d rest' n hhex ih => exact (ih h).trans ⟨['\\', 'u', a, b, c, d], rfl⟩
  | case4 => cases h
  | case5 done c rest' hunicode d hescape ih => exact (ih h).trans ⟨['\\', c], rfl⟩
  | case6 => cases h
  | case7 => cases h
  | case8 done c rest' hquote hunicode hsimple hplain ih => exact (ih h).trans ⟨[c], rfl⟩

theorem string_extends (tail : List Char) : Extends tail string := by
  intro cs s rest h
  obtain ⟨⟨points, rest'⟩, hbody, heq⟩ := Option.map_eq_some_iff.1 h
  cases heq
  rw [string, stringBody_extends [] tail hbody]
  rfl

theorem string_suffix {cs rest : List Char} {s : Option String} (h : string cs = some (s, rest)) :
    rest <:+ cs := by
  obtain ⟨⟨points, rest'⟩, hbody, heq⟩ := Option.map_eq_some_iff.1 h
  cases heq
  exact stringBody_suffix hbody

/-- A word is read where it stands. -/
theorem literal_eq_some_iff {word : String} {cs rest : List Char} :
    literal word cs = some rest ↔ cs = word.toList ++ rest := by
  rw [literal]
  constructor
  · intro h
    split at h
    · next hprefix =>
      cases h
      exact (List.prefix_iff_eq_append.1 (List.isPrefixOf_iff_prefix.1 hprefix)).symm
    · cases h
  · rintro rfl
    rw [if_pos (List.isPrefixOf_iff_prefix.2 (List.prefix_append _ _)), List.drop_left]

/-! ### Numerals

A string and a word end by themselves; a numeral ends where what follows cannot go on with it.  So
a text may only be put behind one if it does not. -/

variable {tail : List Char}

theorem digits_append (htail : Ends tail) (cs : List Char) :
    digits (cs ++ tail) = ((digits cs).1, (digits cs).2 ++ tail) := by
  induction cs with
  | nil =>
    cases tail with
    | nil => rfl
    | cons c tail => simp [digits, (htail c rfl).1]
  | cons c cs ih =>
    simp only [digits, Prod.mk.injEq] at ih
    by_cases hc : c.isDigit = true
    · simp [digits, hc, ih.1, ih.2]
    · simp [digits, hc]

theorem digits_suffix (cs : List Char) : (digits cs).2 <:+ cs :=
  List.dropWhile_suffix Char.isDigit

theorem digits_suffix_of_digit {c : Char} (h : c.isDigit = true) (cs : List Char) :
    (digits (c :: cs)).2 <:+ cs := by
  have hcs : (digits (c :: cs)).2 = (digits cs).2 := List.dropWhile_cons_of_pos h
  rw [hcs]
  exact digits_suffix cs

/-! #### Fractions -/

theorem fraction_of_ne {c : Char} (h : c ≠ '.') (cs : List Char) :
    fraction (c :: cs) = some ([], c :: cs) := by
  unfold fraction
  split
  · next heq =>
    cases heq
    exact absurd rfl h
  · rfl

theorem fraction_tail (htail : Ends tail) : fraction tail = some ([], tail) := by
  cases tail with
  | nil => rfl
  | cons c tail => exact fraction_of_ne (htail c rfl).2.1 tail

theorem fraction_extends (htail : Ends tail) : Extends tail fraction := by
  intro cs ds rest h
  cases cs with
  | nil =>
    cases h
    exact fraction_tail htail
  | cons c cs =>
    by_cases hc : c = '.'
    · subst hc
      rw [fraction] at h
      rw [List.cons_append, fraction, digits_append htail]
      generalize digits cs = front at h ⊢
      -- A dot without digits is an error, which the hypothesis excludes.
      obtain ⟨_ | ⟨d, ds'⟩, rest'⟩ := front <;> cases h
      rfl
    · rw [fraction_of_ne hc] at h
      cases h
      exact fraction_of_ne hc _

theorem fraction_suffix {cs rest : List Char} {ds : List Nat}
    (h : fraction cs = some (ds, rest)) : rest <:+ cs := by
  unfold fraction at h
  split at h
  · next inner =>
    have hsuffix := (digits_suffix inner).trans (List.suffix_cons '.' inner)
    generalize digits inner = front at h hsuffix
    obtain ⟨_ | ⟨d, ds'⟩, rest'⟩ := front <;> cases h
    exact hsuffix
  · cases h
    exact List.suffix_rfl

/-! #### Exponents -/

/-- The sign at the front of the digits of an exponent, and the rest. -/
def sign : List Char → Bool × List Char
  | '+' :: cs => (false, cs)
  | '-' :: cs => (true, cs)
  | cs => (false, cs)

theorem sign_suffix (cs : List Char) : (sign cs).2 <:+ cs := by
  unfold sign
  split
  · exact List.suffix_cons _ _
  · exact List.suffix_cons _ _
  · exact List.suffix_rfl

/-- A sign and what is after it stay apart from a tail. -/
theorem sign_append {cs : List Char} (h : cs ≠ []) (tail : List Char) :
    sign (cs ++ tail) = ((sign cs).1, (sign cs).2 ++ tail) := by
  cases cs with
  | nil => exact absurd rfl h
  | cons c cs =>
    by_cases hplus : c = '+'
    · rw [hplus]
      rfl
    by_cases hminus : c = '-'
    · rw [hminus]
      rfl
    -- Any other character is not a sign, so the text stays as it is, with the tail or without
    -- it.
    have hplain (cs : List Char) : sign (c :: cs) = (false, c :: cs) := by
      simp [sign, hplus, hminus]
    rw [List.cons_append, hplain, hplain]
    rfl

theorem exponent_of_mark {c : Char} (h : (c == 'e' || c == 'E') = true) (cs : List Char) :
    exponent (c :: cs) = match digits (sign cs).2 with
      | ([], _) => none
      | (ds, rest) => some (some ((sign cs).1, ds), rest) := by
  unfold exponent
  dsimp only
  rw [if_pos h]
  rfl

theorem exponent_of_ne {c : Char} (h : (c == 'e' || c == 'E') = false) (cs : List Char) :
    exponent (c :: cs) = some (none, c :: cs) := by
  unfold exponent
  dsimp only
  rw [if_neg (ne_true_of_eq_false h)]

theorem exponent_tail (htail : Ends tail) : exponent tail = some (none, tail) := by
  cases tail with
  | nil => rfl
  | cons c tail =>
    obtain ⟨-, -, he, hE⟩ := htail c rfl
    exact exponent_of_ne (by simp [he, hE]) tail

theorem exponent_extends (htail : Ends tail) : Extends tail exponent := by
  intro cs exp rest h
  cases cs with
  | nil =>
    cases h
    exact exponent_tail htail
  | cons c cs =>
    cases hc : c == 'e' || c == 'E' with
    | true =>
      rw [exponent_of_mark hc] at h
      -- A sign that is missing here is not found in the tail: there are digits before it.
      have hne : cs ≠ [] := by
        rintro rfl
        cases h
      rw [List.cons_append, exponent_of_mark hc, sign_append hne, digits_append htail]
      generalize digits (sign cs).2 = front at h ⊢
      obtain ⟨_ | ⟨d, ds⟩, rest'⟩ := front <;> cases h
      rfl
    | false =>
      rw [exponent_of_ne hc] at h
      cases h
      exact exponent_of_ne hc _

theorem exponent_suffix {cs rest : List Char} {exp : Option (Bool × List Nat)}
    (h : exponent cs = some (exp, rest)) : rest <:+ cs := by
  cases cs with
  | nil =>
    cases h
    exact List.suffix_rfl
  | cons c cs =>
    cases hc : c == 'e' || c == 'E' with
    | true =>
      rw [exponent_of_mark hc] at h
      -- The mark, the sign and the digits are taken one after another, so the suffixes are
      -- chained.
      have hsuffix := ((digits_suffix (sign cs).2).trans (sign_suffix cs)).trans
        (List.suffix_cons c cs)
      generalize digits (sign cs).2 = front at h hsuffix
      obtain ⟨_ | ⟨d, ds⟩, rest'⟩ := front <;> cases h
      exact hsuffix
    | false =>
      rw [exponent_of_ne hc] at h
      cases h
      exact List.suffix_rfl

/-! #### Whole numerals -/

/-- A numeral has digits that are not zero and more of them, a fraction and an exponent.  The reader
takes them in this order and fails at the first that is not there. -/
theorem numeral_eq_some_iff {negative : Bool} {cs rest : List Char} {j : Json} :
    numeral negative cs = some (j, rest) ↔
      ∃ frac exp afterFraction, (digits cs).1 ≠ [] ∧ (∀ d ds, (digits cs).1 ≠ 0 :: d :: ds)
        ∧ fraction (digits cs).2 = some (frac, afterFraction)
        ∧ exponent afterFraction = some (exp, rest)
        ∧ j = Numeral.value ⟨negative, (digits cs).1, frac, exp⟩ := by
  unfold numeral
  generalize digits cs = front
  obtain ⟨whole, afterDigits⟩ := front
  -- The three branches are no digits, a zero with more digits, and a number; the first two
  -- contradict the conditions on the right.
  split
  · simp_all
  · simp_all
  · next ds rest' hne hzero heq =>
    cases heq
    simp only [Option.bind_eq_bind, Option.bind_eq_some_iff, Prod.exists]
    constructor
    · rintro ⟨_, _, hwhole, frac, afterFraction, hfrac, exp, _, hexp, hj⟩
      cases hwhole
      cases hj
      exact ⟨frac, exp, afterFraction, hne, hzero, hfrac, hexp, rfl⟩
    · rintro ⟨frac, exp, afterFraction, -, -, hfrac, hexp, rfl⟩
      exact ⟨_, _, rfl, frac, afterFraction, hfrac, exp, rest, hexp, rfl⟩

theorem numeral_extends (htail : Ends tail) (negative : Bool) :
    Extends tail (numeral negative) := by
  intro cs j rest h
  rw [numeral_eq_some_iff] at h ⊢
  obtain ⟨frac, exp, afterFraction, hne, hzero, hfrac, hexp, hj⟩ := h
  rw [digits_append htail]
  exact ⟨frac, exp, afterFraction ++ tail, hne, hzero, fraction_extends htail hfrac,
    exponent_extends htail hexp, hj⟩

theorem numeral_suffix {negative : Bool} {cs rest : List Char} {j : Json}
    (h : numeral negative cs = some (j, rest)) : rest <:+ (digits cs).2 := by
  obtain ⟨frac, exp, afterFraction, -, -, hfrac, hexp, -⟩ := numeral_eq_some_iff.1 h
  exact (exponent_suffix hexp).trans (fraction_suffix hfrac)

end ConsoleReplay.Json.Reader
