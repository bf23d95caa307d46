import ConsoleReplay.Text.Blank

/-!
# Words and the blanks between them

A text is its words with at least one blank between two of them and any blanks around them.
Which blanks they are, and how many, is not seen in the words.

## Main definitions

* `Text.IsWord w` — `w` is not empty and holds no blank.
* `Text.Spaced cs ws` — `cs` is the words `ws` with their blanks.

## Main results

* `Text.words_eq_iff` — **the words of a text are the ones that it is written of**.
-/

namespace ConsoleReplay.Text

/-- A word: something is written, and nothing in it is blank. -/
structure IsWord (w : List Char) : Prop where
  ne_nil : w ≠ []
  not_blank : ∀ c ∈ w, isBlank c = false

theorem isWord_iff {w : List Char} : IsWord w ↔ w ≠ [] ∧ w.all (!isBlank ·) = true := by
  simp only [List.all_eq_true, Bool.not_eq_true']
  exact ⟨fun hw => ⟨hw.ne_nil, hw.not_blank⟩, fun ⟨hne, hblank⟩ => ⟨hne, hblank⟩⟩

instance (w : List Char) : Decidable (IsWord w) := decidable_of_iff' _ isWord_iff

/-- A text written of words.  A word that has something behind it has a blank right behind it. -/
inductive Spaced : List Char → List (List Char) → Prop
  | nil : Spaced [] []
  | blank {c : Char} {cs : List Char} {ws : List (List Char)} (hc : isBlank c = true)
      (hcs : Spaced cs ws) : Spaced (c :: cs) ws
  | last {w : List Char} (hw : IsWord w) : Spaced w [w]
  | word {w rest : List Char} {c : Char} {ws : List (List Char)} (hw : IsWord w)
      (hc : isBlank c = true) (hrest : Spaced rest ws) : Spaced (w ++ c :: rest) (w :: ws)

/-! ### Reading words -/

/-- The words that were read, with the one in progress if there is any. -/
def closeWords (s : List (List Char) × List Char) : List (List Char) :=
  (if s.2.isEmpty then s.1 else s.2.reverse :: s.1).reverse

/-- Characters that are not blank extend the word in progress. -/
theorem foldl_wordStep (done : List (List Char)) {w : List Char} (h : ∀ c ∈ w, isBlank c = false)
    (front : List Char) : w.foldl wordStep (done, front) = (done, w.reverse ++ front) := by
  induction w generalizing front with
  | nil => rfl
  | cons c w ih =>
    obtain ⟨hc, hw⟩ := List.forall_mem_cons.1 h
    have hstep : wordStep (done, front) c = (done, c :: front) := by simp [wordStep, hc]
    rw [List.foldl_cons, hstep, ih hw, List.reverse_cons, List.append_assoc, List.singleton_append]

theorem wordStep_blank (done : List (List Char)) {w : List Char} (hw : w ≠ []) {c : Char}
    (hc : isBlank c = true) : wordStep (done, w.reverse) c = (w :: done, []) := by
  simp [wordStep, hc, hw]

/-- A text written of words is read word by word. -/
theorem Spaced.closeWords_foldl {cs : List Char} {ws : List (List Char)} (h : Spaced cs ws)
    (done : List (List Char)) :
    closeWords (cs.foldl wordStep (done, [])) = done.reverse ++ ws := by
  -- The words that are done run along; the open word is empty wherever a rule begins.
  induction h generalizing done with
  | nil => simp [closeWords]
  | @blank c _ _ hc _ ih =>
    have hstep : wordStep (done, []) c = (done, []) := by simp [wordStep, hc]
    rw [List.foldl_cons, hstep, ih]
  | last hw =>
    rw [foldl_wordStep done hw.not_blank]
    simp [closeWords, hw.ne_nil]
  | word hw hc _ ih =>
    rw [List.foldl_append, foldl_wordStep done hw.not_blank, List.append_nil, List.foldl_cons,
      wordStep_blank done hw.ne_nil hc, ih, List.reverse_cons, List.append_assoc,
      List.singleton_append]

/-- What a text is written of is what is read from it. -/
theorem Spaced.words_eq {cs : List Char} {ws : List (List Char)} (h : Spaced cs ws) :
    words cs = ws :=
  h.closeWords_foldl []

/-- Every text is written of words. -/
theorem exists_spaced (cs : List Char) : ∃ ws, Spaced cs ws := by
  induction cs with
  | nil => exact ⟨_, .nil⟩
  | cons c cs ih =>
    obtain ⟨ws, h⟩ := ih
    cases hc : isBlank c with
    | true => exact ⟨_, .blank hc h⟩
    | false =>
      have hword {w : List Char} (hw : ∀ d ∈ w, isBlank d = false) : IsWord (c :: w) :=
        ⟨List.cons_ne_nil c w, List.forall_mem_cons.2 ⟨hc, hw⟩⟩
      -- The character begins a word of its own before a blank, and joins the word after it.
      cases h with
      | nil => exact ⟨_, .last (hword (List.forall_mem_nil _))⟩
      | blank hblank hrest => exact ⟨_, .word (hword (List.forall_mem_nil _)) hblank hrest⟩
      | last hw => exact ⟨_, .last (hword hw.not_blank)⟩
      | word hw hblank hrest => exact ⟨_, .word (hword hw.not_blank) hblank hrest⟩

/-- **The words of a text are the ones that it is written of.** -/
theorem words_eq_iff {cs : List Char} {ws : List (List Char)} : words cs = ws ↔ Spaced cs ws := by
  constructor
  · rintro rfl
    obtain ⟨ws, h⟩ := exists_spaced cs
    rwa [h.words_eq]
  · exact Spaced.words_eq

end ConsoleReplay.Text
