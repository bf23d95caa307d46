/-!
# Blank characters and trimming

Blank means the Unicode property `White_Space`: the ASCII blanks, the next-line
control, the no-break space and the typographic spaces.  Trimming removes blanks
from an end of a text and nothing from its inside.

## Main definitions

* `isBlank c` — `c` has the property `White_Space`.
* `trimStart`, `trimEnd`, `trim` — a text without the blanks at its ends.
* `blankLine cs` — the text shows nothing: it is empty after trimming.
* `words cs` — the longest blank-free pieces of a text, in order.
-/

namespace ConsoleReplay.Text

/-- The characters with the Unicode property `White_Space`. Only these are blanks of a captured
text; JSON and settings have their own. -/
def isBlank (c : Char) : Bool :=
  let n := c.toNat
  (0x09 ≤ n && n ≤ 0x0d) || n == 0x20 || n == 0x85 || n == 0xa0 || n == 0x1680
    || (0x2000 ≤ n && n ≤ 0x200a) || n == 0x2028 || n == 0x2029 || n == 0x202f
    || n == 0x205f || n == 0x3000

/-- The text after its leading blanks. -/
def trimStart (cs : List Char) : List Char := cs.dropWhile isBlank

/-- The text up to its last character that is not blank. -/
def trimEnd (cs : List Char) : List Char := (cs.reverse.dropWhile isBlank).reverse

/-- The text without the blanks at either end. -/
def trim (cs : List Char) : List Char := trimEnd (trimStart cs)

/-- Whether a text consists of blanks alone. -/
def blankLine (cs : List Char) : Bool := cs.all isBlank

@[simp] theorem trimEnd_nil : trimEnd [] = [] := rfl

theorem trimEnd_append_blank (cs : List Char) {c : Char} (h : isBlank c = true) :
    trimEnd (cs ++ [c]) = trimEnd cs := by
  simp [trimEnd, h]

theorem isSuffix_trimStart (cs : List Char) : trimStart cs <:+ cs := List.dropWhile_suffix isBlank

theorem isPrefix_trimEnd (cs : List Char) : trimEnd cs <+: cs := by
  rw [trimEnd, ← List.reverse_suffix, List.reverse_reverse]
  exact List.dropWhile_suffix isBlank

/-- Trimming leaves characters of the text. -/
theorem mem_of_mem_trim {cs : List Char} {c : Char} (h : c ∈ trim cs) : c ∈ cs :=
  (isSuffix_trimStart cs).subset ((isPrefix_trimEnd (trimStart cs)).subset h)

theorem not_blank_of_head?_trimStart {cs : List Char} {c : Char}
    (h : (trimStart cs).head? = some c) : isBlank c = false := by
  have hhead := List.head?_dropWhile_not isBlank cs
  rw [trimStart] at h
  rwa [h] at hhead

/-- A trimmed text does not begin with a blank. -/
theorem not_blank_of_head?_trim {cs : List Char} {c : Char} (h : (trim cs).head? = some c) :
    isBlank c = false := by
  obtain ⟨rest, hrest⟩ := isPrefix_trimEnd (trimStart cs)
  have hstart : (trimStart cs).head? = some c := by
    rw [← hrest, List.head?_append, ← trim, h, Option.some_or]
  exact not_blank_of_head?_trimStart hstart

/-- A trimmed text does not end with a blank. -/
theorem not_blank_of_getLast?_trim {cs : List Char} {c : Char} (h : (trim cs).getLast? = some c) :
    isBlank c = false := by
  rw [trim, trimEnd, List.getLast?_reverse] at h
  exact not_blank_of_head?_trimStart h

theorem trimStart_of_not_blank {cs : List Char} (h : ∀ c ∈ cs.head?, isBlank c = false) :
    trimStart cs = cs := by
  cases cs with
  | nil => rfl
  | cons c cs => exact List.dropWhile_cons_of_neg (ne_true_of_eq_false (h c rfl))

/-- Trimming a text again changes nothing, so it makes no difference that both an analysis and its
policy trim what they look at. -/
theorem trim_trim (cs : List Char) : trim (trim cs) = trim cs := by
  have hstart : trimStart (trim cs) = trim cs :=
    trimStart_of_not_blank fun _ h => not_blank_of_head?_trim h
  have hend : trimStart (trim cs).reverse = (trim cs).reverse := by
    refine trimStart_of_not_blank fun c h => ?_
    rw [List.head?_reverse] at h
    exact not_blank_of_getLast?_trim h
  rw [trim, hstart, trimEnd, ← trimStart, hend, List.reverse_reverse]

/-- What trimming takes off a text are blanks. -/
theorem exists_eq_append_trim (cs : List Char) :
    ∃ lead trail, cs = lead ++ (trim cs ++ trail) ∧ (∀ c ∈ lead, isBlank c = true)
      ∧ ∀ c ∈ trail, isBlank c = true := by
  refine ⟨cs.takeWhile isBlank, ((trimStart cs).reverse.takeWhile isBlank).reverse, ?_, ?_, ?_⟩
  · rw [trim, trimEnd, ← List.reverse_append, List.takeWhile_append_dropWhile, List.reverse_reverse,
      trimStart, List.takeWhile_append_dropWhile]
  · exact List.all_eq_true.1 List.all_takeWhile
  · intro c hc
    exact List.all_eq_true.1 List.all_takeWhile c (List.mem_reverse.1 hc)

/-- One step of collecting words: a blank closes the word in progress, any other
character extends it.  Both the finished words and the word in progress are held
in reverse. -/
def wordStep : List (List Char) × List Char → Char → List (List Char) × List Char
  | (done, word), c =>
    if isBlank c then (if word.isEmpty then done else word.reverse :: done, []) else
      (done, c :: word)

/-- The longest pieces of a text without a blank, in order; none is empty. -/
def words (cs : List Char) : List (List Char) :=
  let (done, word) := cs.foldl wordStep ([], [])
  (if word.isEmpty then done else word.reverse :: done).reverse

end ConsoleReplay.Text
