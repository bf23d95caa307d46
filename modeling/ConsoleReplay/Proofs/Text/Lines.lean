import ConsoleReplay.Text.Blank
import ConsoleReplay.Text.Lines
import Mathlib.Data.List.Basic
import Mathlib.Data.List.TakeWhile

/-!
# Lines and their ends

A text is its lines with an end after each of them, which is a line feed or a carriage return
and a line feed.  The last line may have no end.

## Main definitions

* `Text.Lined cs ls` — `cs` is the lines `ls` with their ends.

## Main results

* `Text.lines_eq_iff` — the lines of a text are the ones that it is written of.
* `Text.lined_trimStart` — trimming drops the blank lines at the front of a text and trims the
  line after them.
-/

namespace ConsoleReplay.Text

/-- A text written of lines.  A line that ends with a carriage return cannot have a bare line feed
after it, which would take the carriage return along. -/
inductive Lined : List Char → List (List Char) → Prop
  | nil : Lined [] []
  | last {line : List Char} (hline : '\n' ∉ line) (hne : line ≠ []) : Lined line [line]
  | feed {line rest : List Char} {ls : List (List Char)} (hline : '\n' ∉ line)
      (hreturn : line.getLast? ≠ some '\r') (hrest : Lined rest ls) :
      Lined (line ++ '\n' :: rest) (line :: ls)
  | returnFeed {line rest : List Char} {ls : List (List Char)} (hline : '\n' ∉ line)
      (hrest : Lined rest ls) : Lined (line ++ '\r' :: '\n' :: rest) (line :: ls)

/-! ### Reading lines -/

/-- The lines that were read, with the one in progress if there is any. -/
def closeLines (s : List (List Char) × List Char) : List (List Char) :=
  (if s.2.isEmpty then s.1 else s.2.reverse :: s.1).reverse

section

variable {α : Type} [BEq α] {lf cr : α}

/-- Items other than line feeds extend the line in progress. -/
theorem foldl_lineStep [LawfulBEq α] (done : List (List α)) {line : List α} (h : lf ∉ line)
    (front : List α) :
    line.foldl (lineStep lf cr) (done, front) = (done, line.reverse ++ front) := by
  induction line generalizing front with
  | nil => rfl
  | cons x line ih =>
    obtain ⟨hx, hline⟩ := List.ne_and_not_mem_of_not_mem_cons h
    have hstep : lineStep lf cr (done, front) x = (done, x :: front) :=
      if_neg fun heq => hx (eq_of_beq heq).symm
    rw [List.foldl_cons, hstep, ih hline, List.reverse_cons, List.append_assoc,
      List.singleton_append]

/-- The lines that are finished already stay in front of those that are read later. -/
theorem foldl_lineStep_append (xs : List α) (done base : List (List α)) (front : List α) :
    xs.foldl (lineStep lf cr) (done ++ base, front)
      = ((xs.foldl (lineStep lf cr) (done, front)).1 ++ base,
          (xs.foldl (lineStep lf cr) (done, front)).2) := by
  induction xs generalizing done front with
  | nil => rfl
  | cons x xs ih =>
    have hstep : lineStep lf cr (done ++ base, front) x
        = ((lineStep lf cr (done, front) x).1 ++ base, (lineStep lf cr (done, front) x).2) := by
      simp only [lineStep]
      split <;> rfl
    rw [List.foldl_cons, hstep, ih, List.foldl_cons]

/-- A line feed completes the line in progress. -/
theorem lineStep_feed [LawfulBEq α] (done : List (List α)) {line : List α}
    (h : line.getLast? ≠ some cr) :
    lineStep lf cr (done, line.reverse) lf = (line :: done, []) := by
  obtain rfl | ⟨init, x, rfl⟩ := List.eq_nil_or_concat' line
  · simp [lineStep]
  · have hx : x ≠ cr := by
      rintro rfl
      exact h List.getLast?_concat
    simp [lineStep, hx]

/-- A line feed completes the line in progress without a carriage return right before it. -/
theorem lineStep_returnFeed [LawfulBEq α] (done : List (List α)) (line : List α) :
    lineStep lf cr (done, cr :: line.reverse) lf = (line :: done, []) := by
  simp [lineStep]

/-- What a line feed completes is the first line. -/
theorem linesBy_of_lineStep [LawfulBEq α] {line first : List α} (h : lf ∉ line)
    (hfirst : lineStep lf cr ([], line.reverse) lf = ([first], [])) (rest : List α) :
    linesBy lf cr (line ++ lf :: rest) = first :: linesBy lf cr rest := by
  have hfold : rest.foldl (lineStep lf cr) ([first], []) = _ :=
    foldl_lineStep_append rest [] [first] []
  rw [linesBy, List.foldl_append, foldl_lineStep [] h, List.append_nil, List.foldl_cons, hfirst,
    hfold, linesBy]
  dsimp only
  split
  · rw [List.reverse_append, List.reverse_singleton, List.singleton_append]
  · rw [List.reverse_cons, List.reverse_append, List.reverse_singleton, List.reverse_cons,
      List.singleton_append, List.cons_append]

/-- What stands before the first line feed is the first line, but for a carriage return at its
end. -/
theorem exists_linesBy_cons [LawfulBEq α] (cr : α) {line : List α} (h : lf ∉ line)
    (rest : List α) :
    ∃ first, first <+: line ∧ linesBy lf cr (line ++ lf :: rest) = first :: linesBy lf cr rest := by
  by_cases hreturn : line.getLast? = some cr
  · obtain ⟨init, rfl⟩ := List.getLast?_eq_some_iff.1 hreturn
    refine ⟨init, List.prefix_append init [cr], linesBy_of_lineStep h ?_ rest⟩
    rw [List.reverse_append]
    exact lineStep_returnFeed [] init
  · exact ⟨line, List.prefix_rfl, linesBy_of_lineStep h (lineStep_feed [] hreturn) rest⟩

theorem linesBy_last [LawfulBEq α] {line : List α} (h : lf ∉ line) (hne : line ≠ []) :
    linesBy lf cr line = [line] := by
  rw [linesBy, foldl_lineStep [] h]
  simp [hne]

end

/-- A text written of lines is read line by line. -/
theorem Lined.closeLines_foldl {cs : List Char} {ls : List (List Char)} (h : Lined cs ls)
    (done : List (List Char)) :
    closeLines (cs.foldl (lineStep '\n' '\r') (done, [])) = done.reverse ++ ls := by
  -- The lines that are done run along; the line that is open is empty between two rules, which
  -- is what makes the induction go through.
  induction h generalizing done with
  | nil => simp [closeLines]
  | last hline hne =>
    rw [foldl_lineStep done hline]
    simp [closeLines, hne]
  | feed hline hreturn _ ih =>
    rw [List.foldl_append, foldl_lineStep done hline, List.append_nil, List.foldl_cons,
      lineStep_feed done hreturn, ih, List.reverse_cons, List.append_assoc, List.singleton_append]
  | @returnFeed line _ _ hline _ ih =>
    have hstep : lineStep '\n' '\r' (done, line.reverse) '\r' = (done, '\r' :: line.reverse) := rfl
    rw [List.foldl_append, foldl_lineStep done hline, List.append_nil, List.foldl_cons, hstep,
      List.foldl_cons, lineStep_returnFeed, ih, List.reverse_cons, List.append_assoc,
      List.singleton_append]

/-- What a text is written of is what is read from it. -/
theorem Lined.lines_eq {cs : List Char} {ls : List (List Char)} (h : Lined cs ls) :
    lines cs = ls :=
  h.closeLines_foldl []

/-- Every text is written of lines.  A carriage return right before a line feed belongs to the end
of the line, and a last line without an end is one if anything is on it. -/
theorem exists_lined (cs : List Char) : ∃ ls, Lined cs ls := by
  by_cases hfeed : '\n' ∈ cs
  · obtain ⟨line, rest, hcs, hline⟩ := List.eq_append_cons_of_mem hfeed
    have hlength : rest.length < cs.length := by
      rw [hcs, List.length_append, List.length_cons]
      omega
    obtain ⟨ls, hrest⟩ := exists_lined rest
    rw [hcs]
    -- A carriage return right before the line feed belongs to the end of the line.
    by_cases hreturn : line.getLast? = some '\r'
    · obtain ⟨init, rfl⟩ := List.getLast?_eq_some_iff.1 hreturn
      have hinit : '\n' ∉ init := fun hmem => hline (List.mem_append_left _ hmem)
      rw [List.append_assoc, List.singleton_append]
      exact ⟨_, .returnFeed hinit hrest⟩
    · exact ⟨_, .feed hline hreturn hrest⟩
  · obtain rfl | hne := eq_or_ne cs []
    · exact ⟨_, .nil⟩
    · exact ⟨_, .last hfeed hne⟩
termination_by cs.length

/-- Lines with a line feed after each of them, none with a carriage return at its end. -/
theorem lined_flatMap_feed {ls : List (List Char)}
    (h : ∀ line ∈ ls, '\n' ∉ line ∧ line.getLast? ≠ some '\r') :
    Lined (ls.flatMap (· ++ ['\n'])) ls := by
  induction ls with
  | nil => exact .nil
  | cons line ls ih =>
    obtain ⟨⟨hfeed, hreturn⟩, hls⟩ := List.forall_mem_cons.1 h
    rw [List.flatMap_cons, List.append_assoc, List.singleton_append]
    exact .feed hfeed hreturn (ih hls)

/-- A text begins with its first line. -/
theorem Lined.prefix_head {cs line : List Char} {ls : List (List Char)}
    (h : Lined cs (line :: ls)) : line <+: cs := by
  cases h with
  | last => exact List.prefix_rfl
  | feed => exact List.prefix_append _ _
  | returnFeed => exact List.prefix_append _ _

/-- The lines of a text are the ones that it is written of. -/
theorem lines_eq_iff {cs : List Char} {ls : List (List Char)} : lines cs = ls ↔ Lined cs ls := by
  constructor
  · rintro rfl
    obtain ⟨ls, h⟩ := exists_lined cs
    rwa [h.lines_eq]
  · exact Lined.lines_eq

/-! ### Blank lines at the front

Trimming knows nothing of lines.  Yet it takes whole lines, up to the one that shows something, as
both ends of a line are blanks. -/

theorem trimStart_cons_of_blank {c : Char} (h : isBlank c = true) (cs : List Char) :
    trimStart (c :: cs) = trimStart cs :=
  List.dropWhile_cons_of_pos h

theorem trimStart_append_of_blank {cs : List Char} (h : blankLine cs = true) (rest : List Char) :
    trimStart (cs ++ rest) = trimStart rest :=
  List.dropWhile_append_of_pos (List.all_eq_true.1 h)

theorem trimStart_ne_nil {cs : List Char} (h : blankLine cs = false) : trimStart cs ≠ [] := by
  rw [trimStart, Ne, List.dropWhile_eq_nil_iff]
  rw [blankLine, List.all_eq_false] at h
  obtain ⟨c, hc, hblank⟩ := h
  exact fun hall => hblank (hall c hc)

theorem blankLine_of_trimStart {cs inner : List Char} {c : Char}
    (h : trimStart cs = c :: inner) : blankLine cs = false := by
  rw [blankLine, ← Bool.not_eq_true, List.all_eq_true]
  intro hall
  rw [trimStart, List.dropWhile_eq_nil_iff.2 hall] at h
  cases h

theorem trimStart_append_of_not_blank {cs : List Char} (h : blankLine cs = false)
    (rest : List Char) : trimStart (cs ++ rest) = trimStart cs ++ rest := by
  rw [trimStart, List.dropWhile_append, if_neg]
  · rfl
  · rw [List.isEmpty_iff]
    exact trimStart_ne_nil h

/-- What is left after trimming ends like the text. -/
theorem getLast?_trimStart {cs : List Char} (h : blankLine cs = false) :
    (trimStart cs).getLast? = cs.getLast? := by
  obtain ⟨front, hfront⟩ := isSuffix_trimStart cs
  conv_rhs => rw [← hfront]
  rw [List.getLast?_append_of_ne_nil _ (trimStart_ne_nil h)]

/-- Trimming drops the blank lines at the front of a text and trims the line after them. -/
theorem lined_trimStart {cs : List Char} {blanks : List (List Char)} {first : List Char}
    {rest : List (List Char)} (h : Lined cs (blanks ++ first :: rest))
    (hblanks : ∀ line ∈ blanks, blankLine line = true) (hfirst : blankLine first = false) :
    Lined (trimStart cs) (trimStart first :: rest) := by
  have hmem : '\n' ∉ first → '\n' ∉ trimStart first := fun hline hfeed =>
    hline ((isSuffix_trimStart first).subset hfeed)
  -- A blank line and its end are blanks, so trimming takes off one line of the grammar after the
  -- other.
  induction blanks generalizing cs with
  | nil =>
    rw [List.nil_append] at h
    cases h with
    | last hline hne => exact .last (hmem hline) (trimStart_ne_nil hfirst)
    | feed hline hreturn hrest =>
      rw [trimStart_append_of_not_blank hfirst]
      exact .feed (hmem hline) (by rwa [getLast?_trimStart hfirst]) hrest
    | returnFeed hline hrest =>
      rw [trimStart_append_of_not_blank hfirst]
      exact .returnFeed (hmem hline) hrest
  | cons blank blanks ih =>
    obtain ⟨hblank, hblanks⟩ := List.forall_mem_cons.1 hblanks
    rw [List.cons_append] at h
    generalize htail : blanks ++ first :: rest = tail at h
    cases h with
    | last => exact absurd htail (List.append_ne_nil_of_right_ne_nil blanks (List.cons_ne_nil _ _))
    | feed hline hreturn hrest =>
      rw [trimStart_append_of_blank hblank, trimStart_cons_of_blank rfl]
      exact ih (htail ▸ hrest) hblanks
    | returnFeed hline hrest =>
      rw [trimStart_append_of_blank hblank, trimStart_cons_of_blank rfl,
        trimStart_cons_of_blank rfl]
      exact ih (htail ▸ hrest) hblanks

end ConsoleReplay.Text
