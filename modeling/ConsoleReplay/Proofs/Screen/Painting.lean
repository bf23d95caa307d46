import ConsoleReplay.Proofs.Screen.Dense
import ConsoleReplay.Proofs.Style.Runs
import ConsoleReplay.Screen.Runs

/-!
# Rows told by their runs

For painting, a row is told as runs.  Nothing that can be seen is lost in this: written out cell
by cell, the runs are the row without the plain spaces at its end.  A space in a style stays, also
at the end.  Neighbouring cells in one style are in one run, and there is only one list of runs
that tells a row in this way.

The plain text of a row is trimmed by another rule, which takes all white space off whatever its
style is.  It is the text of the runs all the same, trimmed by that rule: what the runs leave out
is white space too.

## Main definitions

* `Trimmed cells front` — all plain spaces at the end are left out, and nothing else.
* `Row.PaintedBy row runs` — runs that tell a row.

## Main results

* `trimmed_iff` — there is one way to leave the plain spaces at the end out.
* `Row.paintedBy_iff` — there is one way to tell a row by runs.
* `Screen.runs_tell_rows` — **runs tell the rows of a screen**, cells and text.
-/

namespace ConsoleReplay

/-! ### Plain spaces at the end -/

/-- Cells without the plain spaces at their end: all of these are left out, and nothing else is. -/
structure Trimmed (cells front : List Cell) : Prop where
  exists_eq : ∃ n, cells = front ++ List.replicate n Cell.blank
  getLast?_ne : front.getLast? ≠ some .blank

theorem trimmed_paintedCells (row : Row) : Trimmed row.cells row.paintedCells where
  exists_eq := by
    -- What was taken off the end are plain spaces and nothing else.
    let spaces := row.cells.reverse.takeWhile (· == Cell.blank)
    have hspaces : spaces = List.replicate spaces.length .blank := by
      refine List.eq_replicate_of_mem fun cell hcell => ?_
      exact eq_of_beq (List.all_eq_true.1 List.all_takeWhile cell hcell)
    refine ⟨spaces.length, ?_⟩
    rw [← List.reverse_replicate, ← hspaces, Row.paintedCells, ← List.reverse_append,
      List.takeWhile_append_dropWhile, List.reverse_reverse]
  getLast?_ne := by
    intro hlast
    rw [Row.paintedCells, List.getLast?_reverse] at hlast
    have hhead := List.head?_dropWhile_not (· == Cell.blank) row.cells.reverse
    rw [hlast] at hhead
    exact absurd hhead (by decide)

/-- There is one way to leave the plain spaces at the end out. -/
theorem trimmed_iff {row : Row} {front : List Cell} :
    Trimmed row.cells front ↔ front = row.paintedCells := by
  constructor
  · rintro ⟨⟨n, hcells⟩, hlast⟩
    have hspaces : ∀ cell ∈ List.replicate n Cell.blank, (cell == Cell.blank) = true := by
      intro cell hcell
      exact beq_of_eq (List.eq_of_mem_replicate hcell)
    -- A front that does not end in a plain space loses nothing when they are taken off.
    have hfront : front.reverse.dropWhile (· == Cell.blank) = front.reverse := by
      cases hreverse : front.reverse with
      | nil => rfl
      | cons last rest =>
        have hne : last ≠ .blank := by
          rintro rfl
          rw [← List.head?_reverse, hreverse] at hlast
          exact hlast rfl
        exact List.dropWhile_cons_of_neg (by simpa using hne)
    rw [Row.paintedCells, hcells, List.reverse_append, List.reverse_replicate,
      List.dropWhile_append_of_pos hspaces, hfront, List.reverse_reverse]
  · rintro rfl
    exact trimmed_paintedCells row

namespace Row

/-! ### Runs that tell a row -/

/-- Runs that tell a row: written out they are its cells without the plain spaces at the end, none
of them is empty, and neighbours differ in style. -/
structure PaintedBy (row : Row) (runs : List Run) : Prop where
  trimmed : Trimmed row.cells (runs.flatMap Run.cells)
  ne_nil : ∀ run ∈ runs, run.chars ≠ []
  apart : runs.IsChain fun run next => run.style ≠ next.style

/-- There is one way to tell a row by runs. -/
theorem paintedBy_iff {row : Row} {runs : List Run} : row.PaintedBy runs ↔ runs = row.runs := by
  constructor
  · rintro ⟨htrimmed, hne, hapart⟩
    exact Run.longest_iff.1 ⟨trimmed_iff.1 htrimmed, hne, hapart⟩
  · rintro rfl
    obtain ⟨hcells, hne, hapart⟩ := Run.longest_ofCells row.paintedCells
    exact ⟨trimmed_iff.2 hcells, hne, hapart⟩

/-- The text of runs, one after the other. -/
theorem toList_join_text (runs : List Run) :
    (String.join (runs.map Run.text)).toList = runs.flatMap Run.chars := by
  induction runs with
  | nil => rfl
  | cons run runs ih => simp [Run.text, ih]

/-- What the runs leave out of a row is left out of its text too. -/
theorem trimEnd_chars_runs (row : Row) :
    Text.trimEnd (row.runs.flatMap Run.chars) = row.shown := by
  obtain ⟨n, hcells⟩ := (trimmed_paintedCells row).exists_eq
  have hblank : Cell.blank.char = ' ' := rfl
  rw [runs, Run.flatMap_chars_ofCells, shown]
  conv_rhs => rw [hcells, List.map_append, List.map_replicate, hblank, Text.trimEnd_append_blanks]

end Row

namespace Screen

/-- **Runs tell the rows of a screen.**  Row by row there is one list of runs without empty runs and
with neighbours in different styles that, written out cell by cell, is the row without the longest
stretch of plain spaces at its end; it is what the cells give that are gathered one by one from the
front.  The texts of the runs, one after the other and without the white space at the end, are the
text of the row. -/
theorem runs_tell_rows (s : Screen) :
    List.Forall₂ (fun row runs => (∀ runs', Row.PaintedBy row runs' ↔ runs' = runs)
        ∧ runs = row.paintedCells.foldl Run.snoc []
        ∧ String.ofList (Text.trimEnd (String.join (runs.map Run.text)).toList) = row.text)
      s.rows s.runs := by
  rw [Screen.runs, List.forall₂_map_right_iff, List.forall₂_same]
  intro row _
  refine ⟨fun _ => Row.paintedBy_iff, (Run.foldl_snoc row.paintedCells).symm, ?_⟩
  rw [Row.toList_join_text, Row.trimEnd_chars_runs, Row.text]

/-- A space on a red ground stays where plain ones go, and the text shows neither. -/
example :
    let red : Style := { Style.plain with background := .normal .red }
    let row : Row := ⟨[⟨'a', .plain⟩, ⟨' ', red⟩, .blank, .blank], false⟩
    row.runs = [⟨['a'], .plain⟩, ⟨[' '], red⟩] ∧ row.shown = ['a'] := by
  decide

end Screen

end ConsoleReplay
