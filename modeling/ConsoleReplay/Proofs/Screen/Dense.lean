import ConsoleReplay.Proofs.Screen.Grid

/-!
# A screen seen as a grid

Rows are stored only up to the rightmost cell written, and different operations cut, clear
and fill them in different ways.  None of it can be seen: read cell by cell, with a blank
for what is not stored, a screen is a grid, and every operation on the screen is the
operation of the grid.

## Main definitions

* `Screen.charAt s x y` — the character read at a place of a screen.
* `Screen.grid s` — the grid that a screen stands for.

## Main results

* `Screen.charAt_put`, `Screen.charAt_scrollUp`, `Screen.charAt_eraseLine`, ... — the
  character at a place after an operation.
* `Screen.grid_put`, `Screen.grid_write`, `Screen.grid_tab`, ... — an operation on the
  screen is that of the grid.
* `Terminal.shows_run` — **a run on a screen is the run on the grid**.
-/

namespace ConsoleReplay

namespace Text

/-- Blanks at the end are trimmed away. -/
theorem trimEnd_append_blanks (cs : List Char) (n : Nat) :
    trimEnd (cs ++ List.replicate n ' ') = trimEnd cs := by
  induction n with
  | zero => rw [List.replicate_zero, List.append_nil]
  | succ n ih =>
    have hblank : isBlank ' ' = true := rfl
    rw [List.replicate_succ', ← List.append_assoc, trimEnd_append_blank _ hblank, ih]

/-- What is read in a row that blanks were added to. -/
theorem getElem?_append_blanks {α : Type _} (blank : α) (cs : List α) (n x : Nat) :
    (cs ++ List.replicate n blank)[x]?.getD blank = cs[x]?.getD blank := by
  by_cases hx : x < cs.length
  · rw [List.getElem?_append_left hx]
  · rw [List.getElem?_append_right (by omega), List.getElem?_replicate,
      List.getElem?_eq_none (by omega)]
    split <;> rfl

/-- Two texts that read the same, with blanks after their ends, are trimmed to the same
text. -/
theorem trimEnd_congr {cs ds : List Char}
    (h : ∀ x : Nat, cs[x]?.getD ' ' = ds[x]?.getD ' ') :
    trimEnd cs = trimEnd ds := by
  let cs' := cs ++ List.replicate (ds.length - cs.length) ' '
  let ds' := ds ++ List.replicate (cs.length - ds.length) ' '
  -- The shorter text is made as long as the other one with blanks, which are trimmed off again.
  have hlen : cs'.length = ds'.length := by
    rw [List.length_append, List.length_append, List.length_replicate, List.length_replicate]
    omega
  have hsame : cs' = ds' := by
    refine List.ext_getElem hlen fun x hx hx' => ?_
    have hread : cs'[x]?.getD ' ' = ds'[x]?.getD ' ' := by
      rw [getElem?_append_blanks, getElem?_append_blanks, h x]
    rwa [List.getElem?_eq_getElem hx, List.getElem?_eq_getElem hx', Option.getD_some,
      Option.getD_some] at hread
  calc trimEnd cs = trimEnd cs' := (trimEnd_append_blanks cs _).symm
    _ = trimEnd ds' := by rw [hsame]
    _ = trimEnd ds := trimEnd_append_blanks ds _

end Text

namespace Row

/-- The character read at a column. -/
def charAt (row : Row) (x : Nat) : Char := (row.cellAt x).char

@[simp] theorem charAt_empty (x : Nat) : empty.charAt x = ' ' := by
  rw [charAt, cellAt_empty]
  rfl

@[simp] theorem charAt_touch (row : Row) (x : Nat) : row.touch.charAt x = row.charAt x := rfl

@[simp] theorem charAt_markClean (row : Row) (x : Nat) :
    row.markClean.charAt x = row.charAt x := rfl

theorem charAt_put (row : Row) (x x' : Nat) (cell : Cell) :
    (row.put x cell).charAt x' = if x' = x then cell.char else row.charAt x' := by
  rw [charAt, cellAt_put, charAt]
  split <;> rfl

theorem charAt_truncate (row : Row) (width x : Nat) :
    (row.truncate width).charAt x = if x < width then row.charAt x else ' ' := by
  rw [charAt, cellAt_truncate, charAt]
  split <;> rfl

/-- A row of spaces reads as blank, whether the spaces are stored or not. -/
theorem charAt_of_isBlank {row : Row} (h : row.isBlank = true) (x : Nat) : row.charAt x = ' ' := by
  rw [charAt, cellAt]
  cases hx : row.cells[x]? with
  | none => rfl
  | some cell =>
    rw [isBlank, List.all_eq_true] at h
    exact eq_of_beq (h cell (List.mem_of_getElem? hx))

/-- What a row shows is told by the characters read in it. -/
theorem shown_eq {row : Row} {cs : List Char} (h : ∀ x, row.charAt x = cs[x]?.getD ' ') :
    row.shown = Text.trimEnd cs := by
  refine Text.trimEnd_congr fun x => ?_
  rw [← h x, List.getElem?_map, charAt, cellAt]
  cases row.cells[x]? <;> rfl

/-- The cells up to a column, that column included, are made blank; the others stay. -/
theorem cellAt_blankThrough (row : Row) (x x' : Nat) (dirty : Bool) :
    (Row.mk (blankThrough row.cells x) dirty).cellAt x'
      = if x' ≤ x then .blank else row.cellAt x' := by
  have hlen : (List.replicate (min (x + 1) row.cells.length) Cell.blank).length
      = min (x + 1) row.cells.length := List.length_replicate
  simp only [cellAt, blankThrough]
  by_cases hfront : x' < min (x + 1) row.cells.length
  · rw [List.getElem?_append_left (by omega), List.getElem?_replicate_of_lt hfront,
      if_pos (by omega)]
    rfl
  · rw [List.getElem?_append_right (by omega), List.getElem?_drop, hlen]
    by_cases hstored : x + 1 ≤ row.cells.length
    · -- The blanks end at the column, and what follows has kept its place.
      rw [if_neg (by omega), show x + 1 + (x' - min (x + 1) row.cells.length) = x' by omega]
    · -- The row ends before the column: there is nothing behind the blanks.
      have hpast : row.cells.length ≤ x' := by omega
      rw [List.getElem?_eq_none (by omega), List.getElem?_eq_none hpast]
      split <;> rfl

/-- An erase clears what it covers and nothing else.  In a row that is emptied as a whole nothing
but spaces was left anyway. -/
theorem charAt_erase (row : Row) (x x' : Nat) (extent : Extent) :
    (row.erase x extent).charAt x' = if extent.covers x x' then ' ' else row.charAt x' := by
  cases extent with
  | toEnd =>
    rw [erase, charAt, cellAt_eraseFrom]
    simp only [Extent.covers, decide_eq_true_eq]
    by_cases hlt : x' < x
    · rw [if_pos hlt, if_neg (by omega)]
      rfl
    · rw [if_neg hlt, if_pos (by omega)]
      rfl
  | toStart =>
    have herased : (Row.mk (blankThrough row.cells x) true).charAt x'
        = if x' ≤ x then ' ' else row.charAt x' := by
      rw [charAt, cellAt_blankThrough]
      split <;> rfl
    simp only [erase, eraseThrough, Extent.covers, decide_eq_true_eq]
    -- A row of which only plain blanks are left is emptied, and reads the same as before.
    split
    · next hblank => rw [charAt_empty, ← herased, charAt_of_isBlank hblank]
    · exact herased
  | all => exact charAt_empty x'

end Row

namespace Screen

/-- The character read at a place; what is not stored reads as a blank. -/
def charAt (s : Screen) (x y : Nat) : Char := ((s.row? y).getD .empty).charAt x

/-- The grid that a screen stands for.  What a row does not store is a blank there. -/
def grid (s : Screen) : Grid where
  width := s.width
  height := s.height
  cells := Grid.tabulate s.width s.height s.charAt
  column := s.column
  line := s.line
  wrapPending := s.wrapPending

theorem charAt_of_getElem? {s : Screen} {y : Nat} {row : Row} (h : s.rows[y]? = some row)
    (x : Nat) : s.charAt x y = row.charAt x := by
  rw [charAt, row?, h]
  rfl

theorem charAt_grid (s : Screen) {x y : Nat} (hx : x < s.width) (hy : y < s.height) :
    s.grid.charAt x y = s.charAt x y := by
  have hcells : s.grid.charAt x y = s.grid.cells[y][x] := s.grid.charAt_of_lt hx hy
  rw [hcells]
  exact Grid.getElem_tabulate s.charAt hx hy

theorem charAt_blank (width height x : Nat) {y : Nat} (hy : y < max height 1) :
    (blank width height).charAt x y = ' ' := by
  have hrow : (blank width height).rows[y]? = some .empty := List.getElem?_replicate_of_lt hy
  rw [charAt_of_getElem? hrow, Row.charAt_empty]

/-- A screen stands for a grid that agrees with it in size and cursor and place by place.  It is how
all that follow are shown, since operations on a grid are told by places. -/
theorem grid_eq {s : Screen} {g : Grid} (hwidth : s.width = g.width) (hheight : s.height = g.height)
    (hcolumn : s.column = g.column) (hline : s.line = g.line)
    (hwrap : s.wrapPending = g.wrapPending)
    (hchar : ∀ x y, x < g.width → y < g.height → s.charAt x y = g.charAt x y) : s.grid = g := by
  obtain ⟨width, height, cells, column, line, wrap⟩ := g
  dsimp only at hwidth hheight hcolumn hline hwrap
  subst hwidth hheight hcolumn hline hwrap
  have hcells : Grid.tabulate s.width s.height s.charAt = cells := by
    refine Vector.ext fun y hy => Vector.ext fun x hx => ?_
    rw [Grid.getElem_tabulate s.charAt hx hy, hchar x y hx hy]
    exact Grid.charAt_of_lt _ hx hy
  rw [grid, hcells]

/-! ### The character at a place

A screen stores cells as far as they were written, a grid stores all.  They are compared by the
character that is read at a place, so that it does not matter what is stored. -/

section

variable {s : Screen} (h : s.WellFormed)

include h

theorem exists_row {y : Nat} (hy : y < s.height) : ∃ row, s.rows[y]? = some row := by
  have hlen : y < s.rows.length := by
    rw [h.length_rows]
    exact hy
  exact ⟨_, List.getElem?_eq_getElem hlen⟩

theorem charAt_updateRow {y : Nat} (hy : y < s.height) (z : Nat) (f : Row → Row) (x : Nat) :
    ∃ row, s.rows[y]? = some row
      ∧ (s.updateRow z f).charAt x y = if y = z then (f row).charAt x else s.charAt x y := by
  obtain ⟨row, hrow⟩ := exists_row h hy
  refine ⟨row, hrow, ?_⟩
  have hafter : (s.updateRow z f).rows[y]? = some (if y = z then f row else row) := by
    have hmodify := row?_updateRow s z y f
    rw [row?, row?, hrow] at hmodify
    rw [hmodify]
    split <;> rfl
  rw [charAt_of_getElem? hafter, charAt_of_getElem? hrow]
  split <;> rfl

theorem charAt_put (x y : Nat) (c : Char) (x' : Nat) {y' : Nat} (hy : y' < s.height) :
    (s.put x y c).charAt x' y'
      = if x' = min x (s.width - 1) ∧ y' = min y (s.height - 1) then c else s.charAt x' y' := by
  obtain ⟨row, hrow, hchar⟩ :=
    charAt_updateRow h hy (s.clampLine y) (·.put (s.clampColumn x) ⟨c, s.pen⟩) x'
  rw [put, hchar, Row.charAt_put, charAt_of_getElem? hrow, clampLine, clampColumn]
  by_cases hline : y' = min y (s.height - 1)
  · by_cases hcolumn : x' = min x (s.width - 1)
    · rw [if_pos hline, if_pos hcolumn, if_pos ⟨hcolumn, hline⟩]
    · rw [if_pos hline, if_neg hcolumn, if_neg fun hplace => hcolumn hplace.1]
  · rw [if_neg hline, if_neg fun hplace => hline hplace.2]

/-- Every row shows what the row below showed, the last one nothing. -/
theorem charAt_scrollUp (x : Nat) {y : Nat} (hy : y < s.height) :
    s.scrollUp.charAt x y = if y + 1 < s.height then s.charAt x (y + 1) else ' ' := by
  have hrows : s.scrollUp.rows[y]? = ((s.rows.tail ++ [Row.empty])[y]?).map Row.touch := by
    rw [scrollUp, List.getElem?_map]
  have htail : s.rows.tail.length = s.height - 1 := by
    rw [List.length_tail, h.length_rows]
  by_cases hlast : y + 1 < s.height
  · obtain ⟨row, hrow⟩ := exists_row h hlast
    have hbelow : s.scrollUp.rows[y]? = some row.touch := by
      rw [hrows, List.getElem?_append_left (by omega), List.getElem?_tail, hrow]
      rfl
    rw [if_pos hlast, charAt_of_getElem? hbelow, charAt_of_getElem? hrow, Row.charAt_touch]
  · -- Below the last row there is the new one, which is empty.
    have hnew : s.scrollUp.rows[y]? = some Row.empty.touch := by
      rw [hrows, List.getElem?_append_right (by omega), htail, show y - (s.height - 1) = 0 by omega]
      rfl
    rw [if_neg hlast, charAt_of_getElem? hnew, Row.charAt_touch, Row.charAt_empty]

theorem charAt_eraseLine (y : Nat) (extent : Extent) (x' : Nat) {y' : Nat} (hy : y' < s.height) :
    (s.eraseLine y extent).charAt x' y'
      = if y' = min y (s.height - 1) ∧ extent.covers s.column x' then ' ' else s.charAt x' y' := by
  obtain ⟨row, hrow, hchar⟩ :=
    charAt_updateRow h.callOff hy (s.clampLine y) (·.erase s.column extent) x'
  have hbefore : s.charAt x' y' = row.charAt x' := charAt_of_getElem? (s := s) hrow x'
  have hcalledOff : { s with wrapPending := false }.charAt x' y' = s.charAt x' y' := rfl
  rw [eraseLine, hchar, hcalledOff, Row.charAt_erase, hbefore, clampLine]
  by_cases hline : y' = min y (s.height - 1)
  · by_cases hcovers : extent.covers s.column x' = true
    · rw [if_pos hline, if_pos hcovers, if_pos ⟨hline, hcovers⟩]
    · rw [if_pos hline, if_neg hcovers, if_neg fun hplace => hcovers hplace.2]
  · rw [if_neg hline, if_neg fun hplace => hline hplace.1]

/-- A row shows nothing past the width. -/
theorem charAt_of_width_le {x y : Nat} (hx : s.width ≤ x) : s.charAt x y = ' ' := by
  cases hrow : s.rows[y]? with
  | none =>
    rw [charAt, row?, hrow]
    exact Row.charAt_empty x
  | some row =>
    have hlen : row.cells.length ≤ x := by
      have hle := h.length_cells_le row (List.mem_of_getElem? hrow)
      omega
    rw [charAt_of_getElem? hrow, Row.charAt, Row.cellAt_of_length_le hlen]
    rfl

/-- What is on the old screen and on the new one stays.  Rows that are added and columns that are
new read as blanks in both. -/
theorem charAt_resize (width height : Nat) {x y : Nat} (hx : x < max width 1)
    (hy : y < max height 1) :
    (s.resize width height).charAt x y
      = if x < s.width ∧ y < s.height then s.charAt x y else ' ' := by
  have hlen := h.length_rows
  have hrows : (s.resize width height).rows[y]?
      = ((s.rows.take (max height 1)
          ++ List.replicate (max height 1 - s.rows.length) Row.empty)[y]?).map
        (·.truncate (max width 1)) := by
    rw [resize, List.getElem?_map]
  by_cases hold : y < s.height
  · obtain ⟨row, hrow⟩ := exists_row h hold
    have hkept : (s.resize width height).rows[y]? = some (row.truncate (max width 1)) := by
      have htake : y < (s.rows.take (max height 1)).length := by
        rw [List.length_take]
        omega
      rw [hrows, List.getElem?_append_left htake, List.getElem?_take_of_lt hy, hrow]
      rfl
    rw [charAt_of_getElem? hkept, Row.charAt_truncate, if_pos hx, ← charAt_of_getElem? hrow]
    by_cases hcolumn : x < s.width
    · rw [if_pos ⟨hcolumn, hold⟩]
    · rw [if_neg fun hplace => hcolumn hplace.1, charAt_of_width_le h (by omega)]
  · -- The rows that are added stand behind those that are kept.
    have hnew : (s.resize width height).rows[y]? = some (Row.empty.truncate (max width 1)) := by
      have htake : (s.rows.take (max height 1)).length ≤ y := by
        rw [List.length_take]
        omega
      rw [hrows, List.getElem?_append_right htake, List.getElem?_replicate_of_lt]
      · rfl
      · rw [List.length_take]
        omega
    rw [if_neg fun hplace => hold hplace.2, charAt_of_getElem? hnew, Row.charAt_truncate, if_pos hx,
      Row.charAt_empty]

/-- Blanks written at several columns of the cursor's row. -/
theorem charAt_putAll {xs : List Nat} (hxs : ∀ x ∈ xs, x < s.width) (c : Char) (x : Nat) {y : Nat}
    (hy : y < s.height) :
    (xs.foldl (fun s x => s.put x s.line c) s).charAt x y
      = if y = s.line ∧ x ∈ xs then c else s.charAt x y := by
  induction xs generalizing s with
  | nil => simp
  | cons x' xs ih =>
    obtain ⟨hx', hxs⟩ := List.forall_mem_cons.1 hxs
    have hline := h.line_lt
    have hrest := ih (h.put x' s.line c) hxs hy
    -- The columns and the line are on the screen, so that none is moved onto it.
    have hclampColumn : min x' (s.width - 1) = x' := by omega
    have hclampLine : min s.line (s.height - 1) = s.line := by omega
    rw [charAt_put h x' s.line c x hy, hclampColumn, hclampLine] at hrest
    rw [List.foldl_cons, hrest]
    have hput : (s.put x' s.line c).line = s.line := rfl
    rw [hput]
    by_cases hcursor : y = s.line
    · simp only [hcursor, true_and, and_true, List.mem_cons]
      by_cases hfirst : x = x'
      · simp [hfirst]
      · simp [hfirst]
    · simp [hcursor]

/-- Rows erased one after the other. -/
theorem charAt_eraseRows {ys : List Nat} (hys : ∀ y ∈ ys, y < s.height) (x : Nat) {y : Nat}
    (hy : y < s.height) :
    (s.eraseRows ys).charAt x y = if y ∈ ys then ' ' else s.charAt x y := by
  induction ys generalizing s with
  | nil => simp [eraseRows]
  | cons y' ys ih =>
    obtain ⟨hy', hys⟩ := List.forall_mem_cons.1 hys
    have hrest := ih (h.eraseLine y' .all) hys hy
    have hclampLine : min y' (s.height - 1) = y' := by omega
    have hcovers : Extent.all.covers s.column x = true := rfl
    rw [charAt_eraseLine h y' .all x hy, hclampLine, hcovers] at hrest
    rw [eraseRows, List.foldl_cons, ← eraseRows, hrest]
    by_cases hfirst : y = y'
    · simp [hfirst]
    · simp [hfirst]

end

/-- Erasing rows leaves the size and the cursor alone, and calls a deferred wrap off. -/
theorem frame_eraseRows (s : Screen) (ys : List Nat) :
    (s.eraseRows ys).width = s.width ∧ (s.eraseRows ys).height = s.height
      ∧ (s.eraseRows ys).column = s.column ∧ (s.eraseRows ys).line = s.line
      ∧ (s.eraseRows ys).wrapPending = (s.wrapPending && ys.isEmpty) := by
  induction ys generalizing s with
  | nil => exact ⟨rfl, rfl, rfl, rfl, (Bool.and_true _).symm⟩
  | cons y ys ih =>
    obtain ⟨hwidth, hheight, hcolumn, hline, hwrap⟩ := ih (s.eraseLine y .all)
    refine ⟨hwidth, hheight, hcolumn, hline, hwrap.trans ?_⟩
    rw [List.isEmpty_cons, Bool.and_false]
    rfl

/-- As long as columns are far from the end of their range there is a next tab stop, and
it is the next multiple of eight. -/
theorem tabStop?_of_lt {x : Nat} (hx : x < twoTo 63) : tabStop? x = some (8 * (x / 8 + 1)) := by
  have hlimit : twoTo 63 = 9223372036854775808 := rfl
  have hstop : (x / 8 + 1) * 8 < wordLimit := by
    rw [wordLimit]
    omega
  rw [tabStop?, tabWidth, if_pos hstop, Nat.mul_comm]

/-! ### Operations on the grid

For each operation the characters at all places are worked out once, from those of the rows; that
the two cursors agree is read off. -/

section

variable {s : Screen} (h : s.WellFormed)

include h

theorem grid_put (x y : Nat) (c : Char) : (s.put x y c).grid = s.grid.put x y c := by
  refine grid_eq rfl rfl rfl rfl rfl fun x' y' hx hy => ?_
  have hgrid : (s.grid.put x y c).charAt x' y'
      = if x' = min x (s.width - 1) ∧ y' = min y (s.height - 1) then c
        else s.grid.charAt x' y' :=
    Grid.charAt_draw s.grid _ hx hy
  rw [hgrid, charAt_put h x y c x' hy, charAt_grid s hx hy]

theorem grid_scrollUp : s.scrollUp.grid = s.grid.scrollUp := by
  refine grid_eq rfl rfl rfl rfl rfl fun x y hx hy => ?_
  have hgrid : s.grid.scrollUp.charAt x y
      = if y + 1 < s.height then s.grid.charAt x (y + 1) else ' ' :=
    Grid.charAt_draw s.grid _ hx hy
  rw [hgrid, charAt_scrollUp h x hy]
  split
  · next hbelow => rw [charAt_grid s hx hbelow]
  · rfl

theorem grid_lineFeed : s.lineFeed.grid = s.grid.lineFeed := by
  have hscroll := grid_scrollUp h.callOff
  simp only [lineFeed, Grid.lineFeed]
  by_cases hlast : s.height ≤ s.line + 1
  · have hlast' : ¬ s.grid.line + 1 < s.grid.height := Nat.not_lt.2 hlast
    rw [if_pos hlast, if_neg hlast', hscroll]
    rfl
  · have hlast' : s.grid.line + 1 < s.grid.height := Nat.lt_of_not_le hlast
    rw [if_neg hlast, if_pos hlast']
    rfl

theorem grid_wrap : s.wrap.grid = s.grid.wrap := by
  have hwrap : s.grid.wrapPending = s.wrapPending := rfl
  rw [wrap, Grid.wrap, hwrap]
  split
  · exact grid_lineFeed h.carriageReturn
  · rfl

omit h in
theorem grid_advance : s.advance.grid = s.grid.advance := by
  rw [advance, Grid.advance]
  by_cases hlast : s.width ≤ s.column + 1
  · have hlast' : ¬ s.grid.column + 1 < s.grid.width := Nat.not_lt.2 hlast
    rw [if_pos hlast, if_neg hlast']
    rfl
  · have hlast' : s.grid.column + 1 < s.grid.width := Nat.lt_of_not_le hlast
    rw [if_neg hlast, if_pos hlast']
    rfl

theorem grid_write (c : Char) : (s.write c).grid = s.grid.write c := by
  rw [write, Grid.write]
  split
  · rfl
  · rw [← grid_wrap h]
    change (s.wrap.put s.wrap.column s.wrap.line c).advance.grid
      = (s.wrap.grid.put s.wrap.column s.wrap.line c).advance
    rw [grid_advance, grid_put h.wrap]

/-- The blanks of a tab lie between the old column of the cursor and the new one. -/
theorem grid_tab (hwidth : s.width ≤ twoTo 63) : s.tab.grid = s.grid.tab := by
  have hcolumn := h.column_lt
  let stop := min (8 * (s.column / 8 + 1)) (s.width - 1)
  let calledOff : Screen := { s with wrapPending := false }
  have htab : s.tab = calledOff.fillTo (8 * (s.column / 8 + 1)) :=
    tab_of_stop (tabStop?_of_lt (by omega))
  let xs := List.range' s.column (stop - s.column)
  have hxs (x : Nat) : x ∈ xs ↔ s.column ≤ x ∧ x < stop := by
    rw [List.mem_range'_1]
    omega
  have hwithin : ∀ x ∈ xs, x < s.width := by
    intro x hx
    have hrange := (hxs x).1 hx
    omega
  -- The blanks are written before the cursor moves, and leave it and the size alone.
  obtain ⟨hw, hh, hcol, hl, hwrap⟩ := frame_putAll calledOff xs ' '
  rw [htab]
  refine grid_eq hw hh ?_ hl hwrap fun x y hx hy => ?_
  · change max (xs.foldl (fun s x => s.put x s.line ' ') calledOff).column stop = stop
    rw [hcol]
    change max s.column stop = stop
    omega
  · have hgrid : s.grid.tab.charAt x y
        = if y = s.line ∧ s.column ≤ x ∧ x < stop then ' ' else s.grid.charAt x y :=
      Grid.charAt_draw s.grid _ hx hy
    have hdrawn := charAt_putAll h.callOff hwithin ' ' x hy
    simp only [hxs] at hdrawn
    rw [hgrid, charAt_grid s hx hy]
    exact hdrawn

/-- A cell before the cursor that is not stored reads as a blank already. -/
theorem grid_backspace : s.backspace.grid = s.grid.backspace := by
  have hcolumn := h.column_lt
  obtain ⟨row, hrow⟩ := exists_row h h.line_lt
  simp only [backspace, Grid.backspace]
  by_cases hfirst : s.column = 0
  · have hfirst' : s.grid.column = 0 := hfirst
    rw [if_pos hfirst, if_pos hfirst']
    rfl
  · have hfirst' : ¬ s.grid.column = 0 := hfirst
    -- The screen with its cursor moved, on which a blank is written or not.
    let back : Screen := { s with column := s.column - 1, wrapPending := false }
    have hback : back.WellFormed :=
      h.moveCursor (by omega) h.line_lt fun hw => absurd hw Bool.false_ne_true
    have hgrid {x y : Nat} (hx : x < s.width) (hy : y < s.height) :
        (s.grid.draw fun x y =>
            if x = s.column - 1 ∧ y = s.line then ' ' else s.grid.charAt x y).charAt x y
          = if x = s.column - 1 ∧ y = s.line then ' ' else s.charAt x y := by
      rw [Grid.charAt_draw s.grid _ hx hy, charAt_grid s hx hy]
    rw [if_neg hfirst, if_neg hfirst', hrow, Option.any_some]
    simp only [decide_eq_true_eq]
    split
    · refine grid_eq rfl rfl rfl rfl rfl fun x y hx hy => Eq.trans ?_ (hgrid hx hy).symm
      obtain ⟨row', hrow', hchar⟩ :=
        charAt_updateRow hback hy s.line (·.put (s.column - 1) .blank) x
      have hbefore : s.charAt x y = row'.charAt x := charAt_of_getElem? (s := s) hrow' x
      have hunmoved : back.charAt x y = s.charAt x y := rfl
      rw [Row.charAt_put, hunmoved, ← hbefore] at hchar
      refine hchar.trans ?_
      by_cases hline : y = s.line
      · simp only [hline, and_true, if_true]
        rfl
      · simp only [hline, and_false, if_false]
    · next hunstored =>
      refine grid_eq rfl rfl rfl rfl rfl fun x y hx hy => Eq.trans ?_ (hgrid hx hy).symm
      change s.charAt x y = _
      split
      · next hplace =>
        obtain ⟨rfl, rfl⟩ := hplace
        -- Nothing is written there, but a column past the cells reads as a blank.
        have hpast : row.cells.length ≤ s.column - 1 := Nat.le_of_not_lt hunstored
        rw [charAt_of_getElem? hrow, Row.charAt, Row.cellAt_of_length_le hpast]
        rfl
      · rfl

theorem grid_eraseLine (y : Nat) (extent : Extent) :
    (s.eraseLine y extent).grid = s.grid.eraseLine y extent := by
  refine grid_eq rfl rfl rfl rfl rfl fun x' y' hx hy => ?_
  have hgrid : (s.grid.eraseLine y extent).charAt x' y'
      = if y' = min y (s.height - 1) ∧ extent.covers s.column x' then ' '
        else s.grid.charAt x' y' :=
    Grid.charAt_draw s.grid _ hx hy
  rw [hgrid, charAt_eraseLine h y extent x' hy, charAt_grid s hx hy]

omit h in
/-- Erasing a part of the display blanks the places of that part. -/
theorem charAt_grid_eraseDisplay (extent : Extent) {x y : Nat} (hx : x < s.width)
    (hy : y < s.height) : (s.grid.eraseDisplay extent).charAt x y
      = if extent.coversPlace s.column s.line x y then ' ' else s.charAt x y := by
  rw [← charAt_grid s hx hy]
  exact Grid.charAt_draw s.grid _ hx hy

/-- The line of the cursor is a row of the screen, so that it is erased itself. -/
theorem min_line : min s.line (s.height - 1) = s.line := by
  have hline := h.line_lt
  omega

/-- The rest of the cursor's row is erased, and then the rows below it. -/
theorem grid_eraseDisplay_toEnd : (s.eraseDisplay .toEnd).grid = s.grid.eraseDisplay .toEnd := by
  let below := List.range' (s.line + 1) (s.height - (s.line + 1))
  have hbelow : ∀ y, y ∈ below ↔ s.line < y ∧ y < s.height := by
    intro y
    rw [List.mem_range'_1]
    omega
  obtain ⟨hw, hh, hcol, hl, hwrap⟩ := frame_eraseRows (s.eraseLine s.line .toEnd) below
  refine grid_eq hw hh hcol hl hwrap fun x y hx hy => ?_
  have hy' : y < s.height := hy
  have hrows : (s.eraseDisplay .toEnd).charAt x y
      = if y ∈ below then ' ' else (s.eraseLine s.line .toEnd).charAt x y :=
    charAt_eraseRows (h.eraseLine s.line .toEnd) (fun y hy => ((hbelow y).1 hy).2) x hy
  rw [charAt_grid_eraseDisplay .toEnd hx hy, hrows, charAt_eraseLine h s.line .toEnd x hy,
    min_line h]
  simp only [hbelow, Extent.covers, Extent.coversPlace, Bool.or_eq_true, Bool.and_eq_true,
    decide_eq_true_eq, hy', and_true]
  -- Below the cursor's row all of a row is covered, elsewhere what the erased line leaves.
  by_cases hlt : s.line < y
  · simp only [hlt, if_true, true_or]
  · simp only [hlt, if_false, false_or]

/-- The rows above the cursor's are erased, and then the front of its own. -/
theorem grid_eraseDisplay_toStart :
    (s.eraseDisplay .toStart).grid = s.grid.eraseDisplay .toStart := by
  have hline := h.line_lt
  have habove : ∀ y ∈ List.range s.line, y < s.height := by
    intro y hy
    have hlt := List.mem_range.1 hy
    omega
  obtain ⟨hw, hh, hcol, hl, -⟩ := frame_eraseRows s (List.range s.line)
  refine grid_eq hw hh hcol hl rfl fun x y hx hy => ?_
  have hy' : y < (s.eraseRows (List.range s.line)).height := by
    rw [hh]
    exact hy
  -- The cursor stays where it is while rows are erased, so its column is the one before.
  have hrow := charAt_eraseLine (h.eraseRows (List.range s.line)) s.line .toStart x hy'
  rw [hh, hcol, min_line h, charAt_eraseRows h habove x hy] at hrow
  rw [charAt_grid_eraseDisplay .toStart hx hy]
  refine hrow.trans ?_
  simp only [List.mem_range, Extent.covers, Extent.coversPlace, Bool.or_eq_true,
    Bool.and_eq_true, decide_eq_true_eq]
  by_cases hlt : y < s.line
  · simp only [hlt, if_true, true_or, ite_self]
  · simp only [hlt, if_false, false_or]

theorem grid_eraseDisplay_all : (s.eraseDisplay .all).grid = s.grid.eraseDisplay .all := by
  have hline := h.line_lt
  obtain ⟨hw, hh, hcol, hl, hwrap⟩ := frame_eraseRows s (List.range s.height)
  have hrows : (List.range s.height).isEmpty = false := by
    rw [List.isEmpty_eq_false_iff, Ne, List.range_eq_nil]
    omega
  -- There is a row, and erasing one calls off a wrap.
  rw [hrows, Bool.and_false] at hwrap
  refine grid_eq hw hh hcol hl hwrap fun x y hx hy => ?_
  have hall : ∀ y ∈ List.range s.height, y < s.height := fun y hy => List.mem_range.1 hy
  have hmem : y ∈ List.range s.height := List.mem_range.2 hy
  rw [charAt_grid_eraseDisplay .all hx hy]
  refine (charAt_eraseRows h hall x hy).trans ?_
  rw [if_pos hmem]
  rfl

/-- The cursor's row and the rows on one side of it are erased one after the other. -/
theorem grid_eraseDisplay (extent : Extent) :
    (s.eraseDisplay extent).grid = s.grid.eraseDisplay extent := by
  cases extent with
  | toEnd => exact grid_eraseDisplay_toEnd h
  | toStart => exact grid_eraseDisplay_toStart h
  | all => exact grid_eraseDisplay_all h

theorem grid_resize (width height : Nat) :
    (s.resize width height).grid = s.grid.resize width height := by
  refine grid_eq rfl rfl rfl rfl rfl fun x y hx hy => ?_
  have hgrid : (s.grid.resize width height).charAt x y
      = if x < s.width ∧ y < s.height then s.grid.charAt x y else ' ' := by
    rw [Grid.charAt_of_lt _ hx hy]
    exact Grid.getElem_tabulate _ hx hy
  rw [hgrid, charAt_resize h width height hx hy]
  split
  · next hplace => rw [charAt_grid s hplace.1 hplace.2]
  · rfl

theorem grid_markClean : s.markClean.grid = s.grid := by
  refine grid_eq rfl rfl rfl rfl rfl fun x y hx hy => ?_
  obtain ⟨row, hrow⟩ := exists_row h hy
  have hafter : s.markClean.rows[y]? = some row.markClean := by
    rw [markClean, List.getElem?_map, hrow]
    rfl
  rw [charAt_grid s hx hy, charAt_of_getElem? hafter, charAt_of_getElem? hrow,
    Row.charAt_markClean]

/-! ### Instructions on the grid -/

omit h in
theorem grid_moveCursor (final : Char) (params : List Nat) :
    ((s.moveCursor? final params).getD s).grid = s.grid.moveCursor final params := by
  by_cases hfinal : final ∈ cursorFinals
  · simp only [cursorFinals, List.mem_cons, List.not_mem_nil, or_false] at hfinal
    rcases hfinal with rfl | rfl | rfl | rfl | rfl | rfl | rfl | rfl | rfl | rfl <;> rfl
  · rw [s.moveCursor?_of_notMem hfinal, Grid.moveCursor_of_notMem s.grid hfinal]
    rfl

theorem grid_erase (final : Char) (params : List Nat) :
    ((s.erase? final params).getD s).grid = s.grid.erase final params := by
  unfold erase?
  rw [Grid.erase]
  -- An extent that is not known asks for nothing on either side.
  cases Extent.ofParam? (params.head?.getD 0) with
  | none => rfl
  | some extent =>
    dsimp only
    split
    · next heq =>
      cases heq
      exact grid_eraseDisplay h extent
    · next heq =>
      cases heq
      exact grid_eraseLine h s.line extent
    · next hdisplay hline =>
      rw [if_neg (hdisplay extent rfl), if_neg (hline extent rfl)]
      rfl

theorem grid_sequence (final : Char) (params : List Nat) :
    ((s.sequence? final params).getD s).grid = s.grid.sequence final params := by
  rw [Grid.sequence]
  by_cases hcursor : final ∈ cursorFinals
  · rw [if_pos hcursor, s.sequence?_of_mem_cursorFinals hcursor]
    exact grid_moveCursor final params
  rw [if_neg hcursor]
  by_cases herase : final ∈ eraseFinals
  · rw [if_pos herase, s.sequence?_of_mem_eraseFinals herase]
    exact grid_erase h final params
  rw [if_neg herase]
  by_cases hpen : final = 'm'
  · subst hpen
    rfl
  · -- What is left is a final character that neither of the two knows.
    have hunknown : final ∉ knownFinals := by
      rw [knownFinals, List.mem_cons, List.mem_append, not_or, not_or]
      exact ⟨hpen, hcursor, herase⟩
    rw [s.sequence?_of_notMem hunknown]
    rfl

/-- Every instruction is one on the grid. -/
theorem grid_perform (hwidth : s.width ≤ twoTo 63) (instruction : Instruction) :
    (s.perform instruction).grid = s.grid.perform instruction := by
  cases instruction with
  | write c => exact grid_write h c
  | carriageReturn => rfl
  | lineFeed => exact grid_lineFeed h
  | backspace => exact grid_backspace h
  | tab => exact grid_tab h hwidth
  | sequence final params => exact grid_sequence h final params

/-! ### What a screen shows -/

/-- What is not stored cannot be seen in a text.  Blanks at the end of a row are trimmed, whether
they are stored or not. -/
theorem text_grid : s.text = s.grid.text := by
  have hrows : s.rows.map Row.shown = s.grid.shownRows := by
    refine List.ext_getElem ?_ fun y hy hy' => ?_
    · rw [List.length_map, Grid.shownRows, List.length_map, Vector.length_toList]
      exact h.length_rows
    · rw [List.length_map] at hy
      have hheight : y < s.height := by
        rw [← h.length_rows]
        exact hy
      -- A cell that is not stored reads as a blank, and a full row has a blank there; trimming
      -- takes both away.
      have hread : ∀ x, s.rows[y].charAt x = s.grid.charAt x y := by
        intro x
        rw [← charAt_of_getElem? (List.getElem?_eq_getElem hy)]
        by_cases hx : x < s.width
        · rw [charAt_grid s hx hheight]
        · rw [charAt_of_width_le h (Nat.le_of_not_lt hx),
            s.grid.charAt_of_width_le (Nat.le_of_not_lt hx)]
      simp only [Grid.shownRows, List.getElem_map, Vector.getElem_toList]
      refine Row.shown_eq fun x => (hread x).trans ?_
      exact (s.grid.getElem?_row hheight x).symm
  rw [text, shown, hrows]
  rfl

end

end Screen

namespace Terminal

/-- The grid that a terminal stands for, with its decoder. -/
def grid (t : Terminal) : GridTerminal := ⟨t.screen.grid, t.decoder⟩

variable {t : Terminal}

theorem grid_start (width height : Nat) :
    (start width height).grid = GridTerminal.start width height := by
  have hgrid : (Screen.blank width height).grid = .blank width height := by
    refine Screen.grid_eq rfl rfl rfl rfl rfl fun x y hx hy => ?_
    rw [Screen.charAt_blank width height x hy, Grid.charAt_of_lt _ hx hy]
    exact (Grid.getElem_tabulate (fun _ _ => ' ') hx hy).symm
  rw [grid, start, GridTerminal.start, hgrid]

/-- A character does to the screen what it does to the grid. -/
theorem grid_step (h : t.WellFormed) (hwidth : t.screen.width ≤ twoTo 63) (c : Char) :
    (t.step c).grid = t.grid.step c := by
  simp only [grid, Terminal.step, GridTerminal.step]
  cases (t.decoder.step c).2 with
  | none => rfl
  | some instruction =>
    rw [Option.elim_some, Option.elim_some, Screen.grid_perform h.screen hwidth instruction]

theorem grid_feed (h : t.WellFormed) (hwidth : t.screen.width ≤ twoTo 63) (cs : List Char) :
    (t.feed cs).grid = t.grid.feed cs := by
  induction cs generalizing t with
  | nil => rfl
  | cons c cs ih =>
    have hstep := grid_step h hwidth c
    have hwidth' : (t.step c).screen.width ≤ twoTo 63 := by
      have hsame : (t.step c).grid.grid.width = t.screen.width := by
        rw [hstep]
        exact t.grid.width_feed [c]
      exact Nat.le_trans (Nat.le_of_eq hsame) hwidth
    rw [feed_cons, ih (h.step c) hwidth', hstep]
    rfl

/-- **An operation on the screen is the one on the grid.** -/
theorem grid_apply (h : t.WellFormed) (hwidth : t.screen.width ≤ twoTo 63) (op : Operation) :
    (t.apply op).grid = t.grid.apply op := by
  have hs := h.screen
  -- A tab is the one operation whose grid form needs the bound on the width.
  cases op with
  | put x y c => exact congrArg t.grid.withGrid (Screen.grid_put hs x y c)
  | write c => exact congrArg t.grid.withGrid (Screen.grid_write hs c)
  | tab => exact congrArg t.grid.withGrid (Screen.grid_tab hs hwidth)
  | carriageReturn => rfl
  | lineFeed => exact congrArg t.grid.withGrid (Screen.grid_lineFeed hs)
  | backspace => exact congrArg t.grid.withGrid (Screen.grid_backspace hs)
  | moveTo x y => rfl
  | moveBy dx dy => rfl
  | eraseLine y extent => exact congrArg t.grid.withGrid (Screen.grid_eraseLine hs y extent)
  | eraseDisplay extent => exact congrArg t.grid.withGrid (Screen.grid_eraseDisplay hs extent)
  | scrollUp => exact congrArg t.grid.withGrid (Screen.grid_scrollUp hs)
  | resize width height => exact congrArg t.grid.withGrid (Screen.grid_resize hs width height)
  | markClean => exact congrArg t.grid.withGrid (Screen.grid_markClean hs)
  | sequence final params =>
    exact congrArg t.grid.withGrid (Screen.grid_sequence hs final params)
  | moveCursor final params => exact congrArg t.grid.withGrid (Screen.grid_moveCursor final params)
  | erase final params => exact congrArg t.grid.withGrid (Screen.grid_erase hs final params)
  | feed cs => exact grid_feed h hwidth cs
  | reset => rfl

theorem grid_run (h : t.WellFormed) (hwidth : t.screen.width ≤ twoTo 63) {ops : List Operation}
    (hops : ∀ op ∈ ops, op.widthWithin (twoTo 63) = true) : (t.run ops).grid = t.grid.run ops := by
  induction ops generalizing t with
  | nil => rfl
  | cons op ops ih =>
    obtain ⟨hop, hops⟩ := List.forall_mem_cons.1 hops
    have happly := grid_apply h hwidth op
    have hwidth' : (t.apply op).screen.width ≤ twoTo 63 := by
      have hle : (t.grid.apply op).grid.width ≤ twoTo 63 :=
        GridTerminal.width_apply_le (twoTo_pos 63) hwidth hop
      rwa [← happly] at hle
    rw [run_cons, ih (h.apply op) hwidth' hops, happly]
    rfl

/-- **A run on a screen is the run on the grid.**  Whatever the operations are, as long as
no width above the greatest signed number is asked for, the screen after them agrees with
the grid after them in size and cursor, whether a wrap is deferred, and in the character at
every place; and its text is made up of the full rows of the grid. -/
theorem shows_run {width : Nat} (hwidth : width ≤ twoTo 63) (height : Nat) {ops : List Operation}
    (hops : ∀ op ∈ ops, op.widthWithin (twoTo 63) = true) :
    let s := ((start width height).run ops).screen
    let g := ((GridTerminal.start width height).run ops).grid
    s.width = g.width ∧ s.height = g.height ∧ s.column = g.column ∧ s.line = g.line
      ∧ s.wrapPending = g.wrapPending
      ∧ (∀ x y, x < s.width → y < s.height → s.charAt x y = g.charAt x y)
      ∧ s.text = g.text := by
  intro s g
  have hstart := wellFormed_start width height
  have hwithin : (start width height).screen.width ≤ twoTo 63 :=
    Nat.max_le.2 ⟨hwidth, twoTo_pos 63⟩
  -- All that is told of the screen is read off its grid, so one equation carries the whole
  -- statement.
  have hgrid : s.grid = g := by
    have hrun := grid_run hstart hwithin hops
    rw [grid_start] at hrun
    exact congrArg GridTerminal.grid hrun
  have hs : s.WellFormed := (hstart.run ops).screen
  rw [← hgrid]
  refine ⟨rfl, rfl, rfl, rfl, rfl, fun x y hx hy => ?_, Screen.text_grid hs⟩
  exact (s.charAt_grid hx hy).symm

/-- Cells erased at the start of a row and written past its end, a tab over nothing, and
changes of size between them. -/
theorem shows_ragged_rows :
    let ops : List Operation := [.feed "abc\tx\x1b[1K".toList, .put 9 9 'z', .resize 12 3,
      .moveTo 1 0, .tab, .write 'q', .eraseLine 1 .toEnd, .resize 9 2, .backspace, .lineFeed]
    let s := ((start 3 2).run ops).screen
    let g := ((GridTerminal.start 3 2).run ops).grid
    (∀ op ∈ ops, op.widthWithin (twoTo 63) = true)
      ∧ (∀ x y, x < s.width → y < s.height → s.charAt x y = g.charAt x y)
      ∧ s.text = "        q\n  z" ∧ s.text = g.text := by
  intro ops s g
  have hwidth : 3 ≤ twoTo 63 := by decide +kernel
  have hops : ∀ op ∈ ops, op.widthWithin (twoTo 63) = true := by decide +kernel
  have hshown : s.text = "        q\n  z" := by decide +kernel
  obtain ⟨-, -, -, -, -, hchar, htext⟩ := shows_run hwidth 2 hops
  exact ⟨hops, hchar, hshown, htext⟩

end Terminal

end ConsoleReplay
