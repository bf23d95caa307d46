import ConsoleReplay.Proofs.Screen.Dense
import ConsoleReplay.Proofs.Screen.Escape
import ConsoleReplay.Screen.Session

/-!
# A short screen is a window on a tall one

Output that only goes down — characters, line breaks, moves within a row and erases of the
cursor's row — may run past the bottom of a screen, which then scrolls.  A taller screen
scrolls later or never.  The two always agree on the column, the pen and a deferred wrap, and
the short one shows the rows of the tall one down to its cursor: scrolling takes rows away at
the top and does nothing else.

The rows are told apart by the lines of the two cursors.  Their distance grows whenever the
short screen scrolls and the tall one does not.  What keeps the two together is that no row
below the cursor stores anything, so it makes no difference whether such a row is old or has
just scrolled in.

## Main definitions

* `Screen.storedCells s y` — the cells that a row of a screen stores.
* `Screen.IsWindow height tall s t` — `s`, of a height, is a window on the taller screen `t`.
* `Instruction.IsDownward` — an instruction that never goes back to a row above.
* `Downward.Item` — a part of an output that only goes down.

## Main results

* `Screen.IsWindow.lineFeed` — a line feed, whichever of the two screens it scrolls.
* `Screen.IsWindow.perform` — a window stays one over an instruction.
* `Downward.isWindow_feed` — and over an output.
* `LiveSession.window_of_downward` — **a short screen is a window on a tall one**.
-/

namespace ConsoleReplay

/-! ### Cells of rows -/

namespace Row

variable {row row' : Row}

theorem cells_put_congr (h : row.cells = row'.cells) (x : Nat) (cell : Cell) :
    (row.put x cell).cells = (row'.put x cell).cells := by
  show putCell row.cells x cell = putCell row'.cells x cell
  rw [h]

/-- What is left of the cells of a row does not depend on whether it was painted. -/
theorem cells_erase_congr (h : row.cells = row'.cells) (x : Nat) (extent : Extent) :
    (row.erase x extent).cells = (row'.erase x extent).cells := by
  cases extent with
  | toEnd =>
    show row.cells.take x = row'.cells.take x
    rw [h]
  | toStart =>
    rw [erase, eraseThrough, h]
    rfl
  | all => rfl

end Row

namespace Screen

/-- The cells that a row of a screen stores.  A row that the screen does not have stores
none. -/
def storedCells (s : Screen) (y : Nat) : List Cell := ((s.row? y).map Row.cells).getD []

variable {s t : Screen}

theorem storedCells_of_row? {y : Nat} {row : Row} (h : s.row? y = some row) :
    s.storedCells y = row.cells := by
  rw [storedCells, h]
  rfl

theorem storedCells_blank (width height y : Nat) : (blank width height).storedCells y = [] := by
  rw [storedCells, row?, blank, List.getElem?_replicate]
  split <;> rfl

/-- Only the row that is changed stores other cells. -/
theorem storedCells_updateRow (s : Screen) (y z : Nat) (f : Row → Row) :
    (s.updateRow y f).storedCells z
      = if z = y then ((s.row? z).map fun row => (f row).cells).getD [] else s.storedCells z := by
  rw [storedCells, row?_updateRow]
  split
  · rw [Option.map_map]
    rfl
  · rfl

/-- Every row takes the place of the one above it, and nothing is stored in the last. -/
theorem storedCells_scrollUp (s : Screen) (y : Nat) :
    s.scrollUp.storedCells y = s.storedCells (y + 1) := by
  have hrow : s.scrollUp.row? y = ((s.rows.tail ++ [Row.empty])[y]?).map Row.touch :=
    List.getElem?_map
  rw [storedCells, hrow, Option.map_map, storedCells, row?, ← List.getElem?_tail]
  by_cases hy : y < s.rows.tail.length
  · rw [List.getElem?_append_left hy]
    rfl
  · rw [List.getElem?_append_right (Nat.le_of_not_lt hy), List.getElem?_singleton,
      List.getElem?_eq_none (Nat.le_of_not_lt hy)]
    split <;> rfl

theorem clampLine_line (h : s.WellFormed) : s.clampLine s.line = s.line := by
  have hlt := h.line_lt
  rw [clampLine]
  omega

/-! ### Windows

The short screen shows the last rows of the tall one.  By how many rows they are apart is the
number of times that only the short one has scrolled. -/

variable {height tall : Nat}

/-- A screen is a window on a taller one: it has the rows of the tall one that end as far below the
cursor as its own do.  What the two hold is compared row by row at the distance of their cursors, so
that a row that scrolled out of the short screen drops out of the comparison by itself. -/
structure IsWindow (height tall : Nat) (s t : Screen) : Prop where
  wellFormed : s.WellFormed
  wellFormed_tall : t.WellFormed
  width_eq : s.width = t.width
  height_eq : s.height = height
  tall_eq : t.height = tall
  height_le : height ≤ tall
  column_eq : s.column = t.column
  pen_eq : s.pen = t.pen
  wrapPending_eq : s.wrapPending = t.wrapPending
  line_le : s.line ≤ t.line
  /-- The lines part when the short screen scrolls, which it does on its last row. -/
  line_eq : s.line = t.line ∨ s.line + 1 = s.height
  storedCells_eq : ∀ y, s.storedCells y = t.storedCells (y + (t.line - s.line))
  /-- Nothing was written below the cursor yet. -/
  storedCells_below : ∀ y, t.line < y → t.storedCells y = []

/-- On new screens nothing is stored. -/
theorem isWindow_blank (width : Nat) (h : height ≤ tall) :
    IsWindow (max height 1) (max tall 1) (blank width height) (blank width tall) where
  wellFormed := wellFormed_blank width height
  wellFormed_tall := wellFormed_blank width tall
  width_eq := rfl
  height_eq := rfl
  tall_eq := rfl
  height_le := by omega
  column_eq := rfl
  pen_eq := rfl
  wrapPending_eq := rfl
  line_le := Nat.le_refl _
  line_eq := .inl rfl
  storedCells_eq := by
    intro y
    rw [storedCells_blank, storedCells_blank]
  storedCells_below := by
    intro y _
    exact storedCells_blank width tall y

namespace IsWindow

theorem height_le_height (h : IsWindow height tall s t) : s.height ≤ t.height := by
  rw [h.height_eq, h.tall_eq]
  exact h.height_le

theorem clampColumn_eq (h : IsWindow height tall s t) (x : Nat) :
    s.clampColumn x = t.clampColumn x := by
  rw [clampColumn, clampColumn, h.width_eq]

/-- The rows of the two cursors store the same cells. -/
theorem exists_rows (h : IsWindow height tall s t) : ∃ row row', s.rows[s.line]? = some row
    ∧ t.rows[t.line]? = some row' ∧ row.cells = row'.cells := by
  obtain ⟨row, hrow⟩ := exists_row h.wellFormed h.wellFormed.line_lt
  obtain ⟨row', hrow'⟩ := exists_row h.wellFormed_tall h.wellFormed_tall.line_lt
  have hline : s.line + (t.line - s.line) = t.line := Nat.add_sub_of_le h.line_le
  have hsame := h.storedCells_eq s.line
  rw [hline, storedCells_of_row? hrow, storedCells_of_row? hrow'] at hsame
  exact ⟨row, row', hrow, hrow', hsame⟩

/-! #### Changes that stay in the row -/

/-- Moving both cursors to a column of their row. -/
theorem moveCursor (h : IsWindow height tall s t) {x x' : Nat} {wrap wrap' : Bool}
    (hx : x < s.width) (hwrap : wrap = true → x = s.width - 1) (hcolumn : x = x')
    (hpending : wrap = wrap') :
    IsWindow height tall { s with column := x, wrapPending := wrap }
      { t with column := x', wrapPending := wrap' } := by
  subst hcolumn hpending
  have hwidth := h.width_eq
  refine { h with wellFormed := ?_, wellFormed_tall := ?_, column_eq := rfl, wrapPending_eq := rfl }
  · exact h.wellFormed.moveCursor hx h.wellFormed.line_lt hwrap
  · rw [hwidth] at hx hwrap
    exact h.wellFormed_tall.moveCursor hx h.wellFormed_tall.line_lt hwrap

/-- Moving the cursors calls deferred wraps off. -/
theorem callOff (h : IsWindow height tall s t) {x x' : Nat} (hx : x < s.width)
    (hcolumn : x = x') :
    IsWindow height tall { s with column := x, wrapPending := false }
      { t with column := x', wrapPending := false } := by
  refine h.moveCursor hx ?_ hcolumn rfl
  intro hwrap
  cases hwrap

theorem setPen (h : IsWindow height tall s t) (pen : Style) :
    IsWindow height tall { s with pen := pen } { t with pen := pen } :=
  { h with
    wellFormed := h.wellFormed.setPen pen
    wellFormed_tall := h.wellFormed_tall.setPen pen
    pen_eq := rfl }

/-- Changing the rows of the cursors, in a way that looks at their cells alone.  The two rows may be
dirty or not, independently of each other. -/
theorem updateRow (h : IsWindow height tall s t) {f : Row → Row}
    (hcells : ∀ row row' : Row, row.cells = row'.cells → (f row).cells = (f row').cells)
    (hlen : ∀ row, row.cells.length ≤ s.width → (f row).cells.length ≤ s.width) :
    IsWindow height tall (s.updateRow s.line f) (t.updateRow t.line f) := by
  have hle := h.line_le
  refine { h with wellFormed := ?_, wellFormed_tall := ?_, storedCells_eq := ?_,
                  storedCells_below := ?_ }
  · exact h.wellFormed.updateRow _ hlen
  · rw [h.width_eq] at hlen
    exact h.wellFormed_tall.updateRow _ hlen
  · intro y
    show _ = (t.updateRow t.line f).storedCells (y + (t.line - s.line))
    rw [storedCells_updateRow, storedCells_updateRow]
    -- The rows of the cursors are one row of the comparison.
    by_cases hy : y = s.line
    · have hline : y + (t.line - s.line) = t.line := by omega
      obtain ⟨row, row', hrow, hrow', hsame⟩ := h.exists_rows
      rw [if_pos hy, if_pos hline, hline, hy, row?, hrow, row?, hrow']
      exact hcells row row' hsame
    · have hline : ¬ y + (t.line - s.line) = t.line := by omega
      rw [if_neg hy, if_neg hline]
      exact h.storedCells_eq y
  · intro y hy
    have hline : ¬ y = t.line := Nat.ne_of_gt hy
    rw [storedCells_updateRow, if_neg hline]
    exact h.storedCells_below y hy

theorem put (h : IsWindow height tall s t) (x : Nat) (c : Char) :
    IsWindow height tall (s.put x s.line c) (t.put x t.line c) := by
  rw [Screen.put, Screen.put, clampLine_line h.wellFormed, clampLine_line h.wellFormed_tall,
    ← h.clampColumn_eq, ← h.pen_eq]
  refine h.updateRow ?_ ?_
  · intro row row' hrow
    exact Row.cells_put_congr hrow _ _
  · intro row hrow
    have hx := h.wellFormed.clampColumn_lt x
    rw [Row.length_cells_put]
    omega

/-- Writing the same character at several columns of the row. -/
theorem putAll (h : IsWindow height tall s t) (xs : List Nat) (c : Char) :
    IsWindow height tall (xs.foldl (fun s x => s.put x s.line c) s)
      (xs.foldl (fun t x => t.put x t.line c) t) := by
  induction xs generalizing s t with
  | nil => exact h
  | cons x xs ih => exact ih (h.put x c)

theorem eraseLine (h : IsWindow height tall s t) (extent : Extent) :
    IsWindow height tall (s.eraseLine s.line extent) (t.eraseLine t.line extent) := by
  have hextent : (fun row : Row => row.erase t.column extent) = (·.erase s.column extent) := by
    rw [h.column_eq]
  rw [Screen.eraseLine, Screen.eraseLine, clampLine_line h.wellFormed,
    clampLine_line h.wellFormed_tall, hextent]
  refine (h.callOff h.wellFormed.column_lt h.column_eq).updateRow ?_ ?_
  · intro row row' hrow
    exact Row.cells_erase_congr hrow _ extent
  · intro row hrow
    exact Nat.le_trans (Row.length_cells_erase_le row s.column extent) hrow

theorem moveTo (h : IsWindow height tall s t) {x x' : Nat} (hcolumn : x = x') :
    IsWindow height tall (s.moveTo x s.line) (t.moveTo x' t.line) := by
  subst hcolumn
  rw [Screen.moveTo, Screen.moveTo, clampLine_line h.wellFormed, clampLine_line h.wellFormed_tall]
  exact h.callOff (h.wellFormed.clampColumn_lt x) (h.clampColumn_eq x)

theorem moveBy (h : IsWindow height tall s t) (dx : Int) :
    IsWindow height tall (s.moveBy dx 0) (t.moveBy dx 0) := by
  have hline (n : Nat) : ((n : Int) + 0).toNat = n := by omega
  rw [Screen.moveBy, Screen.moveBy, hline, hline]
  refine h.moveTo ?_
  rw [h.column_eq]

theorem carriageReturn (h : IsWindow height tall s t) :
    IsWindow height tall s.carriageReturn t.carriageReturn :=
  h.callOff h.wellFormed.width_pos rfl

/-- Moving both cursors to the right, if no wrap is deferred. -/
theorem moveRight (h : IsWindow height tall s t) {x : Nat} (hx : x < s.width)
    (hwrap : s.wrapPending = false) :
    IsWindow height tall { s with column := max s.column x }
      { t with column := max t.column x } := by
  refine h.moveCursor (Nat.max_lt.2 ⟨h.wellFormed.column_lt, hx⟩) ?_ ?_ h.wrapPending_eq
  · intro hpending
    rw [hwrap] at hpending
    cases hpending
  · rw [h.column_eq]

/-- The blanks are written before the cursors move, and leave them and the sizes alone. -/
theorem fillTo (h : IsWindow height tall s t) (hcalm : s.wrapPending = false) (stop : Nat) :
    IsWindow height tall (s.fillTo stop) (t.fillTo stop) := by
  let xs := List.range' s.column (s.clampColumn stop - s.column)
  have hblanks := h.putAll xs ' '
  obtain ⟨hwidth, -, -, -, hwrap⟩ := frame_putAll s xs ' '
  have htarget : t.clampColumn stop = s.clampColumn stop := (h.clampColumn_eq stop).symm
  have hxs : List.range' t.column (t.clampColumn stop - t.column) = xs := by
    rw [htarget, ← h.column_eq]
  rw [Screen.fillTo, Screen.fillTo, hxs, htarget]
  refine hblanks.moveRight ?_ (hwrap.trans hcalm)
  rw [hwidth]
  exact h.wellFormed.clampColumn_lt stop

theorem fail (h : IsWindow height tall s t) :
    IsWindow height tall { s with failed := true } { t with failed := true } :=
  { h with
    wellFormed := h.wellFormed.fail
    wellFormed_tall := h.wellFormed_tall.fail }

/-- Both cursors are in the same column, so both have the same stop or both have none. -/
theorem tab (h : IsWindow height tall s t) : IsWindow height tall s.tab t.tab := by
  have hcalm := h.callOff h.wellFormed.column_lt h.column_eq
  cases hstop : tabStop? s.column with
  | some stop =>
    rw [tab_of_stop hstop, tab_of_stop (h.column_eq ▸ hstop)]
    exact hcalm.fillTo rfl stop
  | none =>
    rw [tab_of_no_stop hstop, tab_of_no_stop (h.column_eq ▸ hstop)]
    exact hcalm.fail

theorem backspace (h : IsWindow height tall s t) :
    IsWindow height tall s.backspace t.backspace := by
  have hcolumn := h.wellFormed.column_lt
  have hback : IsWindow height tall { s with column := s.column - 1, wrapPending := false }
      { t with column := t.column - 1, wrapPending := false } := by
    refine h.callOff (by omega) ?_
    rw [h.column_eq]
  rw [Screen.backspace, Screen.backspace]
  dsimp only
  by_cases hfirst : s.column = 0
  · have hfirst' : t.column = 0 := h.column_eq ▸ hfirst
    rw [if_pos hfirst, if_pos hfirst']
    exact h.callOff hcolumn h.column_eq
  · have hfirst' : ¬ t.column = 0 := h.column_eq ▸ hfirst
    rw [if_neg hfirst, if_neg hfirst']
    -- The rows of the two cursors store equally many cells.
    obtain ⟨row, row', hrow, hrow', hcells⟩ := h.exists_rows
    have hstored : decide (t.column - 1 < row'.cells.length)
        = decide (s.column - 1 < row.cells.length) := by
      rw [hcells, h.column_eq]
    have hput : (fun row : Row => row.put (t.column - 1) .blank)
        = (·.put (s.column - 1) .blank) := by
      rw [h.column_eq]
    rw [hrow, hrow', Option.any_some, Option.any_some, hstored, hput]
    split
    · refine hback.updateRow ?_ ?_
      · intro row row' hrow
        exact Row.cells_put_congr hrow _ _
      · intro row hrow
        have hle : row.cells.length ≤ s.width := hrow
        show _ ≤ s.width
        rw [Row.length_cells_put]
        omega
    · exact hback

theorem advance (h : IsWindow height tall s t) : IsWindow height tall s.advance t.advance := by
  have hcolumn := h.wellFormed.column_lt
  rw [Screen.advance, Screen.advance]
  by_cases hlast : s.width ≤ s.column + 1
  · rw [if_pos hlast, if_pos (h.width_eq ▸ h.column_eq ▸ hlast)]
    refine h.moveCursor hcolumn ?_ h.column_eq rfl
    intro _
    omega
  · rw [if_neg hlast, if_neg (h.width_eq ▸ h.column_eq ▸ hlast)]
    refine h.moveCursor (by omega) ?_ ?_ h.wrapPending_eq
    · intro hpending
      have hend := h.wellFormed.column_of_wrapPending hpending
      omega
    · rw [h.column_eq]

/-! #### Changes that go on to the next row

Both screens scroll, only the short one does, or none.  In the second case the two part by one row
more, and what the short one drops is above the window on the tall one. -/

/-- Both screens scroll. -/
theorem scrollUp (h : IsWindow height tall s t) : IsWindow height tall s.scrollUp t.scrollUp := by
  refine { h with
    wellFormed := h.wellFormed.scrollUp
    wellFormed_tall := h.wellFormed_tall.scrollUp
    storedCells_eq := ?_
    storedCells_below := ?_ }
  · intro y
    -- Both rows come from one below, so that their distance stays.
    have hnext : y + (t.line - s.line) + 1 = y + 1 + (t.line - s.line) := by omega
    show _ = t.scrollUp.storedCells (y + (t.line - s.line))
    rw [storedCells_scrollUp, storedCells_scrollUp, hnext]
    exact h.storedCells_eq (y + 1)
  · intro y hy
    have hbelow : t.line < y + 1 := Nat.lt_succ_of_lt hy
    rw [storedCells_scrollUp]
    exact h.storedCells_below (y + 1) hbelow

/-- Only the short screen scrolls, and the lines part by one more.  On the tall one the row that
went out of the window is still there, above it. -/
theorem scrollUp_lineDown (h : IsWindow height tall s t) (hs : s.line + 1 = s.height)
    (ht : t.line + 1 < t.height) :
    IsWindow height tall s.scrollUp { t with line := t.line + 1 } := by
  have hle := h.line_le
  have hdown : { t with line := t.line + 1 }.WellFormed :=
    h.wellFormed_tall.moveCursor h.wellFormed_tall.column_lt ht
      h.wellFormed_tall.column_of_wrapPending
  refine { h with
    wellFormed := h.wellFormed.scrollUp
    wellFormed_tall := hdown
    line_le := ?_
    line_eq := .inr hs
    storedCells_eq := ?_
    storedCells_below := ?_ }
  · show s.line ≤ t.line + 1
    omega
  · intro y
    -- The short screen goes up by a row and the tall cursor down by one.
    have hnext : y + (t.line + 1 - s.line) = y + 1 + (t.line - s.line) := by omega
    show _ = t.storedCells (y + (t.line + 1 - s.line))
    rw [storedCells_scrollUp, hnext]
    exact h.storedCells_eq (y + 1)
  · intro y hy
    exact h.storedCells_below y (Nat.lt_of_succ_lt hy)

/-- Both cursors go down: the short screen has never scrolled. -/
theorem lineDown (h : IsWindow height tall s t) (hs : s.line + 1 < s.height) :
    IsWindow height tall { s with line := s.line + 1 } { t with line := t.line + 1 } := by
  have hheight := h.height_le_height
  -- Below the short cursor there is a row, so that the lines have not parted yet.
  have hline : s.line = t.line := by
    rcases h.line_eq with heq | hlast
    · exact heq
    · omega
  have hdown : { s with line := s.line + 1 }.WellFormed :=
    h.wellFormed.moveCursor h.wellFormed.column_lt hs h.wellFormed.column_of_wrapPending
  have hdown' : { t with line := t.line + 1 }.WellFormed :=
    h.wellFormed_tall.moveCursor h.wellFormed_tall.column_lt (by omega)
      h.wellFormed_tall.column_of_wrapPending
  refine { h with
    wellFormed := hdown
    wellFormed_tall := hdown'
    line_le := ?_
    line_eq := .inl ?_
    storedCells_eq := ?_
    storedCells_below := ?_ }
  · exact Nat.succ_le_succ h.line_le
  · exact congrArg (· + 1) hline
  · intro y
    have hsame := h.storedCells_eq y
    rw [hline, Nat.sub_self] at hsame
    show s.storedCells y = t.storedCells (y + (t.line + 1 - (s.line + 1)))
    rw [hline, Nat.sub_self]
    exact hsame
  · intro y hy
    exact h.storedCells_below y (Nat.lt_of_succ_lt hy)

/-- **A line feed** scrolls both screens, or only the short one, or none of them. -/
theorem lineFeed (h : IsWindow height tall s t) : IsWindow height tall s.lineFeed t.lineFeed := by
  have hlt := h.wellFormed.line_lt
  have hheight := h.height_le_height
  have hcalled := h.callOff h.wellFormed.column_lt h.column_eq
  rw [Screen.lineFeed, Screen.lineFeed]
  dsimp only
  by_cases hs : s.height ≤ s.line + 1
  · rw [if_pos hs]
    split
    · exact hcalled.scrollUp
    · next ht =>
      refine hcalled.scrollUp_lineDown ?_ (Nat.lt_of_not_le ht)
      show s.line + 1 = s.height
      omega
  · rw [if_neg hs]
    have hdown : s.line + 1 < s.height := Nat.lt_of_not_le hs
    -- A screen that does not scroll is no taller than the other one.
    have ht : ¬ t.height ≤ t.line + 1 := by
      have hline := h.line_eq
      omega
    rw [if_neg ht]
    exact hcalled.lineDown hdown

theorem wrap (h : IsWindow height tall s t) : IsWindow height tall s.wrap t.wrap := by
  rw [Screen.wrap, Screen.wrap, ← h.wrapPending_eq]
  split
  · exact h.carriageReturn.lineFeed
  · exact h

theorem write (h : IsWindow height tall s t) (c : Char) :
    IsWindow height tall (s.write c) (t.write c) := by
  rw [Screen.write, Screen.write]
  split
  · exact h
  · have hput := h.wrap.put s.wrap.column c
    have hcolumn := h.wrap.column_eq
    dsimp only
    rw [← hcolumn]
    exact hput.advance

end IsWindow

/-! ### Instructions -/

/-- The final characters of the sequences that stay in the row of the cursor. -/
def rowFinals : List Char := ['m', 'K', 'C', 'D', 'G']

end Screen

/-- An instruction that never goes back to a row above.  After such ones the rows above the cursor
are as they will stay. -/
def Instruction.IsDownward : Instruction → Prop
  | .sequence final _ => final ∈ Screen.rowFinals
  | _ => True

namespace Screen

variable {s t : Screen} {height tall : Nat}

theorem erase?_row (s : Screen) (params : List Nat) : s.erase? 'K' params
    = (Extent.ofParam? (params.head?.getD 0)).map (s.eraseLine s.line) := by
  unfold erase?
  cases Extent.ofParam? (params.head?.getD 0) <;> rfl

/-- A screen stays a window over an instruction that does not go back up. -/
theorem IsWindow.perform (h : IsWindow height tall s t) {instruction : Instruction}
    (hdown : instruction.IsDownward) :
    IsWindow height tall (s.perform instruction) (t.perform instruction) := by
  cases instruction with
  | write c => exact h.write c
  | carriageReturn => exact h.carriageReturn
  | lineFeed => exact h.lineFeed
  | backspace => exact h.backspace
  | tab => exact h.tab
  | sequence final params =>
    -- Of the sequences only those that stay in their row are left, and each asks both screens
    -- for the same.
    have hfinal : final ∈ rowFinals := hdown
    simp only [rowFinals, List.mem_cons, List.not_mem_nil, or_false] at hfinal
    rcases hfinal with rfl | rfl | rfl | rfl | rfl
    · show IsWindow height tall { s with pen := s.pen.applySgr params }
        { t with pen := t.pen.applySgr params }
      rw [← h.pen_eq]
      exact h.setPen _
    · show IsWindow height tall ((s.erase? 'K' params).getD s) ((t.erase? 'K' params).getD t)
      rw [erase?_row, erase?_row]
      cases Extent.ofParam? (params.head?.getD 0) with
      | none => exact h
      | some extent => exact h.eraseLine extent
    · exact h.moveBy _
    · exact h.moveBy _
    · exact h.moveTo rfl

end Screen

/-! ### Output that only goes down -/

namespace Downward

open Escape Screen

/-- A part of an output. -/
inductive Item
  | glyph (c : Char)
  /-- A control character. -/
  | control (c : Char)
  /-- A control sequence: its body holds the parameters. -/
  | sequence (body : List Char) (final : Char)

/-- The characters of an item. -/
def Item.chars : Item → List Char
  | .glyph c => [c]
  | .control c => [c]
  | .sequence body final => (Escape.control body final).chars

/-- The characters of an output. -/
def chars (items : List Item) : List Char := items.flatMap Item.chars

/-- The control characters that act on a screen. -/
def controls : List Char := ['\r', '\n', '\x0b', '\x0c', '\t', '\x08']

/-- An item that never goes back to a row above: a printable character, a control character
that acts on a screen, or a sequence that stays in the row of the cursor. -/
inductive Item.IsDownward : Item → Prop
  | glyph {c : Char} (hlow : 0x20 ≤ c.toNat) : IsDownward (.glyph c)
  | control {c : Char} (hc : c ∈ controls) : IsDownward (.control c)
  | sequence {body : List Char} {final : Char} (hbody : ∀ c ∈ body, isBody c = true)
      (hfinal : final ∈ rowFinals) :
      IsDownward (.sequence body final)

theorem isFinal_of_mem_rowFinals {final : Char} (h : final ∈ rowFinals) :
    isFinal final = true := by
  simp only [rowFinals, List.mem_cons, List.not_mem_nil, or_false] at h
  rcases h with rfl | rfl | rfl | rfl | rfl <;> rfl

/-- An item asks for the same on every screen, and for nothing that goes back up.  A control
sequence is read as one instruction, so the other characters of an item change nothing. -/
theorem Item.IsDownward.exists_instruction {item : Item} (h : item.IsDownward) :
    ∃ instruction : Option Instruction, (∀ i ∈ instruction, i.IsDownward) ∧
      ∀ s : Screen, Terminal.feed ⟨s, .ground⟩ item.chars
        = ⟨instruction.elim s s.perform, .ground⟩ := by
  cases h with
  | @glyph c hlow =>
    have hstep : Decoder.step .ground c = (.ground, Decoder.print c) := by
      rw [Decoder.step, if_neg (Nat.not_lt.2 hlow)]
    refine ⟨Decoder.print c, ?_, ?_⟩
    · intro i hi
      rw [Decoder.print] at hi
      split at hi
      · cases hi
      · obtain rfl := Option.some.inj hi
        trivial
    · -- On the ground the decoder does not look at the screen at all.
      intro s
      rw [Item.chars, Terminal.feed_cons, Terminal.feed_nil, Terminal.step, hstep]
  | @control c hc =>
    refine ⟨Instruction.ofControl? c, ?_, ?_⟩
    · intro i hi
      unfold Instruction.ofControl? at hi
      split at hi <;> cases hi <;> trivial
    · intro s
      simp only [controls, List.mem_cons, List.not_mem_nil, or_false] at hc
      rcases hc with rfl | rfl | rfl | rfl | rfl | rfl <;> rfl
  | @sequence body final hbody hfinal =>
    refine ⟨(Csi.ofBody body).complete final, ?_, ?_⟩
    · intro i hi
      rw [Csi.complete] at hi
      split at hi
      · cases hi
      · obtain rfl := Option.some.inj hi
        exact hfinal
    · intro s
      have hground : (Terminal.mk s .ground).decoder ≠ .controlStringEscape := Decoder.noConfusion
      exact Terminal.feed_control hground hbody (isFinal_of_mem_rowFinals hfinal)

/-- A screen stays a window over an output that only goes down. -/
theorem isWindow_feed {height tall : Nat} {s t : Screen} {items : List Item}
    (hitems : ∀ item ∈ items, item.IsDownward) (h : IsWindow height tall s t) :
    ∃ s' t', Terminal.feed ⟨s, .ground⟩ (chars items) = ⟨s', .ground⟩
      ∧ Terminal.feed ⟨t, .ground⟩ (chars items) = ⟨t', .ground⟩
      ∧ IsWindow height tall s' t' := by
  induction items generalizing s t with
  | nil => exact ⟨s, t, rfl, rfl, h⟩
  | cons item items ih =>
    obtain ⟨hitem, hitems⟩ := List.forall_mem_cons.1 hitems
    obtain ⟨instruction, hdown, hfeed⟩ := hitem.exists_instruction
    -- The item is one instruction or none, the same for both screens.
    have hnext : IsWindow height tall (instruction.elim s s.perform)
        (instruction.elim t t.perform) := by
      cases instruction with
      | none => exact h
      | some i => exact h.perform (hdown i rfl)
    obtain ⟨s', t', hs, ht, hlast⟩ := ih hitems hnext
    have hsplit : chars (item :: items) = item.chars ++ chars items := List.flatMap_cons
    refine ⟨s', t', ?_, ?_, hlast⟩
    · rw [hsplit, Terminal.feed_append, hfeed, hs]
    · rw [hsplit, Terminal.feed_append, hfeed, ht]

end Downward

namespace LiveSession

open Downward Escape Screen

/-- **A short screen is a window on a tall one.**  Over an output that only goes down they
agree on the column, the pen and a deferred wrap, and every row of the short screen shows the
cells of the row of the tall one that is as far from the cursor. -/
theorem window_of_downward {items : List Item} (hitems : ∀ item ∈ items, item.IsDownward)
    (width : Nat) {height tall : Nat} (hheight : 1 ≤ height) (htall : height ≤ tall) :
    ∃ short long : LiveSession,
      (start width height).feed (chars items) = .ok short
      ∧ (start width tall).feed (chars items) = .ok long
      ∧ short.screen.column = long.screen.column ∧ short.screen.pen = long.screen.pen
      ∧ short.screen.wrapPending = long.screen.wrapPending
      ∧ short.screen.line ≤ long.screen.line
      ∧ ∀ y < height, ∃ row row', short.screen.row? y = some row
        ∧ long.screen.row? (y + (long.screen.line - short.screen.line)) = some row'
        ∧ ∀ x, row.cellAt x = row'.cellAt x := by
  obtain ⟨s, t, hs, ht, h⟩ := isWindow_feed hitems (isWindow_blank width htall)
  have hheight' : s.height = height := h.height_eq.trans (Nat.max_eq_left hheight)
  refine ⟨⟨⟨s, .ground⟩, false⟩, ⟨⟨t, .ground⟩, false⟩, ?_, ?_, h.column_eq, h.pen_eq,
    h.wrapPending_eq, h.line_le, ?_⟩
  · exact congrArg (fun terminal => Except.ok (LiveSession.mk terminal false)) hs
  · exact congrArg (fun terminal => Except.ok (LiveSession.mk terminal false)) ht
  · intro y hy
    have hline := h.line_eq
    have hle := h.height_le_height
    have hlt := h.wellFormed_tall.line_lt
    -- Rows of the short screen below its cursor exist only while it has not scrolled.
    have hplace : y + (t.line - s.line) < t.height := by omega
    obtain ⟨row, hrow⟩ := exists_row h.wellFormed (Nat.lt_of_lt_of_eq hy hheight'.symm)
    obtain ⟨row', hrow'⟩ := exists_row h.wellFormed_tall hplace
    have hcells := h.storedCells_eq y
    rw [storedCells_of_row? hrow, storedCells_of_row? hrow'] at hcells
    refine ⟨row, row', hrow, hrow', ?_⟩
    intro x
    rw [Row.cellAt, Row.cellAt, hcells]

/-- Three rows of output: the short screen has scrolled twice, the tall one never. -/
theorem window_of_downward_scrolled :
    let items : List Item := [.glyph 'a', .sequence ['7'] 'm', .glyph 'b', .glyph 'c',
      .control '\x0b', .sequence [] 'G', .glyph 'd', .sequence ['0'] 'K', .glyph 'e']
    (∀ item ∈ items, item.IsDownward)
      ∧ ∃ short long : LiveSession, (start 2 1).feed (chars items) = .ok short
        ∧ (start 2 3).feed (chars items) = .ok long
        ∧ short.screen.text = "de" ∧ long.screen.text = "ab\nc\nde"
        ∧ ∃ row row', short.screen.row? 0 = some row ∧ long.screen.row? 2 = some row'
          ∧ ∀ x, row.cellAt x = row'.cellAt x := by
  intro items
  have hitems : ∀ item ∈ items, item.IsDownward := by
    have hsequence {body : List Char} {final : Char} (hbody : body.all isBody = true)
        (hfinal : final ∈ rowFinals) : (Item.sequence body final).IsDownward :=
      .sequence (List.all_eq_true.1 hbody) hfinal
    simp only [items, List.forall_mem_cons, List.not_mem_nil, false_implies, implies_true, and_true]
    exact ⟨.glyph (by decide), hsequence rfl (by decide), .glyph (by decide), .glyph (by decide),
      .control (by decide), hsequence rfl (by decide), .glyph (by decide),
      hsequence rfl (by decide), .glyph (by decide)⟩
  obtain ⟨short, long, hshort, hlong, -, -, -, -, hrows⟩ :=
    window_of_downward hitems 2 (show 1 ≤ 1 by decide) (show 1 ≤ 3 by decide)
  have hshort' := Except.ok.inj hshort
  have hlong' := Except.ok.inj hlong
  have hlines : long.screen.line - short.screen.line = 2 := by
    rw [← hshort', ← hlong']
    decide +kernel
  obtain ⟨row, row', hrow, hrow', hcells⟩ := hrows 0 Nat.one_pos
  rw [hlines] at hrow'
  refine ⟨hitems, short, long, hshort, hlong, ?_, ?_, row, row', hrow, hrow', hcells⟩
  · rw [← hshort']
    decide +kernel
  · rw [← hlong']
    decide +kernel

end LiveSession

end ConsoleReplay
