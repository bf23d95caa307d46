import ConsoleReplay.Screen.Sequence

/-!
# Well-formed screens

A screen is well formed when it has as many rows as its height says, no row stores
a cell past the width, the cursor stands on the screen, and a deferred wrap waits
in the last column.  A new screen is well formed, and every operation keeps it so,
whatever its arguments are: positions are moved onto the screen before a row is
looked up, and an erase never makes a row longer.

## Main definitions

* `Screen.WellFormed s` — the invariant.

## Main results

* `wellFormed_blank` — a new screen is well formed, whatever size was asked for.
* `WellFormed.put`, `WellFormed.write`, `WellFormed.tab`, ... — one theorem for
  every operation.
* `WellFormed.perform` — an instruction of the decoder keeps a screen well formed.
-/

namespace ConsoleReplay

namespace Row

/-! ### How many cells a row stores -/

@[simp] theorem length_cells_touch (row : Row) : row.touch.cells.length = row.cells.length := rfl

/-- A cell stored past the end is reached over blanks. -/
@[simp] theorem length_cells_put (row : Row) (x : Nat) (cell : Cell) :
    (row.put x cell).cells.length = max row.cells.length (x + 1) := by
  simp only [put, putCell]
  split
  · rw [List.length_set]
    omega
  · simp only [List.length_append, List.length_replicate, List.length_cons, List.length_nil]
    omega

@[simp] theorem length_cells_eraseFrom (row : Row) (x : Nat) :
    (row.eraseFrom x).cells.length = min x row.cells.length :=
  List.length_take

@[simp] theorem length_cells_truncate (row : Row) (width : Nat) :
    (row.truncate width).cells.length = min width row.cells.length :=
  List.length_take

@[simp] theorem length_blankThrough (cells : List Cell) (x : Nat) :
    (blankThrough cells x).length = cells.length := by
  simp only [blankThrough, List.length_append, List.length_replicate, List.length_drop]
  omega

theorem length_cells_eraseThrough_le (row : Row) (x : Nat) :
    (row.eraseThrough x).cells.length ≤ row.cells.length := by
  simp only [eraseThrough]
  split
  · exact Nat.zero_le _
  · exact Nat.le_of_eq (length_blankThrough row.cells x)

/-- An erase never makes a row longer. -/
theorem length_cells_erase_le (row : Row) (x : Nat) (extent : Extent) :
    (row.erase x extent).cells.length ≤ row.cells.length := by
  cases extent with
  | toEnd =>
    rw [erase, length_cells_eraseFrom]
    exact Nat.min_le_right ..
  | toStart => exact length_cells_eraseThrough_le row x
  | all => exact Nat.zero_le _

end Row

namespace Screen

/-- A screen in good order: what every operation may rely on, and keeps.  There is a place for the
cursor and a row for every number below the height. -/
structure WellFormed (s : Screen) : Prop where
  width_pos : 1 ≤ s.width
  height_pos : 1 ≤ s.height
  length_rows : s.rows.length = s.height
  /-- No row stores a cell past the width. -/
  length_cells_le : ∀ row ∈ s.rows, row.cells.length ≤ s.width
  column_lt : s.column < s.width
  line_lt : s.line < s.height
  /-- A deferred wrap waits in the last column. -/
  column_of_wrapPending : s.wrapPending = true → s.column = s.width - 1

/-- A new screen is well formed, whatever size was asked for. -/
theorem wellFormed_blank (width height : Nat) : (blank width height).WellFormed where
  width_pos := Nat.le_max_right ..
  height_pos := Nat.le_max_right ..
  length_rows := List.length_replicate
  length_cells_le := by
    intro row hrow
    rw [List.eq_of_mem_replicate hrow]
    exact Nat.zero_le _
  column_lt := Nat.lt_of_lt_of_le Nat.one_pos (Nat.le_max_right ..)
  line_lt := Nat.lt_of_lt_of_le Nat.one_pos (Nat.le_max_right ..)
  column_of_wrapPending := by
    intro h
    exact absurd h Bool.false_ne_true

namespace WellFormed

variable {s : Screen}

/-! ### Positions on the screen -/

theorem clampColumn_lt (h : s.WellFormed) (x : Nat) : s.clampColumn x < s.width := by
  have := h.width_pos
  rw [clampColumn]
  omega

theorem clampLine_lt (h : s.WellFormed) (y : Nat) : s.clampLine y < s.height := by
  have := h.height_pos
  rw [clampLine]
  omega

/-! ### The two kinds of change

An operation moves the cursor or changes rows.  The first kind has to say that the
new position is on the screen and when a wrap is deferred there, the second that
no row gets too long. -/

/-- Moving the cursor on the screen. -/
theorem moveCursor (h : s.WellFormed) {x y : Nat} {wrap : Bool} (hx : x < s.width)
    (hy : y < s.height) (hwrap : wrap = true → x = s.width - 1) :
    { s with column := x, line := y, wrapPending := wrap }.WellFormed where
  width_pos := h.width_pos
  height_pos := h.height_pos
  length_rows := h.length_rows
  length_cells_le := h.length_cells_le
  column_lt := hx
  line_lt := hy
  column_of_wrapPending := hwrap

theorem callOff (h : s.WellFormed) : { s with wrapPending := false }.WellFormed :=
  h.moveCursor h.column_lt h.line_lt fun hw => absurd hw Bool.false_ne_true

/-- Putting other rows, as many as before, in the place of the rows. -/
theorem setRows (h : s.WellFormed) {rows : List Row} (dirty : Bool)
    (hlen : rows.length = s.rows.length) (hcells : ∀ row ∈ rows, row.cells.length ≤ s.width) :
    { s with rows := rows, dirty := dirty }.WellFormed where
  width_pos := h.width_pos
  height_pos := h.height_pos
  length_rows := hlen.trans h.length_rows
  length_cells_le := hcells
  column_lt := h.column_lt
  line_lt := h.line_lt
  column_of_wrapPending := h.column_of_wrapPending

/-- Changing one row. -/
theorem updateRow (h : s.WellFormed) (y : Nat) {f : Row → Row}
    (hf : ∀ row, row.cells.length ≤ s.width → (f row).cells.length ≤ s.width) :
    (s.updateRow y f).WellFormed := by
  refine h.setRows true (List.length_modify ..) ?_
  intro row hrow
  obtain ⟨i, hi⟩ := List.mem_iff_getElem?.1 hrow
  rw [List.getElem?_modify] at hi
  obtain ⟨row', hrow', rfl⟩ := Option.map_eq_some_iff.1 hi
  have hle : row'.cells.length ≤ s.width := h.length_cells_le row' (List.mem_of_getElem? hrow')
  split
  · exact hf row' hle
  · exact hle

/-! ### Writing -/

theorem put (h : s.WellFormed) (x y : Nat) (c : Char) : (s.put x y c).WellFormed := by
  refine h.updateRow _ fun row hrow => ?_
  have := h.clampColumn_lt x
  rw [Row.length_cells_put]
  omega

theorem scrollUp (h : s.WellFormed) : s.scrollUp.WellFormed := by
  -- The number of rows stays what it was only because there is one to lose.
  have hne : s.rows ≠ [] := by
    intro hnil
    have hlen := h.length_rows
    have hpos := h.height_pos
    rw [hnil, List.length_nil] at hlen
    omega
  refine h.setRows true (length_rows_scrollUp hne) ?_
  intro row hrow
  obtain ⟨row', hrow', rfl⟩ := List.mem_map.1 hrow
  rw [Row.length_cells_touch]
  rcases List.mem_append.1 hrow' with htail | hnew
  · exact h.length_cells_le row' (List.mem_of_mem_tail htail)
  · rw [List.mem_singleton.1 hnew]
    exact Nat.zero_le _

theorem carriageReturn (h : s.WellFormed) : s.carriageReturn.WellFormed :=
  h.moveCursor h.width_pos h.line_lt fun hw => absurd hw Bool.false_ne_true

theorem lineFeed (h : s.WellFormed) : s.lineFeed.WellFormed := by
  simp only [Screen.lineFeed]
  split
  · exact h.callOff.scrollUp
  · next hlt =>
    exact h.moveCursor h.column_lt (Nat.lt_of_not_le hlt) fun hw => absurd hw Bool.false_ne_true

theorem wrap (h : s.WellFormed) : s.wrap.WellFormed := by
  rw [Screen.wrap]
  split
  · exact h.carriageReturn.lineFeed
  · exact h

/-- The last column is where `advance` defers a wrap. -/
theorem advance (h : s.WellFormed) : s.advance.WellFormed := by
  have hlt := h.column_lt
  rw [Screen.advance]
  split
  · refine h.moveCursor h.column_lt h.line_lt fun _ => ?_
    omega
  · refine h.moveCursor (by omega) h.line_lt fun hw => ?_
    have := h.column_of_wrapPending hw
    omega

theorem write (h : s.WellFormed) (c : Char) : (s.write c).WellFormed := by
  rw [Screen.write]
  split
  · exact h
  · exact (h.wrap.put _ _ c).advance

/-- Blanks written at several columns of a row. -/
theorem putAll (h : s.WellFormed) (xs : List Nat) (c : Char) :
    (xs.foldl (fun s x => s.put x s.line c) s).WellFormed := by
  induction xs generalizing s with
  | nil => exact h
  | cons x xs ih => exact ih (h.put x s.line c)

end WellFormed

/-- Writing at several columns of a row leaves the size and the cursor alone. -/
theorem frame_putAll (s : Screen) (xs : List Nat) (c : Char) :
    let t := xs.foldl (fun s x => s.put x s.line c) s
    t.width = s.width ∧ t.height = s.height ∧ t.column = s.column ∧ t.line = s.line ∧
      t.wrapPending = s.wrapPending := by
  induction xs generalizing s with
  | nil => exact ⟨rfl, rfl, rfl, rfl, rfl⟩
  | cons x xs ih => exact ih (s.put x s.line c)

namespace WellFormed

variable {s : Screen}

/-- The blanks are written before the cursor moves, and leave it and the size alone. -/
theorem fillTo (h : s.WellFormed) (hwrap : s.wrapPending = false) (stop : Nat) :
    (s.fillTo stop).WellFormed := by
  let xs := List.range' s.column (s.clampColumn stop - s.column)
  obtain ⟨hwidth, hheight, hcol, hline, hpending⟩ := frame_putAll s xs ' '
  refine (h.putAll xs ' ').moveCursor ?_ ?_ fun hw => ?_
  · rw [hwidth, hcol]
    exact Nat.max_lt.2 ⟨h.column_lt, h.clampColumn_lt stop⟩
  · rw [hheight, hline]
    exact h.line_lt
  · rw [hpending, hwrap] at hw
    exact absurd hw Bool.false_ne_true

/-- A screen that failed is still in order: nothing but the flag changed. -/
theorem fail (h : s.WellFormed) : { s with failed := true }.WellFormed where
  width_pos := h.width_pos
  height_pos := h.height_pos
  length_rows := h.length_rows
  length_cells_le := h.length_cells_le
  column_lt := h.column_lt
  line_lt := h.line_lt
  column_of_wrapPending := h.column_of_wrapPending

theorem tab (h : s.WellFormed) : s.tab.WellFormed :=
  s.tab_cases (h.callOff.fillTo rfl) h.callOff.fail

theorem backspace (h : s.WellFormed) : s.backspace.WellFormed := by
  have hcolumn := h.column_lt
  simp only [Screen.backspace]
  split
  · exact h.callOff
  · have hback : { s with column := s.column - 1, wrapPending := false }.WellFormed :=
      h.moveCursor (by omega) h.line_lt fun hw => absurd hw Bool.false_ne_true
    split
    · refine hback.updateRow _ fun row hrow => ?_
      rw [Row.length_cells_put]
      have hle : s.column - 1 + 1 ≤ s.width := by omega
      exact Nat.max_le.2 ⟨hrow, hle⟩
    · exact hback

/-! ### Moving, erasing and changing the size -/

theorem moveTo (h : s.WellFormed) (x y : Nat) : (s.moveTo x y).WellFormed :=
  h.moveCursor (h.clampColumn_lt x) (h.clampLine_lt y) fun hw => absurd hw Bool.false_ne_true

theorem moveBy (h : s.WellFormed) (dx dy : Int) : (s.moveBy dx dy).WellFormed :=
  h.moveTo _ _

theorem eraseLine (h : s.WellFormed) (y : Nat) (extent : Extent) :
    (s.eraseLine y extent).WellFormed := by
  refine h.callOff.updateRow _ fun row hrow => ?_
  exact Nat.le_trans (Row.length_cells_erase_le row s.column extent) hrow

theorem eraseRows (h : s.WellFormed) (ys : List Nat) : (s.eraseRows ys).WellFormed := by
  induction ys generalizing s with
  | nil => exact h
  | cons y ys ih => exact ih (h.eraseLine y .all)

theorem eraseDisplay (h : s.WellFormed) (extent : Extent) : (s.eraseDisplay extent).WellFormed := by
  cases extent with
  | toEnd => exact (h.eraseLine s.line .toEnd).eraseRows _
  | toStart => exact (h.eraseRows (List.range s.line)).eraseLine _ .toStart
  | all => exact h.eraseRows _

theorem markClean (h : s.WellFormed) : s.markClean.WellFormed := by
  refine h.setRows false (List.length_map ..) ?_
  intro row hrow
  obtain ⟨row', hrow', rfl⟩ := List.mem_map.1 hrow
  exact h.length_cells_le row' hrow'

end WellFormed

/-- Rows are cut to the new width, their number to the new height, and the cursor is
moved onto the screen.  Of the old screen nothing has to be known. -/
theorem wellFormed_resize (s : Screen) (width height : Nat) :
    (s.resize width height).WellFormed where
  width_pos := Nat.le_max_right ..
  height_pos := Nat.le_max_right ..
  length_rows := length_rows_resize s width height
  length_cells_le := by
    intro row hrow
    obtain ⟨row', -, rfl⟩ := List.mem_map.1 hrow
    rw [Row.length_cells_truncate]
    exact Nat.min_le_left ..
  column_lt := by
    simp only [resize]
    omega
  line_lt := by
    simp only [resize]
    omega
  column_of_wrapPending := by
    -- A new size calls a deferred wrap off.
    intro h
    exact absurd h Bool.false_ne_true

/-! ### Control sequences -/

namespace WellFormed

variable {s t : Screen}

/-- The pen has no part in the order of a screen. -/
theorem setPen (h : s.WellFormed) (pen : Style) : { s with pen := pen }.WellFormed where
  width_pos := h.width_pos
  height_pos := h.height_pos
  length_rows := h.length_rows
  length_cells_le := h.length_cells_le
  column_lt := h.column_lt
  line_lt := h.line_lt
  column_of_wrapPending := h.column_of_wrapPending

/-- Whatever the final character and the parameters are, a cursor sequence that is
known keeps the screen well formed. -/
theorem moveCursor? (h : s.WellFormed) {final : Char} {params : List Nat}
    (hs : s.moveCursor? final params = some t) : t.WellFormed := by
  simp only [Screen.moveCursor?] at hs
  split at hs
  all_goals cases hs
  · exact h.moveBy _ _
  · exact h.moveBy _ _
  · exact h.moveBy _ _
  · exact h.moveBy _ _
  · -- Some moves go to the start of the line first.
    exact h.carriageReturn.moveBy _ _
  · exact h.carriageReturn.moveBy _ _
  · exact h.moveTo _ _
  · exact h.moveTo _ _
  · exact h.moveTo _ _
  · exact h.moveTo _ _

theorem erase? (h : s.WellFormed) {final : Char} {params : List Nat}
    (hs : s.erase? final params = some t) : t.WellFormed := by
  simp only [Screen.erase?] at hs
  split at hs
  all_goals cases hs
  · exact h.eraseDisplay _
  · exact h.eraseLine _ _

theorem sequence? (h : s.WellFormed) {final : Char} {params : List Nat}
    (hs : s.sequence? final params = some t) : t.WellFormed := by
  simp only [Screen.sequence?] at hs
  split at hs
  all_goals first
    | exact h.moveCursor? hs
    | exact h.erase? hs
    | cases hs
  exact h.setPen _

/-- What is decided to change a screen, or else leaves it alone, keeps it well
formed. -/
theorem getD (h : s.WellFormed) {next : Option Screen} (hs : ∀ t, next = some t → t.WellFormed) :
    (next.getD s).WellFormed := by
  cases next with
  | none => exact h
  | some t => exact hs t rfl

/-- Every instruction keeps a screen well formed. -/
theorem perform (h : s.WellFormed) (instruction : Instruction) :
    (s.perform instruction).WellFormed := by
  cases instruction with
  | write c => exact h.write c
  | carriageReturn => exact h.carriageReturn
  | lineFeed => exact h.lineFeed
  | backspace => exact h.backspace
  | tab => exact h.tab
  | sequence final params => exact h.getD fun t ht => h.sequence? ht

end WellFormed

end Screen

end ConsoleReplay
