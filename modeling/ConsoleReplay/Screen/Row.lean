import ConsoleReplay.Style.Run
import ConsoleReplay.Text.Blank

/-!
# Screen rows

A row stores cells only up to the rightmost one written; what lies beyond reads
as blank.  A row also knows whether it changed since it was last painted.

## Main definitions

* `Row` — the stored cells of one line of the screen, and its dirty flag.
* `Row.cellAt row x` — the cell read at a column, stored or not.
* `Row.put`, `Row.eraseFrom`, `Row.eraseThrough`, `Row.eraseAll`, `Row.truncate` —
  the changes that a row goes through.
* `Row.shown` — what the row shows, without the blanks at its end.
-/

namespace ConsoleReplay

/-- One line of the screen.  It stores cells only as far as it was written, so an empty line costs
nothing and a blank at its end differs from a column never reached. -/
structure Row where
  /-- The cells up to the rightmost one written. -/
  cells : List Cell
  /-- Whether the row changed since it was last painted. -/
  dirty : Bool
  deriving DecidableEq, Repr

namespace Row

/-- A row that shows nothing and still has to be painted. -/
def empty : Row := ⟨[], true⟩

instance : Inhabited Row := ⟨empty⟩

/-- The cell at a column: the stored one, or a blank past the stored cells. -/
def cellAt (row : Row) (x : Nat) : Cell := row.cells[x]?.getD .blank

/-- Cells with one of them replaced.  A column past the end is reached over blanks, which are plain
whatever the style of the cell is. -/
def putCell (cells : List Cell) (x : Nat) (cell : Cell) : List Cell :=
  if x < cells.length then cells.set x cell
  else cells ++ List.replicate (x - cells.length) .blank ++ [cell]

/-- The row with a cell stored at a column. -/
def put (row : Row) (x : Nat) (cell : Cell) : Row := ⟨putCell row.cells x cell, true⟩

/-- Whether a row holds nothing but spaces, whatever their style.  A space on a coloured background
counts, although it can be seen. -/
def isBlank (row : Row) : Bool := row.cells.all fun cell => cell.char == ' '

/-- The row without its cells from a column on. -/
def eraseFrom (row : Row) (x : Nat) : Row := ⟨row.cells.take x, true⟩

/-- Cells with the ones up to a column, that column included, made blank. -/
def blankThrough (cells : List Cell) (x : Nat) : List Cell :=
  List.replicate (min (x + 1) cells.length) .blank ++ cells.drop (x + 1)

/-- The row with the cells up to a column made blank, that column included.  A row left with spaces
alone stores nothing any more, not even those to the right of the column. -/
def eraseThrough (row : Row) (x : Nat) : Row :=
  let erased : Row := ⟨blankThrough row.cells x, true⟩
  if erased.isBlank then empty else erased

/-- The row without its cells. -/
def eraseAll (_row : Row) : Row := empty

/-- The row cut to a width, to be painted anew. -/
def truncate (row : Row) (width : Nat) : Row := ⟨row.cells.take width, true⟩

/-- The row with its dirty flag set. -/
def touch (row : Row) : Row := { row with dirty := true }

/-- The row with its dirty flag cleared. -/
def markClean (row : Row) : Row := { row with dirty := false }

/-- The characters a row shows, blanks at its end left out.  The style of a blank makes no
difference. -/
def shown (row : Row) : List Char := Text.trimEnd (row.cells.map Cell.char)

/-- What a row shows. -/
def text (row : Row) : String := .ofList row.shown

/-! ### Reading a row after a change -/

@[simp] theorem cellAt_empty (x : Nat) : empty.cellAt x = .blank := by simp [cellAt, empty]

theorem cellAt_of_length_le {row : Row} {x : Nat} (h : row.cells.length ≤ x) :
    row.cellAt x = .blank := by
  simp [cellAt, List.getElem?_eq_none h]

theorem putCell_length (cells : List Cell) (cell : Cell) :
    putCell cells cells.length cell = cells ++ [cell] := by
  rw [putCell, if_neg (Nat.lt_irrefl _), Nat.sub_self, List.replicate_zero, List.append_nil]

/-- After a cell is stored at a column, that column reads as the cell and every
other one as before. -/
theorem cellAt_put (row : Row) (x y : Nat) (cell : Cell) :
    (row.put x cell).cellAt y = if y = x then cell else row.cellAt y := by
  simp only [cellAt, put, putCell]
  split
  · rename_i h
    rw [List.getElem?_set]
    grind
  · rename_i h
    grind

/-- After an erase from a column on, only the columns before it still read as
they did. -/
theorem cellAt_eraseFrom (row : Row) (x y : Nat) :
    (row.eraseFrom x).cellAt y = if y < x then row.cellAt y else .blank := by
  simp only [cellAt, eraseFrom, List.getElem?_take]
  split <;> rfl

/-- Cutting a row keeps the columns below its width. -/
theorem cellAt_truncate (row : Row) (width y : Nat) :
    (row.truncate width).cellAt y = if y < width then row.cellAt y else .blank :=
  cellAt_eraseFrom row width y

@[simp] theorem cellAt_eraseAll (row : Row) (y : Nat) : row.eraseAll.cellAt y = .blank := by
  simp [eraseAll]

end Row

end ConsoleReplay
