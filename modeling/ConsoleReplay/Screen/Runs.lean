import ConsoleReplay.Screen.Basic

/-!
# Painting with colours

For painting with colours a row is told as runs of cells in one style.  Plain
spaces at the end of the row are left out.

## Main definitions

* `Row.paintedCells row` — the cells up to the last one that is not a plain space.
* `Row.runs`, `Screen.runs` — the runs of a row and of every row.
-/

namespace ConsoleReplay

namespace Row

/-- The cells up to the last one that is not a plain space.  Spaces in a style of their own are
painted, as they may show a background. -/
def paintedCells (row : Row) : List Cell :=
  (row.cells.reverse.dropWhile (· == Cell.blank)).reverse

/-- The runs that a row is painted with. -/
def runs (row : Row) : List Run := Run.ofCells row.paintedCells

end Row

/-- The runs of every row. -/
def Screen.runs (s : Screen) : List (List Run) := s.rows.map Row.runs

end ConsoleReplay
