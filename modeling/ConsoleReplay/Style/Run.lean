import ConsoleReplay.Style.Basic

/-!
# Styled characters and runs

A cell is a character in a style.  A styled text is told as runs: the longest
stretches of neighbouring cells in one style.

## Main definitions

* `Cell` — a character and its style; `Cell.blank` is a plain space.
* `Run` — a text in one style.
* `Run.ofCells cells` — the runs of a styled text.
* `Run.cells run` — the cells that a run stands for.
-/

namespace ConsoleReplay

/-- A character in a style. -/
structure Cell where
  char : Char
  style : Style
  deriving DecidableEq, Repr

/-- The plain space that an unwritten cell reads as. -/
def Cell.blank : Cell := ⟨' ', .plain⟩

instance : Inhabited Cell := ⟨.blank⟩

/-- A text in one style. -/
structure Run where
  chars : List Char
  style : Style
  deriving DecidableEq, Repr

namespace Run

/-- The text of a run. -/
def text (run : Run) : String := .ofList run.chars

/-- The cells that a run stands for. -/
def cells (run : Run) : List Cell := run.chars.map fun c => ⟨c, run.style⟩

/-- Put a cell in front of runs: into the first one if the style is the same.  So no two neighbours
are ever of one style. -/
def cons (cell : Cell) : List Run → List Run
  | [] => [⟨[cell.char], cell.style⟩]
  | run :: runs =>
    if run.style = cell.style then ⟨cell.char :: run.chars, run.style⟩ :: runs
    else ⟨[cell.char], cell.style⟩ :: run :: runs

/-- The longest stretches of cells in one style, in order. -/
def ofCells (cells : List Cell) : List Run := cells.foldr cons []

@[simp] theorem ofCells_cons (cell : Cell) (cells : List Cell) :
    ofCells (cell :: cells) = cons cell (ofCells cells) := rfl

/-- A cell put in front of runs comes in front of their cells. -/
theorem flatMap_cells_cons (cell : Cell) (runs : List Run) :
    (cons cell runs).flatMap cells = cell :: runs.flatMap cells := by
  cases runs with
  | nil => rfl
  | cons run runs =>
    obtain ⟨chars, style⟩ := run
    by_cases h : style = cell.style
    · subst h
      simp [cons, cells]
    · simp [cons, cells, h]

/-- The runs of a styled text stand for its cells, in order. -/
theorem flatMap_cells_ofCells (cells : List Cell) : (ofCells cells).flatMap Run.cells = cells := by
  induction cells with
  | nil => rfl
  | cons cell cells ih => rw [ofCells_cons, flatMap_cells_cons, ih]

end Run

end ConsoleReplay
