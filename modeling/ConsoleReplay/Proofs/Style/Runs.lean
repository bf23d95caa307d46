import ConsoleReplay.Style.Run
import Mathlib.Data.List.Chain

/-!
# Longest runs

The runs of cells are told by what they have to be: together they stand for the cells, none is
empty, and neighbours differ in style.  There is one way to cut cells into such runs, so it does
not matter in which order the cells are gathered.  They may be gathered from the front: the next
cell makes the last run longer or begins another one.

## Main definitions

* `Run.Longest cells runs` — cells cut into their longest runs in one style.
* `Run.snoc runs cell` — runs with one more cell behind them.

## Main results

* `Run.longest_iff` — cells can be cut into longest runs in one way.
* `Run.Longest.extend`, `Run.Longest.begin` — what the next cell does to longest runs.
* `Run.foldl_snoc` — runs gathered from the front are the longest ones.
-/

namespace ConsoleReplay

namespace Run

/-- Cells cut into their longest runs: no run is empty, and neighbours differ in style. -/
structure Longest (cells : List Cell) (runs : List Run) : Prop where
  cells_eq : runs.flatMap Run.cells = cells
  ne_nil : ∀ run ∈ runs, run.chars ≠ []
  apart : runs.IsChain fun run next => run.style ≠ next.style

/-- The cells of a run in front of cells whose runs begin in another style. -/
theorem ofCells_cells_append {run : Run} (hrun : run.chars ≠ []) {cells : List Cell}
    (h : ∀ next ∈ (ofCells cells).head?, run.style ≠ next.style) :
    ofCells (run.cells ++ cells) = run :: ofCells cells := by
  obtain ⟨chars, style⟩ := run
  induction chars with
  | nil => exact absurd rfl hrun
  | cons c chars ih =>
    have hcells : (Run.mk (c :: chars) style).cells ++ cells
        = ⟨c, style⟩ :: ((Run.mk chars style).cells ++ cells) := rfl
    rw [hcells, ofCells_cons]
    -- The runs are built from the back, so only the last cell of the run meets the style of what
    -- comes after it.
    cases chars with
    | nil =>
      cases hfirst : ofCells cells with
      | nil =>
        have hnone : ofCells ((Run.mk [] style).cells ++ cells) = [] := hfirst
        rw [hnone]
        rfl
      | cons next runs =>
        have hsome : ofCells ((Run.mk [] style).cells ++ cells) = next :: runs := hfirst
        rw [hsome, cons, if_neg]
        exact (h next (by rw [hfirst]; rfl)).symm
    | cons d chars =>
      rw [ih (List.cons_ne_nil d chars) h, cons, if_pos rfl]

theorem Longest.eq_ofCells {cells : List Cell} {runs : List Run} (h : Longest cells runs) :
    runs = ofCells cells := by
  obtain ⟨rfl, hne, hapart⟩ := h
  induction runs with
  | nil => rfl
  | cons run runs ih =>
    obtain ⟨hrun, hruns⟩ := List.forall_mem_cons.1 hne
    have hrest := ih hruns hapart.tail
    -- That the runs are maximal is used here: the next run, if there is one, has another style.
    rw [List.flatMap_cons, ofCells_cells_append hrun, ← hrest]
    rw [← hrest]
    intro next hnext
    cases runs with
    | nil => cases hnext
    | cons first runs =>
      obtain rfl : first = next := Option.some.inj hnext
      exact (List.isChain_cons_cons.1 hapart).1

/-- A cell in front joins the first run or begins another one. -/
theorem Longest.cons {cells : List Cell} {runs : List Run} (h : Longest cells runs) (cell : Cell) :
    Longest (cell :: cells) (Run.cons cell runs) := by
  refine ⟨by rw [flatMap_cells_cons, h.cells_eq], ?_, ?_⟩
  · intro run hrun
    cases runs with
    | nil =>
      rw [List.mem_singleton.1 hrun]
      exact List.cons_ne_nil _ _
    | cons first runs =>
      rw [Run.cons] at hrun
      split at hrun
      · rcases List.mem_cons.1 hrun with rfl | hrun
        · exact List.cons_ne_nil _ _
        · exact h.ne_nil run (List.mem_cons_of_mem first hrun)
      · rcases List.mem_cons.1 hrun with rfl | hrun
        · exact List.cons_ne_nil _ _
        · exact h.ne_nil run hrun
  · cases runs with
    | nil => exact .singleton _
    | cons first runs =>
      rw [Run.cons]
      split
      · -- The style of the first run is what it was.
        have hapart := h.apart
        cases runs with
        | nil => exact .singleton _
        | cons next runs => exact List.isChain_cons_cons.2 (List.isChain_cons_cons.1 hapart)
      · next hstyle => exact List.isChain_cons_cons.2 ⟨Ne.symm hstyle, h.apart⟩

/-- The runs of cells are their longest ones. -/
theorem longest_ofCells (cells : List Cell) : Longest cells (ofCells cells) := by
  induction cells with
  | nil => exact ⟨rfl, fun run hrun => absurd hrun List.not_mem_nil, .nil⟩
  | cons cell cells ih => exact ih.cons cell

/-- Cells can be cut into longest runs in one way. -/
theorem longest_iff {cells : List Cell} {runs : List Run} :
    Longest cells runs ↔ runs = ofCells cells :=
  ⟨Longest.eq_ofCells, fun h => h ▸ longest_ofCells cells⟩

/-- One more cell in the style of the last run makes it longer. -/
theorem Longest.extend {cells : List Cell} {closed : List Run} {chars : List Char} {style : Style}
    (h : Longest cells (closed ++ [⟨chars, style⟩])) (c : Char) :
    Longest (cells ++ [⟨c, style⟩]) (closed ++ [⟨chars ++ [c], style⟩]) := by
  obtain ⟨hcells, hne, hapart⟩ := h
  refine ⟨?_, ?_, ?_⟩
  · rw [← hcells]
    simp [Run.cells]
  · obtain ⟨hclosed, -⟩ := List.forall_mem_append.1 hne
    refine List.forall_mem_append.2 ⟨hclosed, List.forall_mem_singleton.2 ?_⟩
    exact List.concat_ne_nil c chars
  · -- The style of the last run stays the same, and neighbours are told apart by their styles
    -- alone.
    rw [List.isChain_append] at hapart ⊢
    obtain ⟨hclosed, -, hlast⟩ := hapart
    refine ⟨hclosed, .singleton _, ?_⟩
    rintro run hrun _ ⟨⟩
    exact hlast run hrun ⟨chars, style⟩ rfl

/-- One more cell in another style begins another run. -/
theorem Longest.begin {cells : List Cell} {closed : List Run} {run : Run}
    (h : Longest cells (closed ++ [run])) {cell : Cell} (hstyle : run.style ≠ cell.style) :
    Longest (cells ++ [cell]) (closed ++ [run] ++ [⟨[cell.char], cell.style⟩]) := by
  obtain ⟨hcells, hne, hapart⟩ := h
  refine ⟨?_, ?_, ?_⟩
  · rw [List.flatMap_append, hcells]
    rfl
  · exact List.forall_mem_append.2 ⟨hne, List.forall_mem_singleton.2 (List.cons_ne_nil _ _)⟩
  · refine List.isChain_append.2 ⟨hapart, .singleton _, ?_⟩
    intro last hlast next hnext
    rw [List.getLast?_concat] at hlast
    obtain rfl := Option.some.inj hlast
    obtain rfl := Option.some.inj hnext
    exact hstyle

/-- The texts of the runs are the characters of the cells. -/
theorem flatMap_chars_ofCells (cells : List Cell) :
    (ofCells cells).flatMap Run.chars = cells.map Cell.char := by
  have hrun (run : Run) : run.cells.map Cell.char = run.chars := by
    rw [Run.cells, List.map_map]
    exact List.map_id run.chars
  conv_rhs => rw [← flatMap_cells_ofCells cells, List.map_flatMap]
  simp only [hrun]

theorem longest_singleton (cell : Cell) : Longest [cell] [⟨[cell.char], cell.style⟩] :=
  longest_ofCells [cell]

/-! ### Gathering from the front -/

/-- Put a cell behind runs: into the last one if the style is the same. -/
def snoc (runs : List Run) (cell : Cell) : List Run :=
  match runs.getLast? with
  | some run =>
    if run.style = cell.style then runs.dropLast ++ [⟨run.chars ++ [cell.char], run.style⟩]
    else runs ++ [⟨[cell.char], cell.style⟩]
  | none => [⟨[cell.char], cell.style⟩]

/-- A cell behind the others joins the last run or begins another one.  It is the way in which a
reader from the front meets the cells. -/
theorem Longest.snoc {cells : List Cell} {runs : List Run} (h : Longest cells runs) (cell : Cell) :
    Longest (cells ++ [cell]) (Run.snoc runs cell) := by
  rcases List.eq_nil_or_concat' runs with rfl | ⟨closed, ⟨chars, style⟩, rfl⟩
  · obtain rfl : cells = [] := h.cells_eq.symm
    exact longest_singleton cell
  · rw [Run.snoc, List.getLast?_concat, List.dropLast_concat]
    dsimp only
    split
    · next hstyle =>
      obtain ⟨c, style'⟩ := cell
      obtain rfl : style = style' := hstyle
      exact h.extend c
    · next hstyle => exact h.begin hstyle

/-- Runs gathered cell by cell from the front are the longest ones. -/
theorem foldl_snoc (cells : List Cell) : cells.foldl snoc [] = ofCells cells := by
  refine Longest.eq_ofCells ?_
  induction cells using List.reverseRecOn with
  | nil => exact longest_ofCells []
  | append_singleton cells cell ih =>
    rw [List.foldl_concat]
    exact ih.snoc cell

end Run

end ConsoleReplay
