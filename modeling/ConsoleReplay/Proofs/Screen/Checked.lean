import ConsoleReplay.Proofs.Screen.Operation

/-!
# Operations with checked indices

The operations of a screen once more, where a row and a cell are looked up under a
number that has to be there, and the last column and the last row are only counted
on a screen that has one.  An operation whose index is out of range has no result.

On a well-formed screen all of them have a result, and it is the one of the plain
operation.  So in no run is an index ever out of range.  A tab that has no stop fails
before it looks anything up, so for indices it counts as a result like any other.

## Main definitions

* `Checked.setCell`, `Checked.row`, `Checked.lastColumn`, `Checked.lastLine` — the
  checks: a cell, a row, and the numbers of the last column and row.
* `Checked.put`, `Checked.write`, `Checked.tab`, ... — the operations of a screen.
* `Checked.apply`, `Checked.run` — the operations on a terminal, and runs of them.

## Main results

* `Checked.run_eq_some` — on a well-formed terminal **a run with checked indices** has a
  result, and it is the one of the run without checks.
-/

namespace ConsoleReplay

namespace Checked

/-! ### Cells of a row -/

/-- Cells with the one at a column replaced, which has to be stored.  It fails where an index would
be out of range. -/
def setCell (cells : List Cell) (x : Nat) (cell : Cell) : Option (List Cell) :=
  if x < cells.length then some (cells.set x cell) else none

/-- Cells with so many at the front made blank, which all have to be stored. -/
def blankFront (cells : List Cell) (n : Nat) : Option (List Cell) :=
  if n ≤ cells.length then some (List.replicate n .blank ++ cells.drop n) else none

/-- Cells filled up with blanks to a length, which comes before every access to a cell that may not
be stored. -/
def padded (cells : List Cell) (n : Nat) : List Cell :=
  cells ++ List.replicate (n - cells.length) .blank

/-- The row with a cell stored at a column: it is filled up to the column first. -/
def putCell (row : Row) (x : Nat) (cell : Cell) : Option Row := do
  let cells ← setCell (padded row.cells (x + 1)) x cell
  return ⟨cells, true⟩

/-- The row with a part of it erased. -/
def eraseCells (row : Row) (x : Nat) : Extent → Option Row
  | .toEnd => some (row.eraseFrom x)
  | .toStart => do
    let cells ← blankFront row.cells (min (x + 1) row.cells.length)
    return if (Row.mk cells true).isBlank then .empty else ⟨cells, true⟩
  | .all => some row.eraseAll

/-- A cell stored right behind the blanks that a row is filled up with, or inside the row, is stored
as it is without checks: filling up to the column makes the index one of the row. -/
theorem setCell_padded (cells : List Cell) (x : Nat) (cell : Cell) :
    setCell (padded cells (x + 1)) x cell = some (Row.putCell cells x cell) := by
  have hlen : (padded cells (x + 1)).length = max cells.length (x + 1) := by
    rw [padded, List.length_append, List.length_replicate]
    omega
  rw [setCell, if_pos (by omega), Row.putCell, padded]
  split
  · next hlt =>
    rw [Nat.sub_eq_zero_of_le hlt, List.replicate_zero, List.append_nil]
  · next hge =>
    -- Of the blanks the last one stands at the column, and it is the one replaced.
    rw [show x + 1 - cells.length = (x - cells.length) + 1 by omega, List.replicate_succ',
      ← List.append_assoc, List.set_append_right]
    · rw [List.length_append, List.length_replicate,
        show x - (cells.length + (x - cells.length)) = 0 by omega, List.set_cons_zero]
    · rw [List.length_append, List.length_replicate]
      omega

@[simp] theorem putCell_eq (row : Row) (x : Nat) (cell : Cell) :
    putCell row x cell = some (row.put x cell) := by
  rw [putCell, setCell_padded]
  rfl

@[simp] theorem eraseCells_eq (row : Row) (x : Nat) (extent : Extent) :
    eraseCells row x extent = some (row.erase x extent) := by
  cases extent with
  | toEnd => rfl
  | all => rfl
  | toStart =>
    have hdrop : row.cells.drop (min (x + 1) row.cells.length) = row.cells.drop (x + 1) := by
      rcases Nat.le_total (x + 1) row.cells.length with hle | hle
      · rw [Nat.min_eq_left hle]
      · rw [Nat.min_eq_right hle, List.drop_length, List.drop_eq_nil_of_le hle]
    rw [eraseCells, blankFront, if_pos (Nat.min_le_right ..), hdrop]
    rfl

/-! ### Rows of a screen -/

/-- The row with a number, which has to be there. -/
def row (s : Screen) (y : Nat) : Option Row := s.rows[y]?

/-- Change the row with a number, which has to be there. -/
def updateRow (s : Screen) (y : Nat) (f : Row → Option Row) : Option Screen := do
  let row ← f (← row s y)
  return { s with rows := s.rows.set y row, dirty := true }

/-- The number of the last column, which has to be there.  The subtraction would be below zero
without one. -/
def lastColumn (s : Screen) : Option Nat := if s.width = 0 then none else some (s.width - 1)

/-- The number of the last row, which has to be there. -/
def lastLine (s : Screen) : Option Nat := if s.height = 0 then none else some (s.height - 1)

/-- A change of a row that is there has a result when the change itself has one.  The number of the
row is in range, so only the change could fail. -/
theorem updateRow_eq {s : Screen} {y : Nat} (hy : y < s.rows.length) {f : Row → Option Row}
    {g : Row → Row} (hf : ∀ row, f row = some (g row)) :
    updateRow s y f = some (s.updateRow y g) := by
  have hmodify : s.rows.set y (g s.rows[y]) = s.rows.modify y g := by
    refine List.ext_getElem? fun i => ?_
    rw [List.getElem?_set, List.getElem?_modify]
    by_cases h : y = i
    · subst h
      rw [if_pos rfl, if_pos hy, List.getElem?_eq_getElem hy]
      simp
    · rw [if_neg h]
      simp [h]
  rw [updateRow, row, List.getElem?_eq_getElem hy, Option.bind_eq_bind, Option.bind_some, hf,
    Screen.updateRow, ← hmodify]
  rfl

theorem lastColumn_eq {s : Screen} (h : s.WellFormed) : lastColumn s = some (s.width - 1) := by
  have := h.width_pos
  rw [lastColumn, if_neg (by omega)]

theorem lastLine_eq {s : Screen} (h : s.WellFormed) : lastLine s = some (s.height - 1) := by
  have := h.height_pos
  rw [lastLine, if_neg (by omega)]

/-! ### Operations of a screen -/

def put (s : Screen) (x y : Nat) (c : Char) : Option Screen := do
  let x := min x (← lastColumn s)
  let y := min y (← lastLine s)
  updateRow s y (putCell · x ⟨c, s.pen⟩)

/-- The top row has to be there to be dropped. -/
def scrollUp (s : Screen) : Option Screen := do
  let _ ← row s 0
  return s.scrollUp

def lineFeed (s : Screen) : Option Screen :=
  let s := { s with wrapPending := false }
  if s.height ≤ s.line + 1 then scrollUp s else some { s with line := s.line + 1 }

def wrap (s : Screen) : Option Screen :=
  if s.wrapPending then lineFeed s.carriageReturn else some s

def write (s : Screen) (c : Char) : Option Screen :=
  if Text.isZeroWidth c then some s else do
    let s ← wrap s
    let s ← put s s.column s.line c
    return s.advance

def fillTo (s : Screen) (stop : Nat) : Option Screen := do
  let target := min stop (← lastColumn s)
  let blanks := List.range' s.column (target - s.column)
  let s ← blanks.foldlM (fun s x => put s x s.line ' ') s
  return { s with column := max s.column target }

def tab (s : Screen) : Option Screen :=
  let s := { s with wrapPending := false }
  match Screen.tabStop? s.column with
  | some stop => fillTo s stop
  | none => some { s with failed := true }

/-- The cursor's row has to be there; the cell before the cursor need not be. -/
def backspace (s : Screen) : Option Screen :=
  let s := { s with wrapPending := false }
  if s.column = 0 then some s else do
    let x := s.column - 1
    let s := { s with column := x }
    let row ← row s s.line
    if x < row.cells.length then updateRow s s.line (putCell · x .blank) else some s

def moveTo (s : Screen) (x y : Nat) : Option Screen := do
  let x := min x (← lastColumn s)
  let y := min y (← lastLine s)
  return { s with column := x, line := y, wrapPending := false }

def moveBy (s : Screen) (dx dy : Int) : Option Screen :=
  moveTo s (s.column + dx).toNat (s.line + dy).toNat

def eraseLine (s : Screen) (y : Nat) (extent : Extent) : Option Screen := do
  let y := min y (← lastLine s)
  updateRow { s with wrapPending := false } y (eraseCells · s.column extent)

def eraseRows (s : Screen) (ys : List Nat) : Option Screen :=
  ys.foldlM (fun s y => eraseLine s y .all) s

def eraseDisplay (s : Screen) : Extent → Option Screen
  | .toEnd => do
    let rest := List.range' (s.line + 1) (s.height - (s.line + 1))
    eraseRows (← eraseLine s s.line .toEnd) rest
  | .toStart => do
    let erased ← eraseRows s (List.range s.line)
    eraseLine erased s.line .toStart
  | .all => eraseRows s (List.range s.height)

section Agreement

variable {s : Screen} (h : s.WellFormed)
include h

theorem put_eq (x y : Nat) (c : Char) : put s x y c = some (s.put x y c) := by
  have hy : s.clampLine y < s.rows.length := h.length_rows ▸ h.clampLine_lt y
  rw [put, lastColumn_eq h, lastLine_eq h]
  exact updateRow_eq hy fun row => putCell_eq row _ _

theorem scrollUp_eq : scrollUp s = some s.scrollUp := by
  have hpos : 0 < s.rows.length := h.length_rows ▸ h.height_pos
  rw [scrollUp, row, List.getElem?_eq_getElem hpos]
  rfl

theorem lineFeed_eq : lineFeed s = some s.lineFeed := by
  simp only [lineFeed, Screen.lineFeed]
  split
  · exact scrollUp_eq h.callOff
  · rfl

theorem wrap_eq : wrap s = some s.wrap := by
  rw [wrap, Screen.wrap]
  split
  · exact lineFeed_eq h.carriageReturn
  · rfl

theorem write_eq (c : Char) : write s c = some (s.write c) := by
  rw [write, Screen.write]
  split
  · rfl
  · rw [wrap_eq h, Option.bind_eq_bind, Option.bind_some, put_eq h.wrap]
    rfl

theorem putAll_eq (xs : List Nat) (c : Char) :
    xs.foldlM (fun s x => put s x s.line c) s
      = some (xs.foldl (fun s x => s.put x s.line c) s) := by
  induction xs generalizing s with
  | nil => rfl
  | cons x xs ih =>
    rw [List.foldlM_cons, put_eq h, Option.bind_eq_bind, Option.bind_some, ih (h.put ..)]
    rfl

theorem fillTo_eq (stop : Nat) : fillTo s stop = some (s.fillTo stop) := by
  simp only [fillTo, lastColumn_eq h, Option.bind_eq_bind, Option.bind_some, putAll_eq h]
  rfl

theorem tab_eq : tab s = some s.tab := by
  rw [tab, Screen.tab]
  cases Screen.tabStop? s.column with
  | some stop => exact fillTo_eq h.callOff stop
  | none => rfl

theorem backspace_eq : backspace s = some s.backspace := by
  have hline : s.line < s.rows.length := h.length_rows ▸ h.line_lt
  simp only [backspace, Screen.backspace]
  split
  · rfl
  · simp only [row, List.getElem?_eq_getElem hline, Option.bind_eq_bind, Option.bind_some,
      Option.any_some, decide_eq_true_eq]
    split
    · let back : Screen := { s with column := s.column - 1, wrapPending := false }
      exact updateRow_eq (s := back) hline fun row => putCell_eq row _ _
    · rfl

theorem moveTo_eq (x y : Nat) : moveTo s x y = some (s.moveTo x y) := by
  rw [moveTo, lastColumn_eq h, lastLine_eq h]
  rfl

theorem moveBy_eq (dx dy : Int) : moveBy s dx dy = some (s.moveBy dx dy) := moveTo_eq h _ _

theorem eraseLine_eq (y : Nat) (extent : Extent) :
    eraseLine s y extent = some (s.eraseLine y extent) := by
  have hy : s.clampLine y < s.rows.length := h.length_rows ▸ h.clampLine_lt y
  rw [eraseLine, lastLine_eq h]
  exact updateRow_eq (s := { s with wrapPending := false }) hy fun row => eraseCells_eq row _ _

theorem eraseRows_eq (ys : List Nat) : eraseRows s ys = some (s.eraseRows ys) := by
  induction ys generalizing s with
  | nil => rfl
  | cons y ys ih =>
    rw [eraseRows, List.foldlM_cons, eraseLine_eq h]
    exact ih (h.eraseLine y .all)

theorem eraseDisplay_eq (extent : Extent) :
    eraseDisplay s extent = some (s.eraseDisplay extent) := by
  cases extent with
  | toEnd =>
    rw [eraseDisplay, eraseLine_eq h]
    exact eraseRows_eq (h.eraseLine ..) _
  | toStart =>
    rw [eraseDisplay, eraseRows_eq h]
    exact eraseLine_eq (h.eraseRows _) _ _
  | all => exact eraseRows_eq h _

end Agreement

/-! ### Control sequences and text -/

/-- The effect of a cursor move; one that is not known has none. -/
def moveCursor (s : Screen) (final : Char) (params : List Nat) : Option Screen :=
  let n := paramOr params 0 1
  match final with
  | 'A' => moveBy s 0 (-n)
  | 'B' => moveBy s 0 n
  | 'C' => moveBy s n 0
  | 'D' => moveBy s (-n) 0
  | 'E' => moveBy s.carriageReturn 0 n
  | 'F' => moveBy s.carriageReturn 0 (-n)
  | 'G' => moveTo s (n - 1) s.line
  | 'd' => moveTo s s.column (n - 1)
  | 'H' | 'f' => moveTo s (paramOr params 1 1 - 1) (n - 1)
  | _ => some s

/-- The effect of an erase; one that is not known has none. -/
def erase (s : Screen) (final : Char) (params : List Nat) : Option Screen :=
  match Extent.ofParam? (params.head?.getD 0), final with
  | some extent, 'J' => eraseDisplay s extent
  | some extent, 'K' => eraseLine s s.line extent
  | _, _ => some s

/-- The effect of a control sequence; one that is not known has none. -/
def sequence (s : Screen) (final : Char) (params : List Nat) : Option Screen :=
  match final with
  | 'A' | 'B' | 'C' | 'D' | 'E' | 'F' | 'G' | 'H' | 'f' | 'd' => moveCursor s final params
  | 'J' | 'K' => erase s final params
  | 'm' => some { s with pen := s.pen.applySgr params }
  | _ => some s

def perform (s : Screen) : Instruction → Option Screen
  | .write c => write s c
  | .carriageReturn => some s.carriageReturn
  | .lineFeed => lineFeed s
  | .backspace => backspace s
  | .tab => tab s
  | .sequence final params => sequence s final params

def step (t : Terminal) (c : Char) : Option Terminal := do
  let (decoder, instruction) := t.decoder.step c
  let screen ← instruction.elim (some t.screen) (perform t.screen)
  return ⟨screen, decoder⟩

def feed (t : Terminal) (cs : List Char) : Option Terminal := cs.foldlM step t

/-- The terminal after an operation with checked indices.  It is the operation again, with a failure
at every access that could be out of range. -/
def apply (t : Terminal) : Terminal.Operation → Option Terminal
  | .put x y c => t.withScreen <$> put t.screen x y c
  | .write c => t.withScreen <$> write t.screen c
  | .tab => t.withScreen <$> tab t.screen
  | .carriageReturn => some (t.withScreen t.screen.carriageReturn)
  | .lineFeed => t.withScreen <$> lineFeed t.screen
  | .backspace => t.withScreen <$> backspace t.screen
  | .moveTo x y => t.withScreen <$> moveTo t.screen x y
  | .moveBy dx dy => t.withScreen <$> moveBy t.screen dx dy
  | .eraseLine y extent => t.withScreen <$> eraseLine t.screen y extent
  | .eraseDisplay extent => t.withScreen <$> eraseDisplay t.screen extent
  | .scrollUp => t.withScreen <$> scrollUp t.screen
  | .resize width height => some (t.withScreen (t.screen.resize width height))
  | .markClean => some (t.withScreen t.screen.markClean)
  | .sequence final params => t.withScreen <$> sequence t.screen final params
  | .moveCursor final params => t.withScreen <$> moveCursor t.screen final params
  | .erase final params => t.withScreen <$> erase t.screen final params
  | .feed cs => feed t cs
  | .reset => some t.reset

/-- The terminal after several operations with checked indices. -/
def run (t : Terminal) (ops : List Terminal.Operation) : Option Terminal := ops.foldlM apply t

section Agreement

variable {s : Screen} (h : s.WellFormed)
include h

theorem moveCursor_eq (final : Char) (params : List Nat) :
    moveCursor s final params = some ((s.moveCursor? final params).getD s) := by
  unfold moveCursor
  split
  · exact moveBy_eq h _ _
  · exact moveBy_eq h _ _
  · exact moveBy_eq h _ _
  · exact moveBy_eq h _ _
  · exact moveBy_eq h.carriageReturn _ _
  · exact moveBy_eq h.carriageReturn _ _
  · exact moveTo_eq h _ _
  · exact moveTo_eq h _ _
  · exact moveTo_eq h _ _
  · exact moveTo_eq h _ _
  · -- The same final characters are unknown to the move without checks.
    unfold Screen.moveCursor?
    split
    all_goals first
      | contradiction
      | rfl

theorem erase_eq (final : Char) (params : List Nat) :
    erase s final params = some ((s.erase? final params).getD s) := by
  unfold erase
  split
  · next extent hextent =>
    unfold Screen.erase?
    rw [hextent]
    exact eraseDisplay_eq h extent
  · next extent hextent =>
    unfold Screen.erase?
    rw [hextent]
    exact eraseLine_eq h s.line extent
  · next hdisplay hline =>
    -- The erase without checks knows the same two final characters.
    unfold Screen.erase?
    split
    · next hextent => exact (hdisplay _ hextent rfl).elim
    · next hextent => exact (hline _ hextent rfl).elim
    · rfl

theorem sequence_eq (final : Char) (params : List Nat) :
    sequence s final params = some ((s.sequence? final params).getD s) := by
  unfold sequence
  split
  iterate 10 exact moveCursor_eq h _ params
  iterate 2 exact erase_eq h _ params
  · rfl
  · -- A final character that asks for nothing here asks for nothing there.
    unfold Screen.sequence?
    split
    all_goals first
      | contradiction
      | rfl

theorem perform_eq (instruction : Instruction) :
    perform s instruction = some (s.perform instruction) := by
  cases instruction with
  | write c => exact write_eq h c
  | carriageReturn => rfl
  | lineFeed => exact lineFeed_eq h
  | backspace => exact backspace_eq h
  | tab => exact tab_eq h
  | sequence final params => exact sequence_eq h final params

end Agreement

section Runs

variable {t : Terminal} (h : t.WellFormed)
include h

theorem step_eq (c : Char) : step t c = some (t.step c) := by
  simp only [step, Terminal.step]
  cases (t.decoder.step c).2 with
  | none => rfl
  | some instruction =>
    simp only [Option.elim_some, perform_eq h.screen, Option.bind_eq_bind, Option.bind_some]
    rfl

theorem feed_eq (cs : List Char) : feed t cs = some (t.feed cs) := by
  induction cs generalizing t with
  | nil => rfl
  | cons c cs ih =>
    rw [feed, List.foldlM_cons, step_eq h, Option.bind_eq_bind, Option.bind_some]
    exact ih (h.step c)

/-- On a well-formed terminal an operation with checked indices has a result, and it is
the one of the operation without checks. -/
theorem apply_eq (op : Terminal.Operation) : apply t op = some (t.apply op) := by
  have hs := h.screen
  -- Each operation on the screen agrees by itself; only a text is a run of several.
  cases op with
  | put x y c => rw [apply, put_eq hs]; rfl
  | write c => rw [apply, write_eq hs]; rfl
  | tab => rw [apply, tab_eq hs]; rfl
  | carriageReturn => rfl
  | lineFeed => rw [apply, lineFeed_eq hs]; rfl
  | backspace => rw [apply, backspace_eq hs]; rfl
  | moveTo x y => rw [apply, moveTo_eq hs]; rfl
  | moveBy dx dy => rw [apply, moveBy_eq hs]; rfl
  | eraseLine y extent => rw [apply, eraseLine_eq hs]; rfl
  | eraseDisplay extent => rw [apply, eraseDisplay_eq hs]; rfl
  | scrollUp => rw [apply, scrollUp_eq hs]; rfl
  | resize width height => rfl
  | markClean => rfl
  | sequence final params => rw [apply, sequence_eq hs]; rfl
  | moveCursor final params => rw [apply, moveCursor_eq hs]; rfl
  | erase final params => rw [apply, erase_eq hs]; rfl
  | feed cs => exact feed_eq h cs
  | reset => rfl

/-- The same for a run, since every operation leaves a well-formed terminal behind. -/
theorem run_eq_some (ops : List Terminal.Operation) : run t ops = some (t.run ops) := by
  induction ops generalizing t with
  | nil => rfl
  | cons op ops ih =>
    rw [run, List.foldlM_cons, apply_eq h, Option.bind_eq_bind, Option.bind_some]
    exact ih (h.apply op)

end Runs

end Checked

end ConsoleReplay
