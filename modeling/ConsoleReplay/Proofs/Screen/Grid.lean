import ConsoleReplay.Proofs.Screen.Escape
import ConsoleReplay.Proofs.Screen.Operation

/-!
# A screen as a grid of characters

The plainest picture of a screen: a grid in which every row has exactly as many characters
as the screen is wide.  Every operation says for each place of the grid which character
stands there afterwards.  Nothing is stored lazily, and no row is ever shorter than
another.

## Main definitions

* `Grid`, `Grid.charAt` — a grid with its cursor, and the character at a place.
* `Grid.draw g f` — the grid with the characters that `f` gives for the places.
* `Grid.put`, `Grid.write`, `Grid.tab`, ... — the operations, place by place.
* `Grid.text` — what the grid shows.
* `GridTerminal` — a grid with the decoder of the output written to it.
-/

namespace ConsoleReplay

/-- A grid of characters with a cursor.  All of its cells are there from the beginning, in a vector
of the size that it claims, so an operation is just a new character for each place. -/
structure Grid where
  width : Nat
  height : Nat
  /-- The rows, each of the full width. -/
  cells : Vector (Vector Char width) height
  column : Nat
  line : Nat
  /-- The last column was written: the next character goes to the row below. -/
  wrapPending : Bool

/-- The columns of the cursor's row that an erase clears. -/
def Extent.covers (column x : Nat) : Extent → Bool
  | .toEnd => column ≤ x
  | .toStart => x ≤ column
  | .all => true

/-- The places of a screen that an erase clears. -/
def Extent.coversPlace (column line x y : Nat) : Extent → Bool
  | .toEnd => line < y || (y = line && column ≤ x)
  | .toStart => y < line || (y = line && x ≤ column)
  | .all => true

namespace Grid

/-- Rows filled with the characters that `f` gives for column and row. -/
def tabulate (width height : Nat) (f : Nat → Nat → Char) : Vector (Vector Char width) height :=
  Vector.ofFn fun y => Vector.ofFn fun x => f x y

/-- The character at a place; off the grid there is a blank. -/
def charAt (g : Grid) (x y : Nat) : Char := (g.cells[y]?.bind fun row => row[x]?).getD ' '

/-- The grid with other characters, given by a function of column and row.  Every operation on the
characters is told in this way. -/
def draw (g : Grid) (f : Nat → Nat → Char) : Grid :=
  { g with cells := tabulate g.width g.height f }

/-- A grid of blanks.  Sizes below one are raised to one. -/
def blank (width height : Nat) : Grid where
  width := max width 1
  height := max height 1
  cells := tabulate (max width 1) (max height 1) fun _ _ => ' '
  column := 0
  line := 0
  wrapPending := false

/-! ### Writing -/

/-- Put a character at a place, or at the nearest one on the grid. -/
def put (g : Grid) (x y : Nat) (c : Char) : Grid :=
  g.draw fun x' y' =>
    if x' = min x (g.width - 1) ∧ y' = min y (g.height - 1) then c else g.charAt x' y'

/-- Every row takes the characters of the row below, the last one blanks. -/
def scrollUp (g : Grid) : Grid :=
  g.draw fun x y => if y + 1 < g.height then g.charAt x (y + 1) else ' '

def carriageReturn (g : Grid) : Grid := { g with column := 0, wrapPending := false }

/-- Down one row; from the last row the grid scrolls instead. -/
def lineFeed (g : Grid) : Grid :=
  if g.line + 1 < g.height then { g with line := g.line + 1, wrapPending := false }
  else { g.scrollUp with wrapPending := false }

/-- To the start of the next row, if a wrap is deferred. -/
def wrap (g : Grid) : Grid := if g.wrapPending then g.carriageReturn.lineFeed else g

/-- One column on; from the last one a wrap is deferred. -/
def advance (g : Grid) : Grid :=
  if g.column + 1 < g.width then { g with column := g.column + 1 }
  else { g with wrapPending := true }

/-- Write a character at the cursor.  A character without width is dropped. -/
def write (g : Grid) (c : Char) : Grid :=
  if Text.isZeroWidth c then g else (g.wrap.put g.wrap.column g.wrap.line c).advance

/-- Blanks up to the next multiple of eight, or to the last column. -/
def tab (g : Grid) : Grid :=
  let stop := min (8 * (g.column / 8 + 1)) (g.width - 1)
  let drawn := g.draw fun x y =>
    if y = g.line ∧ g.column ≤ x ∧ x < stop then ' ' else g.charAt x y
  { drawn with column := stop, wrapPending := false }

/-- Back one column, to a blank; in the first column nothing happens.  On a grid there is no column
that was never written. -/
def backspace (g : Grid) : Grid :=
  if g.column = 0 then { g with wrapPending := false } else
    let drawn := g.draw fun x y => if x = g.column - 1 ∧ y = g.line then ' ' else g.charAt x y
    { drawn with column := g.column - 1, wrapPending := false }

/-! ### Moving, erasing and changing the size -/

def moveTo (g : Grid) (x y : Nat) : Grid :=
  { g with column := min x (g.width - 1), line := min y (g.height - 1), wrapPending := false }

def moveBy (g : Grid) (dx dy : Int) : Grid :=
  g.moveTo (g.column + dx).toNat (g.line + dy).toNat

/-- Blanks in a part of one row. -/
def eraseLine (g : Grid) (y : Nat) (extent : Extent) : Grid :=
  let drawn := g.draw fun x' y' =>
    if y' = min y (g.height - 1) ∧ extent.covers g.column x' then ' ' else g.charAt x' y'
  { drawn with wrapPending := false }

/-- Blanks in a part of the grid. -/
def eraseDisplay (g : Grid) (extent : Extent) : Grid :=
  let drawn := g.draw fun x y =>
    if extent.coversPlace g.column g.line x y then ' ' else g.charAt x y
  { drawn with wrapPending := false }

/-- The characters that are on the old grid and on the new one stay.  The others are blanks. -/
def resize (g : Grid) (width height : Nat) : Grid where
  width := max width 1
  height := max height 1
  cells := tabulate (max width 1) (max height 1) fun x y =>
    if x < g.width ∧ y < g.height then g.charAt x y else ' '
  column := min g.column (max width 1 - 1)
  line := min g.line (max height 1 - 1)
  wrapPending := false

/-! ### Control sequences -/

/-- The effect of a cursor move; one that is not known has none. -/
def moveCursor (g : Grid) (final : Char) (params : List Nat) : Grid :=
  let n := paramOr params 0 1
  match final with
  | 'A' => g.moveBy 0 (-n)
  | 'B' => g.moveBy 0 n
  | 'C' => g.moveBy n 0
  | 'D' => g.moveBy (-n) 0
  | 'E' => g.carriageReturn.moveBy 0 n
  | 'F' => g.carriageReturn.moveBy 0 (-n)
  | 'G' => g.moveTo (n - 1) g.line
  | 'd' => g.moveTo g.column (n - 1)
  | 'H' | 'f' => g.moveTo (paramOr params 1 1 - 1) (n - 1)
  | _ => g

/-- The effect of an erase; one that is not known has none. -/
def erase (g : Grid) (final : Char) (params : List Nat) : Grid :=
  match Extent.ofParam? (params.head?.getD 0) with
  | none => g
  | some extent =>
    if final = 'J' then g.eraseDisplay extent
    else if final = 'K' then g.eraseLine g.line extent
    else g

/-- The effect of a control sequence.  A change of the pen has none on the characters. -/
def sequence (g : Grid) (final : Char) (params : List Nat) : Grid :=
  if final ∈ Screen.cursorFinals then g.moveCursor final params
  else if final ∈ Screen.eraseFinals then g.erase final params
  else g

def perform (g : Grid) : Instruction → Grid
  | .write c => g.write c
  | .carriageReturn => g.carriageReturn
  | .lineFeed => g.lineFeed
  | .backspace => g.backspace
  | .tab => g.tab
  | .sequence final params => g.sequence final params

/-! ### What a grid shows -/

/-- The rows without the white space at their ends. -/
def shownRows (g : Grid) : List (List Char) :=
  g.cells.toList.map fun row => Text.trimEnd row.toList

/-- What the grid shows: one line for every row. -/
def text (g : Grid) : String := .ofList (List.intercalate ['\n'] g.shownRows)

/-! ### Places of a grid -/

theorem getElem_tabulate {width height : Nat} (f : Nat → Nat → Char) {x y : Nat} (hx : x < width)
    (hy : y < height) : ((tabulate width height f)[y])[x] = f x y := by
  simp only [tabulate, Vector.getElem_ofFn]

theorem charAt_of_lt (g : Grid) {x y : Nat} (hx : x < g.width) (hy : y < g.height) :
    g.charAt x y = g.cells[y][x] := by
  rw [charAt, Vector.getElem?_eq_getElem hy, Option.bind_some, Vector.getElem?_eq_getElem hx,
    Option.getD_some]

theorem getElem?_row (g : Grid) {y : Nat} (hy : y < g.height) (x : Nat) :
    g.cells[y].toList[x]?.getD ' ' = g.charAt x y := by
  rw [charAt, Vector.getElem?_eq_getElem hy, Option.bind_some, Vector.getElem?_toList]

theorem charAt_of_width_le (g : Grid) {x y : Nat} (hx : g.width ≤ x) : g.charAt x y = ' ' := by
  rw [charAt]
  cases g.cells[y]? with
  | none => rfl
  | some row =>
    rw [Option.bind_some, Vector.getElem?_eq_none hx]
    rfl

/-- Every place has the character that was given for it. -/
theorem charAt_draw (g : Grid) (f : Nat → Nat → Char) {x y : Nat} (hx : x < g.width)
    (hy : y < g.height) : (g.draw f).charAt x y = f x y := by
  have hcells : (g.draw f).charAt x y = (g.draw f).cells[y][x] := (g.draw f).charAt_of_lt hx hy
  rw [hcells]
  exact getElem_tabulate f hx hy

/-! ### The width stays -/

theorem width_lineFeed (g : Grid) : g.lineFeed.width = g.width := by
  rw [lineFeed]
  split <;> rfl

theorem width_wrap (g : Grid) : g.wrap.width = g.width := by
  rw [wrap]
  split
  · exact width_lineFeed g.carriageReturn
  · rfl

theorem width_advance (g : Grid) : g.advance.width = g.width := by
  rw [advance]
  split <;> rfl

theorem width_write (g : Grid) (c : Char) : (g.write c).width = g.width := by
  rw [write]
  split
  · rfl
  · exact (width_advance _).trans (width_wrap g)

theorem width_backspace (g : Grid) : g.backspace.width = g.width := by
  rw [backspace]
  split <;> rfl

theorem width_moveCursor (g : Grid) (final : Char) (params : List Nat) :
    (g.moveCursor final params).width = g.width := by
  unfold moveCursor
  dsimp only
  split <;> rfl

theorem moveCursor_of_notMem (g : Grid) {final : Char} (h : final ∉ Screen.cursorFinals)
    (params : List Nat) : g.moveCursor final params = g := by
  unfold moveCursor
  dsimp only
  split
  all_goals first
    | exact absurd (by decide) h
    | rfl

theorem width_erase (g : Grid) (final : Char) (params : List Nat) :
    (g.erase final params).width = g.width := by
  rw [erase]
  split
  · rfl
  · split
    · rfl
    · split <;> rfl

theorem width_sequence (g : Grid) (final : Char) (params : List Nat) :
    (g.sequence final params).width = g.width := by
  rw [sequence]
  split
  · exact width_moveCursor g final params
  · split
    · exact width_erase g final params
    · rfl

/-- No instruction changes the size. -/
theorem width_perform (g : Grid) (instruction : Instruction) :
    (g.perform instruction).width = g.width := by
  cases instruction with
  | write c => exact width_write g c
  | carriageReturn => rfl
  | lineFeed => exact width_lineFeed g
  | backspace => exact width_backspace g
  | tab => rfl
  | sequence final params => exact width_sequence g final params

end Grid

/-! ### A terminal with a grid -/

/-- Whether an operation asks for no width above a limit. -/
def Terminal.Operation.widthWithin (limit : Nat) : Terminal.Operation → Bool
  | .resize width _ => width ≤ limit
  | _ => true

/-- A grid and the decoder of the output written to it.  The decoder is that of the program: what is
compared is the screen. -/
structure GridTerminal where
  grid : Grid
  decoder : Decoder

namespace GridTerminal

def start (width height : Nat) : GridTerminal := ⟨.blank width height, .ground⟩

def step (t : GridTerminal) (c : Char) : GridTerminal :=
  let (decoder, instruction) := t.decoder.step c
  ⟨instruction.elim t.grid t.grid.perform, decoder⟩

def feed (t : GridTerminal) (cs : List Char) : GridTerminal := cs.foldl step t

/-- The terminal with another grid. -/
def withGrid (t : GridTerminal) (g : Grid) : GridTerminal := { t with grid := g }

/-- The terminal after an operation.  Flags for repainting and what counts as painted are no matter
of the grid, so that marking it clean does nothing. -/
def apply (t : GridTerminal) : Terminal.Operation → GridTerminal
  | .put x y c => t.withGrid (t.grid.put x y c)
  | .write c => t.withGrid (t.grid.write c)
  | .tab => t.withGrid t.grid.tab
  | .carriageReturn => t.withGrid t.grid.carriageReturn
  | .lineFeed => t.withGrid t.grid.lineFeed
  | .backspace => t.withGrid t.grid.backspace
  | .moveTo x y => t.withGrid (t.grid.moveTo x y)
  | .moveBy dx dy => t.withGrid (t.grid.moveBy dx dy)
  | .eraseLine y extent => t.withGrid (t.grid.eraseLine y extent)
  | .eraseDisplay extent => t.withGrid (t.grid.eraseDisplay extent)
  | .scrollUp => t.withGrid t.grid.scrollUp
  | .resize width height => t.withGrid (t.grid.resize width height)
  | .markClean => t
  | .sequence final params => t.withGrid (t.grid.sequence final params)
  | .moveCursor final params => t.withGrid (t.grid.moveCursor final params)
  | .erase final params => t.withGrid (t.grid.erase final params)
  | .feed cs => t.feed cs
  | .reset => { t with decoder := .ground }

/-- The terminal after several operations. -/
def run (t : GridTerminal) (ops : List Terminal.Operation) : GridTerminal := ops.foldl apply t

/-! ### Runs and the width -/

theorem width_feed (t : GridTerminal) (cs : List Char) :
    (t.feed cs).grid.width = t.grid.width := by
  induction cs generalizing t with
  | nil => rfl
  | cons c cs ih =>
    have hstep : (t.step c).grid.width = t.grid.width := by
      simp only [step]
      cases (t.decoder.step c).2 with
      | none => rfl
      | some instruction => exact t.grid.width_perform instruction
    exact (ih (t.step c)).trans hstep

/-- Only a change of size changes the width. -/
theorem width_apply_le {t : GridTerminal} {limit : Nat} (hlimit : 1 ≤ limit)
    (h : t.grid.width ≤ limit) {op : Terminal.Operation} (hop : op.widthWithin limit = true) :
    (t.apply op).grid.width ≤ limit := by
  -- A new width is bounded by assumption, and no other operation changes it.
  cases op with
  | resize width height => exact Nat.max_le.2 ⟨of_decide_eq_true hop, hlimit⟩
  | write c => exact Nat.le_trans (Nat.le_of_eq (t.grid.width_write c)) h
  | lineFeed => exact Nat.le_trans (Nat.le_of_eq (t.grid.width_lineFeed)) h
  | backspace => exact Nat.le_trans (Nat.le_of_eq (t.grid.width_backspace)) h
  | sequence final params =>
    exact Nat.le_trans (Nat.le_of_eq (t.grid.width_sequence final params)) h
  | moveCursor final params =>
    exact Nat.le_trans (Nat.le_of_eq (t.grid.width_moveCursor final params)) h
  | erase final params => exact Nat.le_trans (Nat.le_of_eq (t.grid.width_erase final params)) h
  | feed cs => exact Nat.le_trans (Nat.le_of_eq (t.width_feed cs)) h
  | _ => exact h

end GridTerminal

end ConsoleReplay
