import ConsoleReplay.Number.Word
import ConsoleReplay.Screen.Row
import ConsoleReplay.Text.ZeroWidth

/-!
# The screen

A screen is a fixed number of rows with a cursor and a pen.  Positions outside
the screen are moved to its nearest edge, never refused.

Wrapping is deferred: a character in the last column leaves the cursor there, and
only the next character moves on to the row below.  A carriage return, a line
feed, a cursor move and an erase all call the deferred wrap off.

Columns are counted in words of 64 bits, and screens may be as wide as words allow.
In the last columns that a word can number there is no next tab stop.  A tab fails
there, and the failure stops the program.

## Main definitions

* `Screen` — size, rows, cursor, pen, dirty flag, deferred wrap and failure.
* `Screen.blank width height` — a screen that shows nothing.
* `Screen.put`, `Screen.write`, `Screen.tab`, `Screen.carriageReturn`,
  `Screen.lineFeed`, `Screen.backspace` — what printable and control characters do.
* `Screen.moveTo`, `Screen.moveBy` — cursor moves.
* `Screen.scrollUp`, `Screen.resize` — changes of the rows as a whole.
* `Screen.dirtyRows`, `Screen.markClean` — what has to be painted again.
* `Screen.text`, `Screen.display` — what the screen shows.
-/

namespace ConsoleReplay

/-- A virtual screen.  It has as many rows as its height says, and a cursor that is on it, after
every operation; arguments out of range are moved onto the screen and never refused. -/
structure Screen where
  /-- Number of columns. -/
  width : Nat
  /-- Number of rows. -/
  height : Nat
  rows : List Row
  /-- Column of the cursor. -/
  column : Nat
  /-- Row of the cursor. -/
  line : Nat
  /-- Style of the characters written next. -/
  pen : Style
  /-- Whether anything changed since the screen was last painted. -/
  dirty : Bool
  /-- The last column was written: the next character goes to the row below. -/
  wrapPending : Bool
  /-- A tab had no stop to go to, which stops the program.  Nothing takes the flag
  back, so at the end of a run it tells whether the program got there. -/
  failed : Bool
  deriving DecidableEq, Repr

namespace Screen

/-- Distance between two tab stops. -/
def tabWidth : Nat := 8

/-- A screen that shows nothing.  Sizes below one are raised to one, so that there is always a cell
for the cursor to be on. -/
def blank (width height : Nat) : Screen where
  width := max width 1
  height := max height 1
  rows := List.replicate (max height 1) .empty
  column := 0
  line := 0
  pen := .plain
  dirty := true
  wrapPending := false
  failed := false

/-- A column moved to the nearest one on the screen.  No argument is refused for being out of
range. -/
def clampColumn (s : Screen) (x : Nat) : Nat := min x (s.width - 1)

/-- A row number moved to the nearest one on the screen. -/
def clampLine (s : Screen) (y : Nat) : Nat := min y (s.height - 1)

/-- The row with a number, if the screen has it. -/
def row? (s : Screen) (y : Nat) : Option Row := s.rows[y]?

/-- Change one row, which the screen then counts as changed.  A row counts as changed even if it
comes out the same. -/
def updateRow (s : Screen) (y : Nat) (f : Row → Row) : Screen :=
  { s with rows := s.rows.modify y f, dirty := true }

/-! ### Writing -/

/-- Store a character in the pen's style, over blanks if the row does not reach that far.  The
cursor stays. -/
def put (s : Screen) (x y : Nat) (c : Char) : Screen :=
  s.updateRow (s.clampLine y) (·.put (s.clampColumn x) ⟨c, s.pen⟩)

/-- Drop the top row and append an empty one below the others.  What a row shows moves with it, so
every row has to be painted anew. -/
def scrollUp (s : Screen) : Screen :=
  { s with rows := (s.rows.tail ++ [Row.empty]).map Row.touch, dirty := true }

/-- Back to the first column. -/
def carriageReturn (s : Screen) : Screen := { s with column := 0, wrapPending := false }

/-- Down one row in the same column; on the last row the screen scrolls instead.  A deferred wrap is
called off, so that a line feed after a full row moves down one row and not two. -/
def lineFeed (s : Screen) : Screen :=
  let s := { s with wrapPending := false }
  if s.height ≤ s.line + 1 then s.scrollUp else { s with line := s.line + 1 }

/-- Carry out a deferred wrap: to the start of the next row, which scrolls the screen if there is
none. -/
def wrap (s : Screen) : Screen :=
  if s.wrapPending then s.carriageReturn.lineFeed else s

/-- Past a character: one column on, or a deferred wrap in the last column.  The wrap waits for a
next character, since a full last row would scroll away otherwise. -/
def advance (s : Screen) : Screen :=
  if s.width ≤ s.column + 1 then { s with wrapPending := true }
  else { s with column := s.column + 1 }

/-- Write a character at the cursor and move past it.  A character that takes no cell is dropped,
before a deferred wrap is carried out for it. -/
def write (s : Screen) (c : Char) : Screen :=
  if Text.isZeroWidth c then s else
    let s := s.wrap
    (s.put s.column s.line c).advance

/-- The tab stop after a column.  Both the number of the stop and the stop itself
have to be words of 64 bits; the stop is the larger one, so it decides. -/
def tabStop? (x : Nat) : Option Nat :=
  let stop := (x / tabWidth + 1) * tabWidth
  if stop < wordLimit then some stop else none

/-- Write blanks from the cursor up to a column, or up to the last one if that comes first.  The
cursor goes along and never wraps.  The blanks are written in the pen's style, over whatever was
there. -/
def fillTo (s : Screen) (stop : Nat) : Screen :=
  let target := s.clampColumn stop
  let blanks := List.range' s.column (target - s.column)
  let s := blanks.foldl (fun s x => s.put x s.line ' ') s
  { s with column := max s.column target }

/-- Write blanks up to the next tab stop.  A deferred wrap is called off first, and
that much is done even where the tab has no stop and fails. -/
def tab (s : Screen) : Screen :=
  let s := { s with wrapPending := false }
  match tabStop? s.column with
  | some stop => s.fillTo stop
  | none => { s with failed := true }

/-- Back one column, blanking the cell there.  A column that was never written stays unwritten, so a
row does not grow by going back, and in the first column nothing happens. -/
def backspace (s : Screen) : Screen :=
  let s := { s with wrapPending := false }
  if s.column = 0 then s else
    let x := s.column - 1
    let s := { s with column := x }
    if (s.rows[s.line]?.any (x < ·.cells.length)) then s.updateRow s.line (·.put x .blank) else s

/-! ### Moving the cursor -/

/-- Move the cursor to a position, or to the edge nearest to it. -/
def moveTo (s : Screen) (x y : Nat) : Screen :=
  { s with column := s.clampColumn x, line := s.clampLine y, wrapPending := false }

/-- Move the cursor by a distance, stopping at the edges.  The sum is one of integers, so a distance
of any size is met at the edge. -/
def moveBy (s : Screen) (dx dy : Int) : Screen :=
  s.moveTo (s.column + dx).toNat (s.line + dy).toNat

/-! ### Changing the size -/

/-- Change the size.  Rows are dropped from the bottom or added there, cells past
the new width are lost, and the cursor is moved onto the screen. -/
def resize (s : Screen) (width height : Nat) : Screen :=
  let width := max width 1
  let height := max height 1
  { s with
    width := width
    height := height
    rows := (s.rows.take height ++ List.replicate (height - s.rows.length) Row.empty).map
      fun row => row.truncate width
    column := min s.column (width - 1)
    line := min s.line (height - 1)
    dirty := true
    wrapPending := false }

/-! ### Painting -/

/-- The numbers of the rows that changed since the screen was last painted, from the top. -/
def dirtyRows (s : Screen) : List Nat :=
  (s.rows.zipIdx.filter fun entry => entry.1.dirty).map Prod.snd

/-- Count the screen as painted. -/
def markClean (s : Screen) : Screen :=
  { s with rows := s.rows.map Row.markClean, dirty := false }

/-- What every row shows, one line each. -/
def shown (s : Screen) : List Char :=
  List.intercalate ['\n'] (s.rows.map Row.shown)

/-- What the screen shows: one line for every row. -/
def text (s : Screen) : String := .ofList s.shown

/-- The rows up to the last one that shows something.  Empty rows above it stay, since they put the
others in their place. -/
def shownRows (s : Screen) : List (List Char) :=
  ((s.rows.map Row.shown).reverse.dropWhile List.isEmpty).reverse

/-- What the screen shows, without the empty rows at the bottom. -/
def display (s : Screen) : String := .ofList (List.intercalate ['\n'] s.shownRows)

/-! ### Tab stops -/

/-- A next stop there is unless the cursor is in the last eight columns of a word. -/
theorem tabStop?_eq_none_iff {x : Nat} : tabStop? x = none ↔ wordLimit ≤ x + tabWidth := by
  rw [tabStop?, tabWidth, wordLimit]
  split
  · next hlt =>
    refine ⟨fun h => absurd h (Option.some_ne_none _), fun h => ?_⟩
    omega
  · next hge =>
    refine ⟨fun _ => ?_, fun _ => rfl⟩
    omega

/-- The next stop is the first multiple of eight past the column. -/
theorem eq_of_tabStop?_eq_some {x stop : Nat} (h : tabStop? x = some stop) :
    stop = (x / 8 + 1) * 8 := by
  rw [tabStop?] at h
  split at h
  · exact (Option.some.inj h).symm
  · cases h

theorem tab_of_stop {s : Screen} {stop : Nat} (h : tabStop? s.column = some stop) :
    s.tab = { s with wrapPending := false }.fillTo stop := by
  simp only [tab, h]

theorem tab_of_no_stop {s : Screen} (h : tabStop? s.column = none) :
    s.tab = { s with wrapPending := false, failed := true } := by
  simp only [tab, h]

/-- What holds of a screen that is filled up to a stop, and of one that failed, holds
after a tab. -/
theorem tab_cases {P : Screen → Prop} (s : Screen)
    (hstop : ∀ stop, P ({ s with wrapPending := false }.fillTo stop))
    (hnone : P { s with wrapPending := false, failed := true }) : P s.tab := by
  cases h : tabStop? s.column with
  | some stop =>
    rw [tab_of_stop h]
    exact hstop stop
  | none =>
    rw [tab_of_no_stop h]
    exact hnone

/-! ### Rows after a change -/

/-- A change of one row leaves the others as they were. -/
theorem row?_updateRow (s : Screen) (y z : Nat) (f : Row → Row) :
    (s.updateRow y f).row? z = if z = y then (s.row? z).map f else s.row? z := by
  simp only [updateRow, row?, List.getElem?_modify]
  split <;> grind

@[simp] theorem length_rows_updateRow (s : Screen) (y : Nat) (f : Row → Row) :
    (s.updateRow y f).rows.length = s.rows.length := by
  simp [updateRow]

/-- A screen with rows keeps their number when it scrolls. -/
theorem length_rows_scrollUp {s : Screen} (h : s.rows ≠ []) :
    s.scrollUp.rows.length = s.rows.length := by
  have := List.length_pos_iff.2 h
  simp [scrollUp]
  omega

/-- Whatever rows there were, a change of size leaves as many as the new height. -/
theorem length_rows_resize (s : Screen) (width height : Nat) :
    (s.resize width height).rows.length = (s.resize width height).height := by
  simp only [resize, List.length_map, List.length_append, List.length_take, List.length_replicate]
  omega

/-- Nothing is left to paint of a screen that counts as painted. -/
@[simp] theorem dirtyRows_markClean (s : Screen) : s.markClean.dirtyRows = [] := by
  rw [dirtyRows, markClean, List.map_eq_nil_iff, List.filter_eq_nil_iff, List.zipIdx_map]
  simp only [List.mem_map, Bool.not_eq_true]
  rintro _ ⟨_, _, rfl⟩
  rfl

end Screen

end ConsoleReplay
