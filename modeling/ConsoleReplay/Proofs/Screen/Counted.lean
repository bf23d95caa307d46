import ConsoleReplay.Proofs.Screen.Bounds
import ConsoleReplay.Proofs.Screen.Checked

/-!
# Operations that count in words

The operations of a screen once more, where every column, every row and every distance is worked
out in machine words: 64 bits, with or without a sign.  A sum, a difference or a product that
leaves the words has no result, and then the operation has none.  Only the moves by a distance do
not fail: they stop at the largest word and at zero.  Rows and cells are looked up under checked
indices as before.

Screens may be as wide and as high as words allow.  Still all operations but one always have a
result, and it is the one of the operation that counts without bounds.  The exception is a tab in
the last eight columns that a word can number: its stop is no word any more, and it has no result
where the tab of the program fails.

## Main definitions

* `Word.add?`, `Word.sub?`, `Word.mul?`, `Word.toSigned?`, `Word.neg?`, `Word.addSaturating` —
  arithmetic of words.
* `Counted.put`, `Counted.write`, `Counted.tab`, ... — the operations of a screen.

## Main results

* `Counted.put_eq`, `Counted.write_eq`, `Counted.moveBy_eq`, ... — on a screen whose size is in
  words an operation has a result, and which one.
* `Counted.tabStop_eq` — a stop counted in words is the stop of the program, and there is none
  where the program has none.
* `Counted.tab_eq`, `Counted.tab_eq_none` — a tab, with and without a stop.
* `Counted.perform_eq` — an instruction of the decoder.
-/

namespace ConsoleReplay

/-! ### Arithmetic of words -/

namespace Word

/-- The sum of two words, if it is one. -/
def add? (a b : Nat) : Option Nat := if a + b < wordLimit then some (a + b) else none

/-- The difference of two words, if it is one. -/
def sub? (a b : Nat) : Option Nat := if b ≤ a then some (a - b) else none

/-- The product of two words, if it is one. -/
def mul? (a b : Nat) : Option Nat := if a * b < wordLimit then some (a * b) else none

/-- A word as a word with a sign, if one has this value. -/
def toSigned? (n : Nat) : Option Int := if (n : Int) ≤ greatestSigned then some n else none

/-- The opposite of a word with a sign, if it is one: the least of them has none. -/
def neg? (d : Int) : Option Int := if leastSigned < d then some (-d) else none

/-- A word and a distance added up, or the word that is nearest to their sum.  It never fails, which
is why relative moves do not. -/
def addSaturating (a : Nat) (d : Int) : Nat := min (a + d).toNat (wordLimit - 1)

theorem add?_eq {a b : Nat} (h : a + b < wordLimit) : add? a b = some (a + b) := if_pos h

theorem sub?_eq {a b : Nat} (h : b ≤ a) : sub? a b = some (a - b) := if_pos h

/-- Below a word it does not show that a sum stops at the largest one. -/
theorem min_addSaturating (a : Nat) (d : Int) {n : Nat} (hn : n < wordLimit) :
    min (addSaturating a d) n = min (a + d).toNat n := by
  rw [addSaturating]
  omega

end Word

namespace Counted

/-! ### Cells of a row -/

/-- The row with a cell stored at a column: it is filled up to the column if it is shorter. -/
def putCell (row : Row) (x : Nat) (cell : Cell) : Option Row := do
  let cells ←
    if row.cells.length ≤ x then (Word.add? x 1).map (Checked.padded row.cells) else some row.cells
  let cells ← Checked.setCell cells x cell
  return ⟨cells, true⟩

/-- The row with a part of it erased. -/
def eraseCells (row : Row) (x : Nat) : Extent → Option Row
  | .toEnd => some (row.eraseFrom x)
  | .toStart => do
    let next ← Word.add? x 1
    let cells ← Checked.blankFront row.cells (min next row.cells.length)
    return if (Row.mk cells true).isBlank then .empty else ⟨cells, true⟩
  | .all => some row.eraseAll

theorem putCell_eq {x : Nat} (hx : x + 1 < wordLimit) (row : Row) (cell : Cell) :
    putCell row x cell = some (row.put x cell) := by
  rw [putCell]
  split
  · rw [Word.add?_eq hx]
    show (Checked.setCell (Checked.padded row.cells (x + 1)) x cell).bind _ = _
    rw [Checked.setCell_padded]
    rfl
  · next hstored =>
    have hlt : x < row.cells.length := Nat.lt_of_not_le hstored
    show (Checked.setCell row.cells x cell).bind _ = _
    rw [Checked.setCell, if_pos hlt, Row.put, Row.putCell, if_pos hlt]
    rfl

theorem eraseCells_eq {x : Nat} (hx : x + 1 < wordLimit) (row : Row) (extent : Extent) :
    eraseCells row x extent = some (row.erase x extent) := by
  cases extent with
  | toStart =>
    rw [← Checked.eraseCells_eq, eraseCells, Word.add?_eq hx]
    rfl
  | _ => rfl

/-! ### Operations of a screen

Each of these is the plain operation with its arithmetic spelled out.  On a screen in words every
sum is a column or a row of the screen, or one past it. -/

def put (s : Screen) (x y : Nat) (c : Char) : Option Screen := do
  let x := min x (← Word.sub? s.width 1)
  let y := min y (← Word.sub? s.height 1)
  Checked.updateRow s y (putCell · x ⟨c, s.pen⟩)

def lineFeed (s : Screen) : Option Screen := do
  let s := { s with wrapPending := false }
  let next ← Word.add? s.line 1
  if s.height ≤ next then Checked.scrollUp s else some { s with line := next }

def wrap (s : Screen) : Option Screen :=
  if s.wrapPending then lineFeed s.carriageReturn else some s

def advance (s : Screen) : Option Screen := do
  let next ← Word.add? s.column 1
  return if s.width ≤ next then { s with wrapPending := true } else { s with column := next }

def write (s : Screen) (c : Char) : Option Screen :=
  if Text.isZeroWidth c then some s else do
    let s ← wrap s
    let s ← put s s.column s.line c
    advance s

/-- The tab stop after a column.  Both the number of the stop and the stop itself are words, or
there is none. -/
def tabStop (x : Nat) : Option Nat := do
  let next ← Word.add? (x / Screen.tabWidth) 1
  Word.mul? next Screen.tabWidth

/-- Write so many blanks from the cursor on, which goes along, one column at a time and each column
counted. -/
def fill : Nat → Screen → Option Screen
  | 0, s => some s
  | n + 1, s => do
    let s ← put s s.column s.line ' '
    let next ← Word.add? s.column 1
    fill n { s with column := next }

def tab (s : Screen) : Option Screen := do
  let s := { s with wrapPending := false }
  let target := min (← tabStop s.column) (← Word.sub? s.width 1)
  fill (target - s.column) s

def backspace (s : Screen) : Option Screen :=
  let s := { s with wrapPending := false }
  if s.column = 0 then some s else do
    let x ← Word.sub? s.column 1
    let s := { s with column := x }
    let row ← Checked.row s s.line
    if x < row.cells.length then Checked.updateRow s s.line (putCell · x .blank) else some s

def moveTo (s : Screen) (x y : Nat) : Option Screen := do
  let x := min x (← Word.sub? s.width 1)
  let y := min y (← Word.sub? s.height 1)
  return { s with column := x, line := y, wrapPending := false }

def moveBy (s : Screen) (dx dy : Int) : Option Screen :=
  moveTo s (Word.addSaturating s.column dx) (Word.addSaturating s.line dy)

def eraseLine (s : Screen) (y : Nat) (extent : Extent) : Option Screen := do
  let y := min y (← Word.sub? s.height 1)
  Checked.updateRow { s with wrapPending := false } y (eraseCells · s.column extent)

def eraseRows (s : Screen) (ys : List Nat) : Option Screen :=
  ys.foldlM (fun s y => eraseLine s y .all) s

def eraseDisplay (s : Screen) : Extent → Option Screen
  | .toEnd => do
    let next ← Word.add? s.line 1
    let erased ← eraseLine s s.line .toEnd
    eraseRows erased (List.range' next (s.height - next))
  | .toStart => do
    let erased ← eraseRows s (List.range s.line)
    eraseLine erased s.line .toStart
  | .all => eraseRows s (List.range s.height)

/-- The cursor is moved onto a screen of the new size. -/
def resize (s : Screen) (width height : Nat) : Option Screen := do
  let column := min s.column (← Word.sub? (max width 1) 1)
  let line := min s.line (← Word.sub? (max height 1) 1)
  return { s.resize width height with column := column, line := line }

section Agreement

variable {s : Screen} (h : s.InWords)

include h

theorem column_add_one_lt : s.column + 1 < wordLimit :=
  Nat.lt_of_le_of_lt h.column_lt h.width_lt

theorem line_add_one_lt : s.line + 1 < wordLimit :=
  Nat.lt_of_le_of_lt h.line_lt h.height_lt

theorem put_eq (x y : Nat) (c : Char) : put s x y c = some (s.put x y c) := by
  have hy : s.clampLine y < s.rows.length := h.length_rows ▸ h.clampLine_lt y
  have hx : s.clampColumn x + 1 < wordLimit := Nat.lt_of_le_of_lt (h.clampColumn_lt x) h.width_lt
  rw [put, Word.sub?_eq h.width_pos, Word.sub?_eq h.height_pos]
  exact Checked.updateRow_eq hy fun row => putCell_eq hx row _

theorem lineFeed_eq : lineFeed s = some s.lineFeed := by
  simp only [lineFeed, Screen.lineFeed, Word.add?_eq (line_add_one_lt h), Option.bind_eq_bind,
    Option.bind_some]
  split
  · exact Checked.scrollUp_eq h.callOff
  · rfl

theorem wrap_eq : wrap s = some s.wrap := by
  rw [wrap, Screen.wrap]
  split
  · exact lineFeed_eq h.carriageReturn
  · rfl

theorem advance_eq : advance s = some s.advance := by
  rw [advance, Word.add?_eq (column_add_one_lt h)]
  rfl

theorem write_eq (c : Char) : write s c = some (s.write c) := by
  rw [write, Screen.write]
  split
  · rfl
  · rw [wrap_eq h, Option.bind_eq_bind, Option.bind_some, put_eq h.wrap, Option.bind_some,
      advance_eq (h.wrap.put ..)]

omit h in
/-- Where blanks are written does not depend on where the cursor is. -/
theorem putAll_setColumn (s : Screen) (x : Nat) (xs : List Nat) (c : Char) :
    xs.foldl (fun s x => s.put x s.line c) { s with column := x }
      = { xs.foldl (fun s x => s.put x s.line c) s with column := x } := by
  induction xs generalizing s with
  | nil => rfl
  | cons x' xs ih => exact ih (s.put x' s.line c)

/-- Blanks written one after the other, up to the last column at most.  Each step counts one column
on, which stays below the width and so below a word. -/
theorem fill_eq (hwrap : s.wrapPending = false) {n : Nat} (hn : s.column + n < s.width) :
    fill n s = some { (List.range' s.column n).foldl (fun s x => s.put x s.line ' ') s with
      column := s.column + n } := by
  induction n generalizing s with
  | zero => rfl
  | succ n ih =>
    let blanked := s.put s.column s.line ' '
    let next : Screen := { blanked with column := s.column + 1 }
    -- The cursor may go one further, because the last blank stays in front of the last column.
    have hnext : next.InWords := by
      refine h.of_size_eq ?_ rfl
      refine (h.toWellFormed.put s.column s.line ' ').moveCursor ?_ h.line_lt fun hpending => ?_
      · show s.column + 1 < s.width
        omega
      · exact absurd (hwrap.symm.trans hpending) Bool.false_ne_true
    have hroom : next.column + n < next.width := by
      show s.column + 1 + n < s.width
      omega
    have hadd : Word.add? blanked.column 1 = some (s.column + 1) :=
      Word.add?_eq (column_add_one_lt (h.put ..))
    rw [fill, put_eq h, Option.bind_eq_bind, Option.bind_some, hadd, Option.bind_eq_bind,
      Option.bind_some, ih hnext hwrap hroom, List.range'_succ, List.foldl_cons]
    -- The cursor is set at every blank here and once at the end there.
    have hmoved := putAll_setColumn blanked (s.column + 1) (List.range' (s.column + 1) n) ' '
    have hcolumn : s.column + 1 + n = s.column + (n + 1) := by omega
    show some { (List.range' (s.column + 1) n).foldl _ next with column := s.column + 1 + n } = _
    rw [hmoved, hcolumn]

/-- Filling cell by cell is filling up to a column that the cells end at. -/
theorem fill_eq_fillTo (hwrap : s.wrapPending = false) (stop : Nat) :
    fill (min stop (s.width - 1) - s.column) s = some (s.fillTo stop) := by
  have hlt := h.column_lt
  have htarget := h.clampColumn_lt stop
  rw [Screen.clampColumn] at htarget
  let n := min stop (s.width - 1) - s.column
  obtain ⟨-, -, hkept, -⟩ := Screen.frame_putAll s (List.range' s.column n) ' '
  have hcolumn : s.column + n
      = max ((List.range' s.column n).foldl (fun s x => s.put x s.line ' ') s).column
        (min stop (s.width - 1)) := by
    rw [hkept]
    omega
  have hroom : s.column + n < s.width := by omega
  rw [fill_eq h hwrap hroom, hcolumn]
  rfl

omit h in
/-- **A stop counted in words is the stop of the program.**  The number of the stop is no larger
than the stop, so it is the product alone that can leave the words. -/
theorem tabStop_eq (x : Nat) : tabStop x = Screen.tabStop? x := by
  rw [tabStop, Screen.tabStop?, Screen.tabWidth, Word.add?]
  by_cases hnumber : x / 8 + 1 < wordLimit
  · rw [if_pos hnumber]
    rfl
  · have hstop : ¬ (x / 8 + 1) * 8 < wordLimit := by omega
    rw [if_neg hnumber, if_neg hstop]
    rfl

theorem tab_eq {stop : Nat} (hstop : Screen.tabStop? s.column = some stop) :
    tab s = some s.tab := by
  have hcalm : ({ s with wrapPending := false } : Screen).InWords := h.of_size_eq h.callOff rfl
  have hfill := fill_eq_fillTo hcalm rfl stop
  simp only [tab, Screen.tab, tabStop_eq, hstop, Word.sub?_eq h.width_pos, Option.bind_eq_bind,
    Option.bind_some]
  exact hfill

omit h in
theorem tab_eq_none (hstop : Screen.tabStop? s.column = none) : tab s = none := by
  rw [tab, tabStop_eq, hstop]
  rfl

theorem backspace_eq : backspace s = some s.backspace := by
  have hline : s.line < s.rows.length := h.length_rows ▸ h.line_lt
  have hword := column_add_one_lt h
  simp only [backspace, Screen.backspace]
  split
  · rfl
  · next hcolumn =>
    have hx : s.column - 1 + 1 < wordLimit := by omega
    let back : Screen := { s with column := s.column - 1, wrapPending := false }
    simp only [Word.sub?_eq (Nat.one_le_iff_ne_zero.2 hcolumn), Checked.row,
      List.getElem?_eq_getElem hline, Option.bind_eq_bind, Option.bind_some, Option.any_some,
      decide_eq_true_eq]
    split
    · exact Checked.updateRow_eq (s := back) hline fun row => putCell_eq hx row _
    · rfl

theorem moveTo_eq (x y : Nat) : moveTo s x y = some (s.moveTo x y) := by
  rw [moveTo, Word.sub?_eq h.width_pos, Word.sub?_eq h.height_pos]
  rfl

/-- A sum that stops at the largest word is past the last column and row all the same. -/
theorem moveBy_eq (dx dy : Int) : moveBy s dx dy = some (s.moveBy dx dy) := by
  have hwidth := h.width_lt
  have hheight := h.height_lt
  have hx := Word.min_addSaturating s.column dx (n := s.width - 1) (by omega)
  have hy := Word.min_addSaturating s.line dy (n := s.height - 1) (by omega)
  rw [moveBy, moveTo_eq h, Screen.moveBy, Screen.moveTo, Screen.moveTo, Screen.clampColumn,
    Screen.clampLine, hx, hy]
  rfl

theorem eraseLine_eq (y : Nat) (extent : Extent) :
    eraseLine s y extent = some (s.eraseLine y extent) := by
  have hy : s.clampLine y < s.rows.length := h.length_rows ▸ h.clampLine_lt y
  rw [eraseLine, Word.sub?_eq h.height_pos]
  exact Checked.updateRow_eq (s := { s with wrapPending := false }) hy fun row =>
    eraseCells_eq (column_add_one_lt h) row extent

theorem eraseRows_eq (ys : List Nat) : eraseRows s ys = some (s.eraseRows ys) := by
  induction ys generalizing s with
  | nil => rfl
  | cons y ys ih =>
    rw [eraseRows, List.foldlM_cons, eraseLine_eq h]
    exact ih (h.eraseLine y .all)

theorem eraseDisplay_eq (extent : Extent) :
    eraseDisplay s extent = some (s.eraseDisplay extent) := by
  cases extent with
  | toEnd =>
    rw [eraseDisplay, Word.add?_eq (line_add_one_lt h), eraseLine_eq h]
    exact eraseRows_eq (h.eraseLine ..) _
  | toStart =>
    rw [eraseDisplay, eraseRows_eq h]
    exact eraseLine_eq (h.eraseRows _) _ _
  | all => exact eraseRows_eq h _

end Agreement

theorem resize_eq (s : Screen) (width height : Nat) :
    resize s width height = some (s.resize width height) := by
  rw [resize, Word.sub?_eq (Nat.le_max_right ..), Word.sub?_eq (Nat.le_max_right ..)]
  rfl

/-! ### Control sequences and text -/

/-- The effect of a cursor move; one that is not known has none. -/
def moveCursor (s : Screen) (final : Char) (params : List Nat) : Option Screen := do
  let n ← Word.toSigned? (paramOr params 0 1)
  match final with
  | 'A' => moveBy s 0 (← Word.neg? n)
  | 'B' => moveBy s 0 n
  | 'C' => moveBy s n 0
  | 'D' => moveBy s (← Word.neg? n) 0
  | 'E' => moveBy s.carriageReturn 0 n
  | 'F' => moveBy s.carriageReturn 0 (← Word.neg? n)
  | 'G' => moveTo s (← Word.sub? (paramOr params 0 1) 1) s.line
  | 'd' => moveTo s s.column (← Word.sub? (paramOr params 0 1) 1)
  | 'H' | 'f' =>
    let y ← Word.sub? (paramOr params 0 1) 1
    let x ← Word.sub? (paramOr params 1 1) 1
    moveTo s x y
  | _ => some s

/-- The effect of an erase; one that is not known has none. -/
def erase (s : Screen) (final : Char) (params : List Nat) : Option Screen :=
  match Extent.ofParam? (params.head?.getD 0), final with
  | some extent, 'J' => eraseDisplay s extent
  | some extent, 'K' => eraseLine s s.line extent
  | _, _ => some s

/-- The effect of a control sequence; one that is not known has none. -/
def sequence (s : Screen) (final : Char) (params : List Nat) : Option Screen :=
  match final with
  | 'A' | 'B' | 'C' | 'D' | 'E' | 'F' | 'G' | 'H' | 'f' | 'd' => moveCursor s final params
  | 'J' | 'K' => erase s final params
  | 'm' => some { s with pen := s.pen.applySgr params }
  | _ => some s

def perform (s : Screen) : Instruction → Option Screen
  | .write c => write s c
  | .carriageReturn => some s.carriageReturn
  | .lineFeed => lineFeed s
  | .backspace => backspace s
  | .tab => tab s
  | .sequence final params => sequence s final params

/-- A parameter that is missing or zero is one. -/
theorem paramOr_pos (params : List Nat) (i : Nat) : 1 ≤ paramOr params i 1 := by
  rw [paramOr]
  split
  · exact Nat.le_refl 1
  · exact Nat.le_refl 1
  · next n hzero _ => exact Nat.one_le_iff_ne_zero.2 fun hn => hzero (hn ▸ rfl)

theorem paramOr_le {params : List Nat} (h : ∀ n ∈ params, n ≤ maxParam) (i : Nat) :
    paramOr params i 1 ≤ maxParam := by
  rw [paramOr]
  split
  · decide
  · decide
  · next n _ heq => exact h n (List.mem_of_getElem? heq)

section Agreement

variable {s : Screen} (h : s.InWords)

include h

/-- A parameter of 16 bits has an opposite among the words of 64 bits.  So no move of a control
sequence fails, whatever its parameter is. -/
theorem moveCursor_eq (final : Char) {params : List Nat} (hparams : ∀ n ∈ params, n ≤ maxParam) :
    moveCursor s final params = some ((s.moveCursor? final params).getD s) := by
  have hle : paramOr params 0 1 ≤ 65535 := paramOr_le hparams 0
  have hsigned : Word.toSigned? (paramOr params 0 1) = some (paramOr params 0 1 : Int) := by
    rw [Word.toSigned?, greatestSigned, if_pos (by omega)]
  have hneg : Word.neg? (paramOr params 0 1) = some (-(paramOr params 0 1 : Int)) := by
    rw [Word.neg?, leastSigned, if_pos (by omega)]
  have hfirst := Word.sub?_eq (paramOr_pos params 0)
  have hsecond := Word.sub?_eq (paramOr_pos params 1)
  simp only [moveCursor, hsigned, hneg, hfirst, hsecond, Option.bind_eq_bind, Option.bind_some]
  split
  · exact moveBy_eq h _ _
  · exact moveBy_eq h _ _
  · exact moveBy_eq h _ _
  · exact moveBy_eq h _ _
  · exact moveBy_eq h.carriageReturn _ _
  · exact moveBy_eq h.carriageReturn _ _
  · exact moveTo_eq h _ _
  · exact moveTo_eq h _ _
  · exact moveTo_eq h _ _
  · exact moveTo_eq h _ _
  · -- The same final characters are unknown to the move that counts without bounds.
    unfold Screen.moveCursor?
    split
    all_goals first
      | contradiction
      | rfl

theorem erase_eq (final : Char) (params : List Nat) :
    erase s final params = some ((s.erase? final params).getD s) := by
  unfold erase
  split
  · next extent hextent =>
    unfold Screen.erase?
    rw [hextent]
    exact eraseDisplay_eq h extent
  · next extent hextent =>
    unfold Screen.erase?
    rw [hextent]
    exact eraseLine_eq h s.line extent
  · next hdisplay hline =>
    -- The erase without bounds knows the same two final characters.
    unfold Screen.erase?
    split
    · next hextent => exact (hdisplay _ hextent rfl).elim
    · next hextent => exact (hline _ hextent rfl).elim
    · rfl

theorem sequence_eq (final : Char) {params : List Nat} (hparams : ∀ n ∈ params, n ≤ maxParam) :
    sequence s final params = some ((s.sequence? final params).getD s) := by
  unfold sequence
  split
  iterate 10 exact moveCursor_eq h _ hparams
  iterate 2 exact erase_eq h _ params
  · rfl
  · -- A final character that asks for nothing here asks for nothing there.
    unfold Screen.sequence?
    split
    all_goals first
      | contradiction
      | rfl

/-- An instruction whose parameters are words has a result, except for a tab without a stop.  The
exception is exact: without a stop the counted tab has no result at all. -/
theorem perform_eq {instruction : Instruction} (hwords : instruction.InWords)
    (hstop : ¬ (instruction = .tab ∧ Screen.tabStop? s.column = none)) :
    perform s instruction = some (s.perform instruction) := by
  cases instruction with
  | write c => exact write_eq h c
  | carriageReturn => rfl
  | lineFeed => exact lineFeed_eq h
  | backspace => exact backspace_eq h
  | tab =>
    obtain ⟨stop, hsome⟩ := Option.ne_none_iff_exists'.1 fun hnone => hstop ⟨rfl, hnone⟩
    exact tab_eq h hsome
  | sequence final params => exact sequence_eq h final hwords

end Agreement

end Counted

end ConsoleReplay
