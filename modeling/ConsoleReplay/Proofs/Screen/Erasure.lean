import ConsoleReplay.Proofs.Screen.Dense
import ConsoleReplay.Screen.Runs
import Mathlib.Data.List.Induction

/-!
# What an erase touches

An erase should blank the cells of its region, character and style, and leave every other
cell as it is painted.  To the end of a row and over whole rows it does.  An erase to the
start of a row does so as well, unless it leaves nothing but spaces on the row: then the
row is emptied, and spaces that were painted in a style, as on a coloured background, lose
it to the right of the cursor too.  Painting counts such spaces as something shown, and the
test for an empty row does not.

## Main definitions

* `Screen.cellAt s x y` — the cell read at a place of a screen.
* `Screen.paintedAt s x y` — the cell that painting shows at a place.
* `Screen.lineRegion`, `Screen.displayRegion` — what an erase is asked to clear.
* `Screen.Erases s t region` — `t` is `s` with a region blanked and nothing else changed.
* `Screen.Empties`, `Screen.Bleaches` — an erase to the start finds only spaces after the
  cursor, and among them one that is not plain.

## Main results

* `Screen.paintedAt_eq_cellAt` — painting shows what is read, cell by cell.
* `Row.cellAt_erase_of_blanked`, `Row.cellAt_erase_of_kept` — an erase of a row, cell by
  cell.
* `Screen.erases_eraseLine`, `Screen.erases_eraseRows`, `Screen.erases_eraseDisplay` — the
  places that an erase blanks.
* `Terminal.erases_region_iff` — **an erase blanks exactly its region**, on every screen
  that can be reached, if and only if it does not bleach a row.
* `Terminal.erase_bleaches` — red spaces after the cursor that an erase to the start takes
  along.
-/

namespace ConsoleReplay

namespace Row

/-! ### The cells of a row after an erase -/

/-- An erase to the start of a row that leaves only spaces behind it.  Such a row is emptied as a
whole. -/
def Empties (row : Row) (x : Nat) (extent : Extent) : Prop :=
  extent = .toStart ∧ ∀ x', x < x' → row.charAt x' = ' '

/-- A row counts as blank if nothing but spaces can be read in it, styled or not. -/
theorem isBlank_iff {row : Row} : row.isBlank = true ↔ ∀ x, row.charAt x = ' ' := by
  refine ⟨charAt_of_isBlank, fun h => ?_⟩
  rw [isBlank, List.all_eq_true]
  intro cell hcell
  obtain ⟨x, hx⟩ := List.mem_iff_getElem?.1 hcell
  have hread := h x
  rw [charAt, cellAt, hx] at hread
  exact beq_iff_eq.2 hread

/-- The test for an empty row, after an erase to the start, is whether the erase empties it.  The
program looks at the whole row, though only what is behind the column can decide. -/
theorem isBlank_blankThrough_iff {row : Row} {x : Nat} :
    (Row.mk (blankThrough row.cells x) true).isBlank = true ↔ row.Empties x .toStart := by
  have hread (x' : Nat) : (Row.mk (blankThrough row.cells x) true).charAt x'
      = if x' ≤ x then ' ' else row.charAt x' := by
    rw [charAt, cellAt_blankThrough]
    split <;> rfl
  rw [isBlank_iff]
  constructor
  · -- The columns up to the cursor were blanked by the erase itself, so that only the ones
    -- behind it tell.
    intro hblank
    refine ⟨rfl, fun x' hx' => ?_⟩
    have hafter := hblank x'
    rwa [hread, if_neg (by omega)] at hafter
  · rintro ⟨-, hspaces⟩ x'
    rw [hread]
    split
    · rfl
    · next hx' => exact hspaces x' (by omega)

variable {row : Row} {x x' : Nat} {extent : Extent}

/-- The columns that an erase covers are blanked, and all columns of a row that it
empties. -/
theorem cellAt_erase_of_blanked
    (h : extent.covers x x' = true ∨ row.Empties x extent) :
    (row.erase x extent).cellAt x' = .blank := by
  cases extent with
  | toEnd =>
    -- Only an erase to the start empties a row.
    have hcovers : x ≤ x' := by
      rcases h with hcovers | ⟨htoStart, -⟩
      · exact of_decide_eq_true hcovers
      · nomatch htoStart
    rw [erase, cellAt_eraseFrom, if_neg (by omega)]
  | toStart =>
    simp only [erase, eraseThrough]
    split
    · exact cellAt_empty x'
    · next hblank =>
      -- The row was not emptied, so the erase covers the column.
      have hcovers : x' ≤ x :=
        of_decide_eq_true (h.resolve_right (mt isBlank_blankThrough_iff.2 hblank))
      rw [cellAt_blankThrough, if_pos hcovers]
  | all => exact row.cellAt_eraseAll x'

/-- Every other column keeps its cell. -/
theorem cellAt_erase_of_kept
    (h : ¬ (extent.covers x x' = true ∨ row.Empties x extent)) :
    (row.erase x extent).cellAt x' = row.cellAt x' := by
  obtain ⟨hcovers, hempties⟩ := not_or.1 h
  cases extent with
  | toEnd =>
    have hlt : x' < x := Nat.lt_of_not_le (mt decide_eq_true hcovers)
    rw [erase, cellAt_eraseFrom, if_pos hlt]
  | toStart =>
    simp only [erase, eraseThrough]
    rw [if_neg (mt isBlank_blankThrough_iff.1 hempties), cellAt_blankThrough,
      if_neg (mt decide_eq_true hcovers)]
  | all => exact absurd rfl hcovers

/-- Of a row without cells an erase leaves one without cells. -/
theorem cellAt_erase_empty : (empty.erase x extent).cellAt x' = .blank := by
  by_cases h : extent.covers x x' = true ∨ empty.Empties x extent
  · exact cellAt_erase_of_blanked h
  · rw [cellAt_erase_of_kept h, cellAt_empty]

/-! ### The cells of a row as it is painted -/

/-- Plain spaces at the end of a row are not painted, and read as they would be. -/
theorem getElem?_paintedCells (row : Row) (x : Nat) :
    row.paintedCells[x]?.getD .blank = row.cellAt x := by
  obtain ⟨cells, dirty⟩ := row
  simp only [paintedCells, cellAt]
  induction cells using List.reverseRecOn with
  | nil => rfl
  | append_singleton cells cell ih =>
    rw [List.reverse_concat]
    by_cases hblank : cell = .blank
    · subst hblank
      rw [List.dropWhile_cons, if_pos (beq_self_eq_true _), ih]
      exact (Text.getElem?_append_blanks .blank cells 1 x).symm
    · rw [List.dropWhile_cons_of_neg (by simpa using hblank), List.reverse_cons,
        List.reverse_reverse]

end Row

namespace Screen

/-! ### Reading a screen cell by cell -/

/-- The cell read at a place; what is not stored reads as a blank. -/
def cellAt (s : Screen) (x y : Nat) : Cell := ((s.row? y).getD .empty).cellAt x

/-- The cell that painting shows at a place; where no run reaches there is a blank. -/
def paintedAt (s : Screen) (x y : Nat) : Cell :=
  ((s.runs[y]?.getD []).flatMap Run.cells)[x]?.getD .blank

/-- **Painting shows what is read**, although the plain spaces at the end of a row are left
out. -/
theorem paintedAt_eq_cellAt (s : Screen) (x y : Nat) : s.paintedAt x y = s.cellAt x y := by
  rw [paintedAt, cellAt, runs, List.getElem?_map, row?]
  cases s.rows[y]? with
  | none => rfl
  | some row =>
    show ((Run.ofCells row.paintedCells).flatMap Run.cells)[x]?.getD .blank = row.cellAt x
    rw [Run.flatMap_cells_ofCells, row.getElem?_paintedCells]

/-- Below the last row everything reads as blank. -/
theorem cellAt_of_length_le {s : Screen} {y : Nat} (h : s.rows.length ≤ y) (x : Nat) :
    s.cellAt x y = .blank := by
  rw [cellAt, row?, List.getElem?_eq_none h]
  exact Row.cellAt_empty x

/-! ### Regions

An erase is asked for in regions: some places are to be blank, and the others are to stay as they
are.  What is painted tells whether it has kept to its region. -/

/-- The places of one row that an erase is asked to clear. -/
def lineRegion (s : Screen) (y : Nat) (extent : Extent) (x y' : Nat) : Prop :=
  y' = s.clampLine y ∧ extent.covers s.column x = true

/-- The places that an erase of the screen is asked to clear.  This is what the request says,
whatever is done about it. -/
def displayRegion (s : Screen) (extent : Extent) (x y : Nat) : Prop :=
  extent.coversPlace s.column s.line x y = true

/-- One screen is the other with the places of a region blanked: all other cells are painted
as before, and size, cursor and pen are the same. -/
structure Erases (s t : Screen) (region : Nat → Nat → Prop) : Prop where
  blanked : ∀ x y, region x y → t.paintedAt x y = .blank
  kept : ∀ x y, ¬ region x y → t.paintedAt x y = s.paintedAt x y
  width_eq : t.width = s.width
  height_eq : t.height = s.height
  column_eq : t.column = s.column
  line_eq : t.line = s.line
  pen_eq : t.pen = s.pen

namespace Erases

variable {s t u : Screen} {region region' : Nat → Nat → Prop}

theorem refl (s : Screen) : s.Erases s fun _ _ => False :=
  ⟨fun _ _ h => h.elim, fun _ _ _ => rfl, rfl, rfl, rfl, rfl, rfl⟩

/-- Two erases one after the other blank both regions.  The second one does not bring back what the
first one blanked, since it keeps what it does not cover. -/
theorem trans (h : s.Erases t region) (h' : t.Erases u region') :
    s.Erases u fun x y => region x y ∨ region' x y where
  blanked := by
    intro x y hplace
    -- The second erase comes last, so where both cover a place it is asked first.
    by_cases hsecond : region' x y
    · exact h'.blanked x y hsecond
    · rw [h'.kept x y hsecond]
      exact h.blanked x y (hplace.resolve_right hsecond)
  kept := by
    intro x y hplace
    obtain ⟨hfirst, hsecond⟩ := not_or.1 hplace
    rw [h'.kept x y hsecond, h.kept x y hfirst]
  width_eq := h'.width_eq.trans h.width_eq
  height_eq := h'.height_eq.trans h.height_eq
  column_eq := h'.column_eq.trans h.column_eq
  line_eq := h'.line_eq.trans h.line_eq
  pen_eq := h'.pen_eq.trans h.pen_eq

/-- A place that is blank before and after may be counted in or left out. -/
theorem congr (h : s.Erases t region)
    (hregion : ∀ x y, s.paintedAt x y ≠ .blank → (region x y ↔ region' x y)) :
    s.Erases t region' := by
  have hblank (x y : Nat) (hbefore : s.paintedAt x y = .blank) : t.paintedAt x y = .blank := by
    by_cases hplace : region x y
    · exact h.blanked x y hplace
    · rw [h.kept x y hplace, hbefore]
  refine { h with blanked := fun x y hplace => ?_, kept := fun x y hplace => ?_ }
  · by_cases hbefore : s.paintedAt x y = .blank
    · exact hblank x y hbefore
    · exact h.blanked x y ((hregion x y hbefore).2 hplace)
  · by_cases hbefore : s.paintedAt x y = .blank
    · rw [hblank x y hbefore, hbefore]
    · exact h.kept x y (mt (hregion x y hbefore).1 hplace)

end Erases

/-! ### Erases of a row and of the screen -/

/-- An erase to the start finds only spaces after the cursor. -/
def Empties (s : Screen) (y : Nat) (extent : Extent) : Prop :=
  extent = .toStart ∧ ∀ x, s.column < x → (s.paintedAt x y).char = ' '

/-- An erase to the start finds only spaces after the cursor, and not all of them plain.  These lose
their style although they were not asked for. -/
def Bleaches (s : Screen) (y : Nat) (extent : Extent) : Prop :=
  s.Empties y extent ∧ ∃ x, s.column < x ∧ s.paintedAt x y ≠ .blank

theorem empties_iff {s : Screen} {y : Nat} {extent : Extent} :
    s.Empties y extent ↔ ((s.row? y).getD .empty).Empties s.column extent := by
  simp only [Empties, paintedAt_eq_cellAt]
  exact Iff.rfl

/-- An erase of one row blanks what it covers, and all of a row that it empties. -/
theorem erases_eraseLine (s : Screen) (y : Nat) (extent : Extent) :
    s.Erases (s.eraseLine y extent) fun x y' =>
      s.lineRegion y extent x y' ∨ (y' = s.clampLine y ∧ s.Empties y' extent) := by
  let z := s.clampLine y
  have hrow (y' : Nat) : (s.eraseLine y extent).row? y'
      = if y' = z then (s.row? y').map (·.erase s.column extent) else s.row? y' :=
    row?_updateRow { s with wrapPending := false } z y' _
  -- A row that is not there reads as the empty one, before and after.
  have hcell (x : Nat) : (s.eraseLine y extent).cellAt x z
      = (((s.row? z).getD .empty).erase s.column extent).cellAt x := by
    rw [cellAt, hrow, if_pos rfl]
    cases s.row? z with
    | some row => rfl
    | none => exact (Row.cellAt_empty x).trans Row.cellAt_erase_empty.symm
  refine ⟨fun x y' hplace => ?_, fun x y' hplace => ?_, rfl, rfl, rfl, rfl, rfl⟩
  · have hline : y' = z := hplace.elim And.left And.left
    subst hline
    rw [paintedAt_eq_cellAt, hcell]
    exact Row.cellAt_erase_of_blanked (hplace.imp And.right fun h => empties_iff.1 h.2)
  · rw [paintedAt_eq_cellAt, paintedAt_eq_cellAt]
    by_cases hline : y' = z
    · subst hline
      rw [hcell]
      refine Row.cellAt_erase_of_kept fun hrow => hplace ?_
      exact hrow.imp (fun hcovers => ⟨rfl, hcovers⟩) fun h => ⟨rfl, empties_iff.2 h⟩
    · rw [cellAt, hrow, if_neg hline, cellAt]

/-- Rows erased one after the other. -/
theorem erases_eraseRows {s : Screen} {ys : List Nat} (hys : ∀ y ∈ ys, y < s.height) :
    s.Erases (s.eraseRows ys) fun _ y => y ∈ ys := by
  induction ys generalizing s with
  | nil => exact (Erases.refl s).congr fun x y _ => by simp
  | cons y ys ih =>
    obtain ⟨hy, hys⟩ := List.forall_mem_cons.1 hys
    refine ((s.erases_eraseLine y .all).trans (ih hys)).congr fun x y' _ => ?_
    have hclamp : s.clampLine y = y := Nat.min_eq_left (by omega)
    simp only [lineRegion, Extent.covers, hclamp, and_true, Empties, reduceCtorEq, false_and,
      and_false, or_false, List.mem_cons]

/-- An erase of the screen blanks what it covers, and all of the cursor's row if it empties
that. -/
theorem erases_eraseDisplay {s : Screen} (h : s.WellFormed) (extent : Extent) :
    s.Erases (s.eraseDisplay extent) fun x y =>
      s.displayRegion extent x y ∨ (y = s.line ∧ s.Empties y extent) := by
  have hline := h.line_lt
  have hclamp : s.clampLine s.line = s.line := Nat.min_eq_left (by omega)
  -- What is painted is on the screen, and elsewhere a region may reach where it likes.
  have hon (x y : Nat) (hpainted : s.paintedAt x y ≠ .blank) : y < s.height := by
    refine Nat.lt_of_not_le fun hy => hpainted ?_
    rw [paintedAt_eq_cellAt]
    exact cellAt_of_length_le (by rw [h.length_rows]; exact hy) x
  cases extent with
  | toEnd =>
    have hbelow : ∀ y ∈ List.range' (s.line + 1) (s.height - (s.line + 1)), y < s.height := by
      intro y hy
      rw [List.mem_range'_1] at hy
      omega
    refine ((s.erases_eraseLine s.line .toEnd).trans (erases_eraseRows hbelow)).congr
      fun x y hpainted => ?_
    have hy := hon x y hpainted
    simp only [lineRegion, displayRegion, Extent.covers, Extent.coversPlace, hclamp, Empties,
      reduceCtorEq, false_and, and_false, or_false, List.mem_range'_1, Bool.or_eq_true,
      Bool.and_eq_true, decide_eq_true_eq]
    omega
  | toStart =>
    let t := s.eraseRows (List.range s.line)
    have habove : s.Erases t fun _ y => y ∈ List.range s.line := by
      refine erases_eraseRows fun y hy => ?_
      have hlt := List.mem_range.1 hy
      omega
    have hrow : t.Empties s.line .toStart ↔ s.Empties s.line .toStart := by
      have hkept (x : Nat) : t.paintedAt x s.line = s.paintedAt x s.line :=
        habove.kept x s.line List.not_mem_range_self
      simp only [Empties, hkept, habove.column_eq]
    have hclamp' : t.clampLine s.line = s.line := by
      rw [clampLine, habove.height_eq]
      exact hclamp
    refine (habove.trans (t.erases_eraseLine s.line .toStart)).congr fun x y _ => ?_
    simp only [lineRegion, displayRegion, Extent.covers, Extent.coversPlace, hclamp',
      habove.column_eq, List.mem_range, Bool.or_eq_true, Bool.and_eq_true, decide_eq_true_eq,
      or_assoc]
    refine or_congr_right (or_congr_right (and_congr_right fun heq => ?_))
    rw [heq, hrow]
  | all =>
    have hall : ∀ y ∈ List.range s.height, y < s.height := fun y hy => List.mem_range.1 hy
    refine (erases_eraseRows hall).congr fun x y hpainted => ?_
    have hy := hon x y hpainted
    simp only [displayRegion, Extent.coversPlace, true_or, List.mem_range, hy]

/-- An erase that empties a row keeps to its region if there is nothing painted beyond.  Only spaces
in a style can be seen to go, and they are what makes the difference. -/
theorem erases_iff_not_bleaches {s t : Screen} {region : Nat → Nat → Prop} {z : Nat}
    {extent : Extent} (hregion : ∀ x, region x z ↔ extent.covers s.column x = true)
    (h : s.Erases t fun x y => region x y ∨ (y = z ∧ s.Empties y extent)) :
    s.Erases t region ↔ ¬ s.Bleaches z extent := by
  constructor
  · rintro hexact ⟨hempties, x, hx, hpainted⟩
    -- A painted cell beyond the cursor is none of the region, yet the erase takes it along.
    have hspared : ¬ region x z := by
      rw [hregion, hempties.1]
      exact mt of_decide_eq_true (by omega)
    have hafter : t.paintedAt x z = .blank := h.blanked x z (.inr ⟨rfl, hempties⟩)
    rw [hexact.kept x z hspared] at hafter
    exact hpainted hafter
  · intro hspares
    -- With nothing painted beyond the cursor the row that is emptied was blank there already.
    refine h.congr fun x y hpainted => or_iff_left_of_imp ?_
    rintro ⟨rfl, hempties⟩
    have hx : ¬ s.column < x := fun hx => hspares ⟨hempties, x, hx, hpainted⟩
    rw [hregion, hempties.1]
    exact decide_eq_true (by omega)

end Screen

namespace Terminal

/-- **An erase touches exactly its region**, on every screen that can be reached and
wherever the cursor is, unless it bleaches a row: the places of its region are painted as plain
blanks, every other cell keeps its character and its style, and the cursor, the pen and the
size are as before.  An erase that bleaches a row, and only such a one, does not keep to its
region; it empties that row as well, and nothing else. -/
theorem erases_region_iff (width height : Nat) (ops : List Operation) :
    let s := ((start width height).run ops).screen
    (∀ y extent,
      (s.Erases (s.eraseLine y extent) (s.lineRegion y extent)
          ↔ ¬ s.Bleaches (s.clampLine y) extent)
        ∧ s.Erases (s.eraseLine y extent) fun x y' =>
            s.lineRegion y extent x y' ∨ (y' = s.clampLine y ∧ s.Empties y' extent))
      ∧ ∀ extent,
        (s.Erases (s.eraseDisplay extent) (s.displayRegion extent) ↔ ¬ s.Bleaches s.line extent)
          ∧ s.Erases (s.eraseDisplay extent) fun x y =>
              s.displayRegion extent x y ∨ (y = s.line ∧ s.Empties y extent) := by
  intro s
  have hs : s.WellFormed := ((wellFormed_start width height).run ops).screen
  refine ⟨fun y extent => ?_, fun extent => ?_⟩
  · -- What an erase really blanks is known; whether that is its region is a matter of one row.
    have hline := s.erases_eraseLine y extent
    refine ⟨Screen.erases_iff_not_bleaches (fun x => ?_) hline, hline⟩
    rw [Screen.lineRegion, and_iff_right rfl]
  · have hdisplay := Screen.erases_eraseDisplay hs extent
    refine ⟨Screen.erases_iff_not_bleaches (fun x => ?_) hdisplay, hdisplay⟩
    cases extent <;> simp [Screen.displayRegion, Extent.coversPlace, Extent.covers]

/-- Three spaces on red and the cursor on the first of them: an erase of the row or of the
screen, up to the cursor, takes the red of the other two as well. -/
theorem erase_bleaches :
    let s := ((start 5 1).run [.feed "\x1b[41m   \r".toList]).screen
    s.column = 0 ∧ ¬ s.lineRegion 0 .toStart 1 0 ∧ ¬ s.displayRegion .toStart 1 0
      ∧ s.paintedAt 1 0 = ⟨' ', { Style.plain with background := .normal .red }⟩
      ∧ (s.eraseLine 0 .toStart).paintedAt 1 0 = .blank
      ∧ (s.eraseDisplay .toStart).paintedAt 1 0 = .blank
      ∧ ¬ s.Erases (s.eraseLine 0 .toStart) (s.lineRegion 0 .toStart)
      ∧ ¬ s.Erases (s.eraseDisplay .toStart) (s.displayRegion .toStart) := by
  intro s
  have hcolumn : s.column = 0 := by decide +kernel
  have hrow : ¬ s.lineRegion 0 .toStart 1 0 := by
    rintro ⟨-, hcovers⟩
    rw [hcolumn] at hcovers
    nomatch hcovers
  have hscreen : ¬ s.displayRegion .toStart 1 0 := by
    have hline : s.line = 0 := by decide +kernel
    rw [Screen.displayRegion, hcolumn, hline]
    decide
  have hbefore : s.paintedAt 1 0 = ⟨' ', { Style.plain with background := .normal .red }⟩ := by
    decide +kernel
  have hline : (s.eraseLine 0 .toStart).paintedAt 1 0 = .blank := by decide +kernel
  have hdisplay : (s.eraseDisplay .toStart).paintedAt 1 0 = .blank := by decide +kernel
  refine ⟨hcolumn, hrow, hscreen, hbefore, hline, hdisplay, fun herases => ?_, fun herases => ?_⟩
  · have hkept := herases.kept 1 0 hrow
    rw [hline, hbefore] at hkept
    nomatch hkept
  · have hkept := herases.kept 1 0 hscreen
    rw [hdisplay, hbefore] at hkept
    nomatch hkept

end Terminal

end ConsoleReplay
