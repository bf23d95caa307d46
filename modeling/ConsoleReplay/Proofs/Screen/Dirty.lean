import ConsoleReplay.Proofs.Screen.Operation

/-!
# Dirty rows

Whoever paints a screen relies on its dirty flags: a row without the flag shows what
it showed when the screen was last painted.  An operation may therefore leave a row
unmarked only if it leaves the whole row alone.  Most operations change one row and
mark it; scrolling and a change of size, which move rows to other places, mark all of
them.

The screen has a dirty flag of its own.  It is set exactly when a row is dirty.

## Main definitions

* `Screen.FlagAgrees s` — the flag of the screen agrees with those of its rows.
* `Screen.ChangesMarked s t` — all that is different in `t` is marked there.

## Main results

* `changesMarked_updateRow`, `changesMarked_of_all_dirty`, `changesMarked_of_rows_eq` —
  the three kinds of change.
* `changesMarked_perform`, `changesMarked_resize` — every instruction and every change
  of size marks what it changes.
* `Terminal.changesMarked_feed` — a text marks what it changes, all in all.
-/

namespace ConsoleReplay

namespace Row

/-- An erased row is marked, also if there was nothing to erase. -/
theorem dirty_erase (row : Row) (x : Nat) (extent : Extent) :
    (row.erase x extent).dirty = true := by
  cases extent with
  | toEnd => rfl
  | toStart =>
    simp only [erase, eraseThrough]
    split
    · rfl
    · rfl
  | all => rfl

end Row

namespace Screen

/-- The dirty flag of the screen is set exactly when a row is dirty.  It is kept apart in the
program, so this is something to be shown. -/
def FlagAgrees (s : Screen) : Prop := s.dirty = s.rows.any Row.dirty

/-- All that is different in a later screen is marked there, so a viewer that paints the marked rows
misses nothing. -/
structure ChangesMarked (s t : Screen) : Prop where
  /-- A row that is not marked was there before. -/
  row?_of_clean {y : Nat} {row : Row} :
    t.row? y = some row → row.dirty = false → s.row? y = some row
  /-- The flag of the screen keeps up with those of the rows. -/
  flagAgrees : s.FlagAgrees → t.FlagAgrees

variable {s t u : Screen}

/-- The numbers of the dirty rows. -/
theorem mem_dirtyRows {y : Nat} :
    y ∈ s.dirtyRows ↔ ∃ row, s.row? y = some row ∧ row.dirty = true := by
  simp only [dirtyRows, row?, List.mem_map, List.mem_filter, List.mem_zipIdx_iff_getElem?]
  constructor
  · rintro ⟨⟨row, z⟩, ⟨hrow, hdirty⟩, rfl⟩
    exact ⟨row, hrow, hdirty⟩
  · rintro ⟨row, hrow, hdirty⟩
    exact ⟨(row, y), ⟨hrow, hdirty⟩, rfl⟩

/-- Where the flags agree, a screen is dirty exactly when it has rows to paint. -/
theorem FlagAgrees.dirty_iff (h : s.FlagAgrees) : s.dirty = true ↔ s.dirtyRows ≠ [] := by
  rw [h, List.any_eq_true]
  constructor
  · rintro ⟨row, hrow, hdirty⟩
    obtain ⟨y, hy⟩ := List.mem_iff_getElem?.1 hrow
    exact List.ne_nil_of_mem (mem_dirtyRows.2 ⟨row, hy, hdirty⟩)
  · intro hne
    obtain ⟨y, hy⟩ := List.exists_mem_of_ne_nil _ hne
    obtain ⟨row, hrow, hdirty⟩ := mem_dirtyRows.1 hy
    exact ⟨row, List.mem_of_getElem? hrow, hdirty⟩

/-- A new screen has to be painted as a whole. -/
theorem flagAgrees_blank (width height : Nat) : (blank width height).FlagAgrees := by
  have hpos : max height 1 ≠ 0 := by omega
  rw [FlagAgrees, blank, List.any_replicate, if_neg hpos]
  rfl

theorem flagAgrees_markClean (s : Screen) : s.markClean.FlagAgrees := by
  rw [FlagAgrees, markClean, List.any_map]
  exact (List.any_eq_false.2 fun row _ => Bool.false_ne_true).symm

/-! ### The kinds of change

An operation is made of changes of one row, of changes after which every row is marked, and of
changes of no row.  Each kind marks what it changes, so that operations only have to be taken apart
into them. -/

/-- What is not a change of rows has nothing to mark. -/
theorem changesMarked_of_rows_eq (hrows : t.rows = s.rows) (hdirty : t.dirty = s.dirty) :
    s.ChangesMarked t where
  row?_of_clean hrow _ := by
    rwa [row?, ← hrows]
  flagAgrees h := by
    rw [FlagAgrees, hrows, hdirty]
    exact h

theorem ChangesMarked.refl (s : Screen) : s.ChangesMarked s := changesMarked_of_rows_eq rfl rfl

theorem ChangesMarked.trans (hst : s.ChangesMarked t) (htu : t.ChangesMarked u) :
    s.ChangesMarked u where
  row?_of_clean hrow hclean := hst.row?_of_clean (htu.row?_of_clean hrow hclean) hclean
  flagAgrees h := htu.flagAgrees (hst.flagAgrees h)

/-- Calling a deferred wrap off changes no row. -/
theorem changesMarked_callOff (s : Screen) : s.ChangesMarked { s with wrapPending := false } :=
  changesMarked_of_rows_eq rfl rfl

/-- One row of the screen is changed, and marked whatever becomes of it. -/
theorem changesMarked_updateRow {y : Nat} (hy : y < s.rows.length) {f : Row → Row}
    (hf : ∀ row, (f row).dirty = true) : s.ChangesMarked (s.updateRow y f) where
  row?_of_clean := by
    intro z row hrow hclean
    rw [row?_updateRow] at hrow
    split at hrow
    · obtain ⟨before, -, rfl⟩ := Option.map_eq_some_iff.1 hrow
      rw [hf before] at hclean
      exact absurd hclean Bool.noConfusion
    · exact hrow
  flagAgrees _ := by
    have hrow : (s.updateRow y f).row? y = some (f s.rows[y]) := by
      rw [row?_updateRow, if_pos rfl, row?, List.getElem?_eq_getElem hy]
      rfl
    exact (List.any_eq_true.2 ⟨_, List.mem_of_getElem? hrow, hf _⟩).symm

/-- Where every row is marked, anything may have happened to the rows. -/
theorem changesMarked_of_all_dirty (hdirty : t.dirty = true) (hne : t.rows ≠ [])
    (hall : ∀ row ∈ t.rows, row.dirty = true) : s.ChangesMarked t where
  row?_of_clean := by
    intro y row hrow hclean
    rw [hall row (List.mem_of_getElem? hrow)] at hclean
    exact absurd hclean Bool.noConfusion
  flagAgrees _ := by
    obtain ⟨row, hrow⟩ := List.exists_mem_of_ne_nil t.rows hne
    rw [FlagAgrees, hdirty]
    exact (List.any_eq_true.2 ⟨row, hrow, hall row hrow⟩).symm

/-! ### Writing -/

theorem changesMarked_put (h : s.WellFormed) (x y : Nat) (c : Char) :
    s.ChangesMarked (s.put x y c) := by
  refine changesMarked_updateRow ?_ fun _ => rfl
  rw [h.length_rows]
  exact h.clampLine_lt y

/-- Scrolling moves every row, and marks every row. -/
theorem changesMarked_scrollUp (s : Screen) : s.ChangesMarked s.scrollUp := by
  refine changesMarked_of_all_dirty rfl ?_ ?_
  · simp [scrollUp]
  · intro row hrow
    obtain ⟨_, -, rfl⟩ := List.mem_map.1 hrow
    rfl

theorem changesMarked_carriageReturn (s : Screen) : s.ChangesMarked s.carriageReturn :=
  changesMarked_of_rows_eq rfl rfl

theorem changesMarked_lineFeed (s : Screen) : s.ChangesMarked s.lineFeed := by
  simp only [lineFeed]
  split
  · exact s.changesMarked_callOff.trans (changesMarked_scrollUp _)
  · exact s.changesMarked_callOff.trans (changesMarked_of_rows_eq rfl rfl)

theorem changesMarked_wrap (s : Screen) : s.ChangesMarked s.wrap := by
  rw [wrap]
  split
  · exact s.changesMarked_carriageReturn.trans (changesMarked_lineFeed _)
  · exact .refl s

theorem changesMarked_advance (s : Screen) : s.ChangesMarked s.advance := by
  rw [advance]
  split
  · exact changesMarked_of_rows_eq rfl rfl
  · exact changesMarked_of_rows_eq rfl rfl

theorem changesMarked_write (h : s.WellFormed) (c : Char) : s.ChangesMarked (s.write c) := by
  rw [write]
  split
  · exact .refl s
  · have hput := changesMarked_put h.wrap s.wrap.column s.wrap.line c
    exact s.changesMarked_wrap.trans (hput.trans (changesMarked_advance _))

/-- Blanks written at several columns of a row. -/
theorem changesMarked_putAll (h : s.WellFormed) (xs : List Nat) (c : Char) :
    s.ChangesMarked (xs.foldl (fun s x => s.put x s.line c) s) := by
  induction xs generalizing s with
  | nil => exact .refl s
  | cons x xs ih => exact (changesMarked_put h x s.line c).trans (ih (h.put x s.line c))

theorem changesMarked_fillTo (h : s.WellFormed) (stop : Nat) :
    s.ChangesMarked (s.fillTo stop) := by
  have hblanks := changesMarked_putAll h
    (List.range' s.column (s.clampColumn stop - s.column)) ' '
  exact hblanks.trans (changesMarked_of_rows_eq rfl rfl)

theorem changesMarked_tab (h : s.WellFormed) : s.ChangesMarked s.tab :=
  s.tab_cases (fun stop => s.changesMarked_callOff.trans (changesMarked_fillTo h.callOff stop))
    (changesMarked_of_rows_eq rfl rfl)

/-- Only a cell that is stored is changed, and its row is then marked. -/
theorem changesMarked_backspace (h : s.WellFormed) : s.ChangesMarked s.backspace := by
  simp only [backspace]
  split
  · exact changesMarked_of_rows_eq rfl rfl
  · let back : Screen := { s with column := s.column - 1, wrapPending := false }
    have hback : s.ChangesMarked back := changesMarked_of_rows_eq rfl rfl
    split
    · have hline : back.line < back.rows.length := h.length_rows.symm ▸ h.line_lt
      exact hback.trans (changesMarked_updateRow hline fun _ => rfl)
    · exact hback

/-! ### Erasing and changing the size -/

theorem changesMarked_eraseLine (h : s.WellFormed) (y : Nat) (extent : Extent) :
    s.ChangesMarked (s.eraseLine y extent) := by
  have hline : s.clampLine y < ({ s with wrapPending := false } : Screen).rows.length := by
    rw [h.callOff.length_rows]
    exact h.clampLine_lt y
  exact s.changesMarked_callOff.trans
    (changesMarked_updateRow hline fun row => row.dirty_erase s.column extent)

theorem changesMarked_eraseRows (h : s.WellFormed) (ys : List Nat) :
    s.ChangesMarked (s.eraseRows ys) := by
  induction ys generalizing s with
  | nil => exact .refl s
  | cons y ys ih => exact (changesMarked_eraseLine h y .all).trans (ih (h.eraseLine y .all))

theorem changesMarked_eraseDisplay (h : s.WellFormed) (extent : Extent) :
    s.ChangesMarked (s.eraseDisplay extent) := by
  cases extent with
  | toEnd =>
    have hline := changesMarked_eraseLine h s.line .toEnd
    exact hline.trans (changesMarked_eraseRows (h.eraseLine s.line .toEnd) _)
  | toStart =>
    have habove := changesMarked_eraseRows h (List.range s.line)
    exact habove.trans (changesMarked_eraseLine (h.eraseRows _) _ .toStart)
  | all => exact changesMarked_eraseRows h _

/-- Rows that stay, rows that are cut and rows that are new are all marked. -/
theorem changesMarked_resize (s : Screen) (width height : Nat) :
    s.ChangesMarked (s.resize width height) := by
  refine changesMarked_of_all_dirty rfl ?_ ?_
  · have h := wellFormed_resize s width height
    refine List.ne_nil_of_length_pos ?_
    rw [h.length_rows]
    exact h.height_pos
  · intro row hrow
    obtain ⟨_, -, rfl⟩ := List.mem_map.1 hrow
    rfl

/-! ### Control sequences -/

theorem changesMarked_moveCursor? {final : Char} {params : List Nat}
    (hs : s.moveCursor? final params = some t) : s.ChangesMarked t := by
  simp only [moveCursor?] at hs
  split at hs
  -- Every cursor sequence ends in a move, which leaves rows and flag alone.
  all_goals cases hs
  all_goals exact changesMarked_of_rows_eq rfl rfl

theorem changesMarked_erase? (h : s.WellFormed) {final : Char} {params : List Nat}
    (hs : s.erase? final params = some t) : s.ChangesMarked t := by
  simp only [erase?] at hs
  split at hs
  all_goals cases hs
  · exact changesMarked_eraseDisplay h _
  · exact changesMarked_eraseLine h _ _

theorem changesMarked_sequence? (h : s.WellFormed) {final : Char} {params : List Nat}
    (hs : s.sequence? final params = some t) : s.ChangesMarked t := by
  simp only [sequence?] at hs
  split at hs
  all_goals first
    | exact changesMarked_moveCursor? hs
    | exact changesMarked_erase? h hs
    | cases hs
  exact changesMarked_of_rows_eq rfl rfl

/-- Every instruction marks what it changes.  What it leaves alone it may mark as well: a viewer
then paints more than it has to. -/
theorem changesMarked_perform (h : s.WellFormed) (instruction : Instruction) :
    s.ChangesMarked (s.perform instruction) := by
  cases instruction with
  | write c => exact changesMarked_write h c
  | carriageReturn => exact s.changesMarked_carriageReturn
  | lineFeed => exact s.changesMarked_lineFeed
  | backspace => exact changesMarked_backspace h
  | tab => exact changesMarked_tab h
  | sequence final params =>
    rw [perform]
    cases hs : s.sequence? final params with
    | none => exact .refl s
    | some t => exact changesMarked_sequence? h hs

end Screen

/-! ### Text -/

namespace Terminal

variable {t : Terminal}

theorem changesMarked_step (h : t.WellFormed) (c : Char) :
    t.screen.ChangesMarked (t.step c).screen := by
  simp only [step]
  cases (t.decoder.step c).2 with
  | none => exact .refl _
  | some instruction => exact Screen.changesMarked_perform h.screen instruction

/-- A row that no character of a text marks is there all the while. -/
theorem changesMarked_feed (h : t.WellFormed) (cs : List Char) :
    t.screen.ChangesMarked (t.feed cs).screen := by
  induction cs generalizing t with
  | nil => exact .refl _
  | cons c cs ih => exact (changesMarked_step h c).trans (ih (h.step c))

end Terminal

end ConsoleReplay
