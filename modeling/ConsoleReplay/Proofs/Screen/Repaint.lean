import ConsoleReplay.Proofs.Screen.Dirty
import ConsoleReplay.Screen.Session

/-!
# Repainting what changed

Somebody who watches a session need not be sent the whole screen each time.  The session
reports the rows that changed, and the viewer paints these over.  Whatever happens to the
session between two reports — output in any pieces, output after the end, changes of size
— after each report the viewer shows what a full repaint would show.

## Main definitions

* `Viewer` — what a viewer shows in each row; `Viewer.repaint` — after a report.
* `LiveSession.Call` — something that is done to a session.
* `Watched` — a session with its viewer; `Watched.apply`, `Watched.run` — after one call
  and after several.
* `Watched.UpToDate w` — the viewer shows every row that is not dirty.

## Main results

* `UpToDate.apply`, `UpToDate.run` — calls keep a viewer up to date.
* `run_repaint` — **an incremental repaint is a full repaint**, and the dirty flag says
  when there is one to make.
-/

namespace ConsoleReplay

/-! ### The viewer -/

/-- What a viewer shows in each row, if it shows anything there.  It sees nothing of a session but
the rows that are reported. -/
abbrev Viewer := Nat → Option String

namespace Viewer

/-- A viewer that has been sent nothing. -/
def empty : Viewer := fun _ => none

/-- One row painted over. -/
def overwrite (v : Viewer) (entry : Nat × String) : Viewer :=
  fun y => if y = entry.1 then some entry.2 else v y

/-- The reported rows painted over, and the rows below the screen given up.  The viewer is told the
height and nothing else of the screen. -/
def repaint (v : Viewer) (height : Nat) (reported : List (Nat × String)) : Viewer :=
  fun y => if y < height then reported.foldl overwrite v y else none

/-- A row shows a text once it was painted with it, if nothing else is painted there. -/
theorem foldl_overwrite_eq {v : Viewer} {reported : List (Nat × String)} {y : Nat}
    {text : String} (htext : ∀ entry ∈ reported, entry.1 = y → entry.2 = text)
    (hpainted : v y = some text ∨ ∃ entry ∈ reported, entry.1 = y) :
    reported.foldl overwrite v y = some text := by
  induction reported generalizing v with
  | nil =>
    rcases hpainted with hv | ⟨entry, hentry, -⟩
    · exact hv
    · exact absurd hentry List.not_mem_nil
  | cons entry reported ih =>
    obtain ⟨hhead, htail⟩ := List.forall_mem_cons.1 htext
    -- What was painted last counts, and all that is painted in this row is the text.
    refine ih htail ?_
    by_cases hy : entry.1 = y
    · left
      rw [overwrite, if_pos hy.symm, hhead hy]
    · rcases hpainted with hv | ⟨other, hother, rfl⟩
      · left
        rw [overwrite, if_neg (Ne.symm hy), hv]
      · right
        rcases List.mem_cons.1 hother with rfl | hmem
        · exact absurd rfl hy
        · exact ⟨other, hmem, rfl⟩

end Viewer

/-! ### A session and its viewer

The viewer is up to date about the rows that are not dirty.  A change marks the rows it changes,
and a report makes the viewer up to date about all. -/

/-- The reported rows are the dirty ones, with what they show. -/
theorem LiveSession.mem_takeDirty {session : LiveSession} {entry : Nat × String} :
    entry ∈ session.takeDirty.1 ↔
      ∃ row, session.screen.row? entry.1 = some row ∧ row.dirty = true ∧ row.text = entry.2 := by
  simp only [takeDirty, List.mem_filterMap, Screen.mem_dirtyRows,
    Option.map_eq_some_iff]
  constructor
  · rintro ⟨y, ⟨row, hrow, hdirty⟩, row', hrow', rfl⟩
    cases hrow.symm.trans hrow'
    exact ⟨row, hrow, hdirty, rfl⟩
  · rintro ⟨row, hrow, hdirty, htext⟩
    exact ⟨entry.1, ⟨row, hrow, hdirty⟩, row, hrow, by rw [htext]⟩

/-- Something that is done to a session. -/
inductive LiveSession.Call
  /-- A piece of output arrives. -/
  | feed (cs : List Char)
  | resize (width height : Nat)
  | finish
  /-- The rows that changed are reported to the viewer. -/
  | takeDirty
  deriving DecidableEq, Repr

/-- A session and somebody who watches it. -/
structure Watched where
  session : LiveSession
  viewer : Viewer

namespace Watched

/-- A new session, and a viewer that has been sent nothing. -/
def start (width height : Nat) : Watched := ⟨.start width height, .empty⟩

/-- What a call does.  Output that a session refuses leaves it as it is, and the viewer acts only
where the dirty rows are taken. -/
def apply (w : Watched) : LiveSession.Call → Watched
  | .feed cs => { w with session := (w.session.feed cs).toOption.getD w.session }
  | .resize width height => { w with session := w.session.resize width height }
  | .finish => { w with session := w.session.finish }
  | .takeDirty =>
    let (reported, session) := w.session.takeDirty
    ⟨session, w.viewer.repaint session.screen.height reported⟩

/-- What several calls do. -/
def run (w : Watched) (calls : List LiveSession.Call) : Watched := calls.foldl apply w

@[simp] theorem run_nil (w : Watched) : w.run [] = w := rfl

@[simp] theorem run_cons (w : Watched) (call : LiveSession.Call)
    (calls : List LiveSession.Call) : w.run (call :: calls) = (w.apply call).run calls := rfl

/-- The viewer shows every row that is not dirty, and the flags can be relied on.  This is what each
call keeps. -/
structure UpToDate (w : Watched) : Prop where
  terminal : w.session.terminal.WellFormed
  flagAgrees : w.session.screen.FlagAgrees
  viewer_of_clean {y : Nat} {row : Row} :
    w.session.screen.row? y = some row → row.dirty = false → w.viewer y = some row.text

theorem upToDate_start (width height : Nat) : (start width height).UpToDate where
  terminal := Terminal.wellFormed_start width height
  flagAgrees := Screen.flagAgrees_blank width height
  viewer_of_clean := by
    intro y row hrow hclean
    -- Every row of a new screen is dirty.
    rw [List.eq_of_mem_replicate (List.mem_of_getElem? hrow)] at hclean
    exact absurd hclean Bool.noConfusion

namespace UpToDate

variable {w : Watched}

/-- A change that marks whatever it changes leaves the viewer up to date. -/
theorem of_changesMarked (h : w.UpToDate) {session : LiveSession}
    (hterminal : session.terminal.WellFormed)
    (hmarked : w.session.screen.ChangesMarked session.screen) :
    { w with session := session }.UpToDate where
  terminal := hterminal
  flagAgrees := hmarked.flagAgrees h.flagAgrees
  viewer_of_clean hrow hclean := h.viewer_of_clean (hmarked.row?_of_clean hrow hclean) hclean

/-- After a report the viewer shows every row, dirty before or not, and nothing below.  The rows
that are not dirty are there already, and that is the invariant. -/
theorem viewer_takeDirty (h : w.UpToDate) (y : Nat) :
    (w.apply .takeDirty).viewer y = (w.session.screen.row? y).map Row.text := by
  have hlen := h.terminal.screen.length_rows
  change (if y < w.session.screen.height then _ else none) = _
  split
  · next hlt =>
    obtain ⟨row, hrow⟩ : ∃ row, w.session.screen.row? y = some row :=
      ⟨_, List.getElem?_eq_getElem (hlen.symm ▸ hlt)⟩
    rw [hrow, Option.map_some]
    refine Viewer.foldl_overwrite_eq ?_ ?_
    · rintro entry hentry rfl
      obtain ⟨row', hrow', -, htext⟩ := LiveSession.mem_takeDirty.1 hentry
      cases hrow.symm.trans hrow'
      exact htext.symm
    · -- A clean row was shown before, and a dirty one is in the report.
      cases hdirty : row.dirty with
      | false => exact .inl (h.viewer_of_clean hrow hdirty)
      | true =>
        have hmem : (y, row.text) ∈ w.session.takeDirty.1 :=
          LiveSession.mem_takeDirty.2 ⟨row, hrow, hdirty, rfl⟩
        exact .inr ⟨(y, row.text), hmem, rfl⟩
  · next hge =>
    have hnone : w.session.screen.row? y = none :=
      List.getElem?_eq_none (hlen ▸ Nat.le_of_not_lt hge)
    rw [hnone, Option.map_none]

/-- Reporting clears the flags and changes nothing that is shown. -/
theorem row?_takeDirty (w : Watched) (y : Nat) :
    (w.apply .takeDirty).session.screen.row? y = (w.session.screen.row? y).map Row.markClean :=
  List.getElem?_map

/-- A call keeps the viewer up to date. -/
theorem apply (h : w.UpToDate) (call : LiveSession.Call) : (w.apply call).UpToDate := by
  cases call with
  | feed cs =>
    rw [Watched.apply, LiveSession.feed]
    split
    · exact h
    · exact h.of_changesMarked (h.terminal.feed cs) (Terminal.changesMarked_feed h.terminal cs)
  | resize width height =>
    exact h.of_changesMarked ⟨Screen.wellFormed_resize _ width height⟩
      (Screen.changesMarked_resize _ width height)
  | finish =>
    exact h.of_changesMarked ⟨h.terminal.screen⟩ (.refl _)
  | takeDirty =>
    -- A report is the one call that paints; then no row is dirty any more.
    refine ⟨⟨h.terminal.screen.markClean⟩, Screen.flagAgrees_markClean _, ?_⟩
    intro y row hrow _
    rw [row?_takeDirty] at hrow
    obtain ⟨before, hbefore, rfl⟩ := Option.map_eq_some_iff.1 hrow
    rw [h.viewer_takeDirty, hbefore]
    rfl

/-- Calls keep the viewer up to date. -/
theorem run (h : w.UpToDate) (calls : List LiveSession.Call) : (w.run calls).UpToDate := by
  induction calls generalizing w with
  | nil => exact h
  | cons call calls ih => exact ih (h.apply call)

end UpToDate

/-- **An incremental repaint is a full repaint.**  Whatever calls a session of any size
has received, it has rows to report exactly when its dirty flag is set.  When it reports
them, a viewer who started with nothing and has only ever painted reported rows shows the
text of every row of the screen, and nothing below; then nothing is left to report. -/
theorem run_repaint (width height : Nat) (calls : List LiveSession.Call) :
    let before := (start width height).run calls
    let after := before.apply .takeDirty
    (before.session.screen.dirty = true ↔ before.session.screen.dirtyRows ≠ [])
      ∧ (∀ y, after.viewer y = (after.session.screen.row? y).map Row.text)
      ∧ after.session.screen.dirty = false ∧ after.session.screen.dirtyRows = [] := by
  intro before after
  have h : before.UpToDate := (upToDate_start width height).run calls
  refine ⟨h.flagAgrees.dirty_iff, fun y => ?_, rfl, Screen.dirtyRows_markClean _⟩
  rw [h.viewer_takeDirty, UpToDate.row?_takeDirty, Option.map_map]
  rfl

/-- The second report covers the row that scrolled up, although nothing was written to
it. -/
example :
    let w := (start 3 2).run
      [.feed "ab\r\ncd".toList, .takeDirty, .feed "\r\nef".toList, .takeDirty]
    w.viewer 0 = some "cd" ∧ w.viewer 1 = some "ef" ∧ w.viewer 2 = none := by decide

end Watched

end ConsoleReplay
