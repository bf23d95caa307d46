import ConsoleReplay.Proofs.Screen.Printout
import ConsoleReplay.Proofs.Screen.Stored
import ConsoleReplay.Proofs.Screen.Window

/-!
# Wrapping and scrolling

Lines of any length, written to a screen of any size, are cut into rows as wide as the screen,
and the screen shows the last of these rows.  A wrap is deferred until the next character, so a
line that fills its last row does not begin another one, and a line break there ends the line
and not an empty row.

The rows written so far are the lines of a page, the last of them the one in progress.  A
character goes to its end, or to a new row when it is full; and the screen shows the end of the
page all the time, whether it has scrolled or not.

## Main definitions

* `Text.wrapped width line` — the rows that a line takes up.
* `Page.addWrapped width p c` — a page after one more character, wrapped.
* `Page.addLine width p line` — and after a line break and one more line.
* `Wrapping.HasRows`, `Wrapping.ShowsEnd` — a screen shows the end of a page, and goes on where
  the page ends.

## Main results

* `Page.lines_addWrapped`, `Page.lines_addLine` — a page wraps its lines.
* `Wrapping.ShowsEnd.lineBreak`, `Wrapping.ShowsEnd.write` — a line break and a character.
* `Wrapping.ShowsEnd.exists_feed_lines` — lines with a break before each of them.
* `LiveSession.rows_feed_lines` — **wrapping and scrolling in closed form**.
-/

namespace ConsoleReplay

namespace Text

/-- The rows that a line takes up: as many full ones as there are, and what is left.  An empty
line takes up a row as well. -/
def wrapped (width : Nat) (line : List Char) : List (List Char) :=
  if width = 0 ∨ line.length ≤ width then [line]
  else line.take width :: wrapped width (line.drop width)
termination_by line.length
decreasing_by
  rw [List.length_drop]
  omega

variable {width : Nat}

theorem wrapped_of_length_le {line : List Char} (h : line.length ≤ width) :
    wrapped width line = [line] := by
  rw [wrapped, if_pos (.inr h)]

/-- A row that is full and what comes after it. -/
theorem wrapped_append {row line : List Char} (hwidth : width ≠ 0) (hrow : row.length = width)
    (hline : line ≠ []) : wrapped width (row ++ line) = row :: wrapped width line := by
  have hpos := List.length_pos_iff.2 hline
  have hlong : ¬ (width = 0 ∨ (row ++ line).length ≤ width) := by
    rw [List.length_append]
    omega
  rw [wrapped, if_neg hlong, List.take_left' hrow, List.drop_left' hrow]

/-- A line that fills its last row takes up nothing but full rows.  Rows in the middle of a line are
always full. -/
theorem length_of_mem_wrapped {line : List Char} (hne : line ≠ []) (hfull : width ∣ line.length)
    {row : List Char} (hrow : row ∈ wrapped width line) : row.length = width := by
  have hpos := List.length_pos_iff.2 hne
  have hle : width ≤ line.length := Nat.le_of_dvd hpos hfull
  have hzero : width ≠ 0 := by
    rintro rfl
    have hempty := Nat.eq_zero_of_zero_dvd hfull
    omega
  -- The induction follows the cuts; what is left after one is shorter by a row and still fills
  -- its rows.
  fun_induction wrapped width line with
  | case1 line hshort =>
    rw [List.mem_singleton.1 hrow]
    omega
  | case2 line hlong ih =>
    have hrest : (line.drop width).length = line.length - width := List.length_drop
    have hpos' : 0 < (line.drop width).length := by omega
    have hfull' : width ∣ (line.drop width).length := by
      rw [hrest]
      exact Nat.dvd_sub hfull (Nat.dvd_refl width)
    rcases List.mem_cons.1 hrow with rfl | hmem
    · rw [List.length_take]
      exact Nat.min_eq_left hle
    · exact ih (List.length_pos_iff.1 hpos') hfull' hmem hpos' (Nat.le_of_dvd hpos' hfull')

/-- Texts with separators between them: the first one, and a separator before every other. -/
theorem intercalate_cons_eq_append {α : Type _} (sep l : List α) (ls : List (List α)) :
    List.intercalate sep (l :: ls) = l ++ ls.flatMap (sep ++ ·) := by
  induction ls generalizing l with
  | nil => rw [List.intercalate_singleton, List.flatMap_nil, List.append_nil]
  | cons l' ls ih =>
    rw [List.intercalate_cons_cons, ih, List.flatMap_cons, List.append_assoc, List.append_assoc]

end Text

namespace Printout.Page

/-! ### A page that wraps its lines -/

/-- The page after one more character.  If the line in progress is full the character begins
another one. -/
def addWrapped (width : Nat) (p : Page) (c : Char) : Page :=
  if p.current.length < width then p.add (.glyph c) else (p.add .lineBreak).add (.glyph c)

/-- The page after a line break and one more line. -/
def addLine (width : Nat) (p : Page) (line : List Char) : Page :=
  line.foldl (addWrapped width) (p.add .lineBreak)

variable {width : Nat} {p : Page}

theorem length_current_addWrapped (hwidth : 1 ≤ width) (c : Char) :
    (p.addWrapped width c).current.length ≤ width := by
  rw [addWrapped]
  split
  · next hroom =>
    rw [add, List.length_append]
    exact hroom
  · exact hwidth

/-- Characters are wrapped together with the line in progress. -/
theorem lines_addWrapped (hwidth : 1 ≤ width) (hlen : p.current.length ≤ width)
    (line : List Char) :
    (line.foldl (addWrapped width) p).lines = p.done ++ Text.wrapped width (p.current ++ line) := by
  induction line generalizing p with
  | nil => rw [List.foldl_nil, List.append_nil, Text.wrapped_of_length_le hlen, lines]
  | cons c line ih =>
    rw [List.foldl_cons, ih (length_current_addWrapped hwidth c), addWrapped]
    by_cases hroom : p.current.length < width
    · rw [if_pos hroom]
      show p.done ++ Text.wrapped width (p.current ++ [c] ++ line) = _
      rw [List.append_assoc, List.singleton_append]
    · -- The line in progress is full, and the character begins another one.
      have hfull : p.current.length = width := by omega
      rw [if_neg hroom, Text.wrapped_append (by omega) hfull (List.cons_ne_nil c line)]
      show p.done ++ [p.current] ++ Text.wrapped width ([] ++ [c] ++ line) = _
      rw [List.append_assoc, List.singleton_append, List.nil_append, List.singleton_append]

/-- A line after a line break takes up the rows that it is wrapped in. -/
theorem lines_addLine (hwidth : 1 ≤ width) (p : Page) (line : List Char) :
    (p.addLine width line).lines = p.lines ++ Text.wrapped width line :=
  lines_addWrapped hwidth (Nat.zero_le _) line

theorem lines_foldl_addLine (hwidth : 1 ≤ width) (p : Page) (lines : List (List Char)) :
    (lines.foldl (addLine width) p).lines = p.lines ++ lines.flatMap (Text.wrapped width) := by
  induction lines generalizing p with
  | nil => rw [List.foldl_nil, List.flatMap_nil, List.append_nil]
  | cons line lines ih =>
    rw [List.foldl_cons, ih, lines_addLine hwidth, List.flatMap_cons, List.append_assoc]

end Printout.Page

namespace Wrapping

open Printout Screen

/-! ### The screen

The screen shows the last rows of the page, as many as it has.  A line that is full still has the
cursor on its last character, with the wrap to come. -/

/-- The cells of a row of plain characters. -/
def plainCells (cs : List Char) : List Cell := cs.map fun c => ⟨c, .plain⟩

/-- A screen has the rows of the end of a page: its last rows are the last lines, and below a
page that is shorter than the screen nothing is stored.  The cursor is in the row of the line in
progress. -/
structure HasRows (width height : Nat) (s : Screen) (p : Page) : Prop where
  wellFormed : s.WellFormed
  width_eq : s.width = width
  height_eq : s.height = height
  pen_eq : s.pen = .plain
  storedCells_eq : ∀ y,
    s.storedCells y = plainCells (p.lines[y + (p.lines.length - height)]?.getD [])
  line_eq : s.line = min p.lines.length height - 1

/-- A screen shows the end of a page and goes on where the page ends: the next character goes
to the end of the line in progress, and if that is full a wrap is deferred. -/
structure ShowsEnd (width height : Nat) (s : Screen) (p : Page) : Prop
    extends HasRows width height s p where
  length_current_le : p.current.length ≤ width
  column_of_lt : p.current.length < width →
    s.column = p.current.length ∧ s.wrapPending = false
  column_of_eq : p.current.length = width → s.column = width - 1 ∧ s.wrapPending = true

variable {width height : Nat} {s : Screen} {p : Page}

/-- A blank screen shows an empty page. -/
theorem showsEnd_blank (hwidth : 1 ≤ width) (hheight : 1 ≤ height) :
    ShowsEnd width height (.blank width height) .empty where
  wellFormed := wellFormed_blank width height
  width_eq := Nat.max_eq_left hwidth
  height_eq := Nat.max_eq_left hheight
  pen_eq := rfl
  storedCells_eq := by
    intro y
    -- Past its one line, which is empty, the page has no lines at all.
    have hline : Page.empty.lines[y + (Page.empty.lines.length - height)]?.getD [] = [] := by
      rw [Page.getD_lines]
      split <;> rfl
    rw [storedCells_blank, hline]
    rfl
  line_eq := by
    rw [Page.length_lines]
    show 0 = min (0 + 1) height - 1
    omega
  length_current_le := Nat.zero_le _
  column_of_lt := fun _ => ⟨rfl, rfl⟩
  column_of_eq := by
    intro heq
    have hzero : Page.empty.current.length = 0 := rfl
    omega

namespace HasRows

theorem setColumn (h : HasRows width height s p) {x : Nat} {wrap : Bool} (hx : x < s.width)
    (hwrap : wrap = true → x = s.width - 1) :
    HasRows width height { s with column := x, wrapPending := wrap } p :=
  { h with wellFormed := h.wellFormed.moveCursor hx h.wellFormed.line_lt hwrap }

/-- A line break begins a line below, and the screen scrolls if the last row was in progress.  What
scrolls away at the top is the row that has to go for the new one. -/
theorem lineBreak (h : HasRows width height s p) :
    HasRows width height s.carriageReturn.lineFeed (p.add .lineBreak) := by
  have hheight := h.height_eq ▸ h.wellFormed.height_pos
  have hwell := h.wellFormed.carriageReturn.lineFeed
  have hline := h.line_eq
  have hlen := p.length_lines
  have hlen' : (p.add .lineBreak).lines.length = p.lines.length + 1 := Page.length_lines _
  by_cases hlast : s.height ≤ s.line + 1
  · have hscroll : s.carriageReturn.lineFeed = s.carriageReturn.scrollUp := if_pos hlast
    -- The page has filled the screen, so a row more moves the part that is shown down by one.
    have hover : height ≤ p.lines.length := by
      rw [h.height_eq] at hlast
      omega
    rw [hscroll] at hwell ⊢
    refine ⟨hwell, h.width_eq, h.height_eq, h.pen_eq, fun y => ?_, ?_⟩
    · have hplace : y + (p.lines.length + 1 - height) = y + 1 + (p.lines.length - height) := by
        omega
      rw [storedCells_scrollUp, Page.getD_lines_add_lineBreak, hlen', hplace]
      exact h.storedCells_eq (y + 1)
    · show s.line = _
      rw [hlen', hline]
      omega
  · have hbelow : s.carriageReturn.lineFeed = { s.carriageReturn with line := s.line + 1 } :=
      if_neg hlast
    -- The page is shown from its start, as before.
    have hroom : p.lines.length < height := by
      rw [h.height_eq] at hlast
      omega
    rw [hbelow] at hwell ⊢
    refine ⟨hwell, h.width_eq, h.height_eq, h.pen_eq, fun y => ?_, ?_⟩
    · have hplace : y + (p.lines.length + 1 - height) = y + (p.lines.length - height) := by
        omega
      rw [Page.getD_lines_add_lineBreak, hlen', hplace]
      exact h.storedCells_eq y
    · show s.line + 1 = _
      rw [hlen', hline]
      omega

/-- A character at the end of the line in progress. -/
theorem put (h : HasRows width height s p) (hcolumn : s.column = p.current.length)
    (hroom : p.current.length < width) (c : Char) :
    HasRows width height (s.put s.column s.line c) (p.add (.glyph c)) := by
  have hheight := h.height_eq ▸ h.wellFormed.height_pos
  have hline := h.line_eq
  have hlen := p.length_lines
  have hlen' : (p.add (.glyph c)).lines.length = p.lines.length := by
    rw [Page.length_lines, Page.length_lines]
    rfl
  have hlines (i : Nat) : (p.add (.glyph c)).lines[i]?.getD []
      = if i = p.done.length then p.current ++ [c] else p.done[i]?.getD [] :=
    Page.getD_lines _ i
  -- The row in progress is the last line of the page.
  have hindex : s.line + (p.lines.length - height) = p.done.length := by omega
  refine ⟨h.wellFormed.put s.column s.line c, h.width_eq, h.height_eq, h.pen_eq, fun y => ?_, ?_⟩
  · have hstored := h.storedCells_eq y
    rw [Screen.put, clampLine_line h.wellFormed, storedCells_updateRow, hlen', hlines]
    by_cases hy : y = s.line
    · subst hy
      obtain ⟨row, hrow⟩ := exists_row h.wellFormed h.wellFormed.line_lt
      have hrow' : s.row? s.line = some row := hrow
      have hcells : row.cells = plainCells p.current := by
        rw [storedCells_of_row? hrow', hindex, Page.getD_lines, if_pos rfl] at hstored
        exact hstored
      have hend : s.clampColumn s.column = row.cells.length := by
        rw [clampColumn, h.width_eq, hcolumn, hcells, plainCells, List.length_map]
        omega
      rw [if_pos rfl, hrow', Option.map_some, Option.getD_some, if_pos hindex, hend, h.pen_eq,
        Row.put, Row.putCell_length, hcells]
      show plainCells p.current ++ plainCells [c] = plainCells (p.current ++ [c])
      exact List.map_append.symm
    · have hother : y + (p.lines.length - height) ≠ p.done.length := by omega
      rw [if_neg hy, hstored, Page.getD_lines, if_neg hother, if_neg hother]
  · rw [hlen']
    exact hline

end HasRows

namespace ShowsEnd

/-- After a line break the line in progress is empty. -/
theorem lineBreak (h : ShowsEnd width height s p) :
    ShowsEnd width height s.carriageReturn.lineFeed (p.add .lineBreak) := by
  have hwidth := h.width_eq ▸ h.wellFormed.width_pos
  have hcursor : s.carriageReturn.lineFeed.column = 0
      ∧ s.carriageReturn.lineFeed.wrapPending = false := by
    rw [lineFeed]
    dsimp only
    split <;> exact ⟨rfl, rfl⟩
  refine ⟨h.toHasRows.lineBreak, Nat.zero_le _, fun _ => hcursor, fun hfull => ?_⟩
  have hempty : (p.add .lineBreak).current.length = 0 := rfl
  omega

/-- A character goes to the end of the line in progress, as long as that is not full. -/
theorem glyph (h : ShowsEnd width height s p) (hroom : p.current.length < width) (c : Char) :
    ShowsEnd width height (s.put s.column s.line c).advance (p.add (.glyph c)) := by
  obtain ⟨hcolumn, hwrap⟩ := h.column_of_lt hroom
  have hrows := h.toHasRows.put hcolumn hroom c
  have hput : (s.put s.column s.line c).width = width
      ∧ (s.put s.column s.line c).column = p.current.length := ⟨h.width_eq, hcolumn⟩
  have hlen : (p.add (.glyph c)).current.length = p.current.length + 1 := List.length_append
  -- The cursor stops in the last column, where the wrap is deferred.
  rw [advance]
  by_cases hlast : p.current.length + 1 = width
  · rw [if_pos (by omega)]
    refine ⟨hrows.setColumn (by omega) fun _ => by omega, by omega, ?_, fun _ => ⟨?_, rfl⟩⟩
    · intro hmore
      omega
    · show s.column = width - 1
      omega
  · rw [if_neg (by omega)]
    refine ⟨hrows.setColumn (by omega) ?_, by omega, fun _ => ⟨?_, hwrap⟩, ?_⟩
    · intro hpending
      exact absurd (hpending.symm.trans hwrap) Bool.noConfusion
    · show s.column + 1 = _
      omega
    · intro hfull
      omega

/-- A character that takes a cell, after the deferred wrap if the line in progress is full.  The
wrap is deferred until here, so the screen scrolls only now. -/
theorem write (h : ShowsEnd width height s p) {c : Char} (hc : Text.isZeroWidth c = false) :
    ShowsEnd width height (s.write c) (p.addWrapped width c) := by
  have hwrite : s.write c = (s.wrap.put s.wrap.column s.wrap.line c).advance := by
    rw [Screen.write, hc, if_neg Bool.false_ne_true]
  rw [hwrite, Page.addWrapped]
  by_cases hroom : p.current.length < width
  · have hstay : s.wrap = s := by
      rw [Screen.wrap, (h.column_of_lt hroom).2, if_neg Bool.false_ne_true]
    rw [if_pos hroom, hstay]
    exact h.glyph hroom c
  · have hfull : p.current.length = width := by
      have hle := h.length_current_le
      omega
    -- A wrap that was deferred is a line break now.
    have hnext : s.wrap = s.carriageReturn.lineFeed := by
      rw [Screen.wrap, (h.column_of_eq hfull).2, if_pos rfl]
    rw [if_neg hroom, hnext]
    exact h.lineBreak.glyph (h.width_eq ▸ h.wellFormed.width_pos) c

/-- A line, character by character. -/
theorem exists_feed (h : ShowsEnd width height s p) {line : List Char}
    (hline : ∀ c ∈ line, IsGlyph c) :
    ∃ s', Terminal.feed ⟨s, .ground⟩ line = ⟨s', .ground⟩
      ∧ ShowsEnd width height s' (line.foldl (Page.addWrapped width) p) := by
  induction line generalizing s p with
  | nil => exact ⟨s, rfl, h⟩
  | cons c line ih =>
    obtain ⟨hc, hline⟩ := List.forall_mem_cons.1 hline
    obtain ⟨s', hfeed, hend⟩ := ih (h.write hc.takes_cell) hline
    refine ⟨s', ?_, hend⟩
    rw [← List.singleton_append, Terminal.feed_append,
      Terminal.feed_glyph s hc.not_low hc.not_high, hfeed]

/-- Lines with a line break before each of them. -/
theorem exists_feed_lines (h : ShowsEnd width height s p) {lines : List (List Char)}
    (hlines : ∀ line ∈ lines, ∀ c ∈ line, IsGlyph c) :
    ∃ s', Terminal.feed ⟨s, .ground⟩ (lines.flatMap (['\r', '\n'] ++ ·)) = ⟨s', .ground⟩
      ∧ ShowsEnd width height s' (lines.foldl (Page.addLine width) p) := by
  induction lines generalizing s p with
  | nil => exact ⟨s, rfl, h⟩
  | cons line lines ih =>
    obtain ⟨hline, hlines⟩ := List.forall_mem_cons.1 hlines
    obtain ⟨mid, hfirst, hmid⟩ := h.lineBreak.exists_feed hline
    obtain ⟨last, hrest, hlast⟩ := ih hmid hlines
    have hbreak : Terminal.feed ⟨s, .ground⟩ ['\r', '\n'] = ⟨s.carriageReturn.lineFeed, .ground⟩ :=
      rfl
    refine ⟨last, ?_, hlast⟩
    rw [List.flatMap_cons, Terminal.feed_append, Terminal.feed_append, hbreak, hfirst, hrest]

end ShowsEnd

end Wrapping

namespace LiveSession

open Printout Screen Wrapping

/-- **Wrapping and scrolling in closed form.**  Let `rows` be the rows that lines of any lengths
are wrapped in.  After the lines, with line breaks between them, a new screen shows the last of
the rows that it has room for, from the top, and stores nothing below them.  The cursor is in
the last row that is shown: after its characters if it has room for more, and otherwise in the
last column with a wrap deferred.  A line that fills its last row leaves no empty one. -/
theorem rows_feed_lines {lines : List (List Char)} (hne : lines ≠ [])
    (hglyph : ∀ line ∈ lines, ∀ c ∈ line, IsGlyph c) {width height : Nat} (hwidth : 1 ≤ width)
    (hheight : 1 ≤ height) :
    let rows := lines.flatMap (Text.wrapped width)
    ∃ session last,
      (start width height).feed (List.intercalate ['\r', '\n'] lines) = .ok session
      ∧ (∀ y < height, ∃ row, session.screen.row? y = some row
        ∧ row.cells = plainCells (rows[y + (rows.length - height)]?.getD []))
      ∧ rows.getLast? = some last
      ∧ session.screen.line = min rows.length height - 1
      ∧ last.length ≤ width
      ∧ (last.length < width →
        session.screen.column = last.length ∧ session.screen.wrapPending = false)
      ∧ (last.length = width →
        session.screen.column = width - 1 ∧ session.screen.wrapPending = true)
      ∧ ∀ line ∈ lines, line ≠ [] → width ∣ line.length →
        ∀ row ∈ Text.wrapped width line, row.length = width := by
  intro rows
  obtain ⟨first, rest, rfl⟩ := List.exists_cons_of_ne_nil hne
  obtain ⟨hfirst, hrest⟩ := List.forall_mem_cons.1 hglyph
  obtain ⟨mid, hfeed, hmid⟩ := (showsEnd_blank hwidth hheight).exists_feed hfirst
  obtain ⟨s, hfeed', h⟩ := hmid.exists_feed_lines hrest
  -- The page is built as the screen wraps, and its lines turn out to be the wrapped rows.
  let p := rest.foldl (Page.addLine width) (first.foldl (Page.addWrapped width) .empty)
  have hlines : p.lines = rows := by
    rw [Page.lines_foldl_addLine hwidth, Page.lines_addWrapped hwidth (Nat.zero_le _)]
    show Text.wrapped width first ++ rest.flatMap (Text.wrapped width) = rows
    exact List.flatMap_cons.symm
  have hterminal : Terminal.feed ⟨.blank width height, .ground⟩
      (List.intercalate ['\r', '\n'] (first :: rest)) = ⟨s, .ground⟩ := by
    rw [Text.intercalate_cons_eq_append, Terminal.feed_append, hfeed, hfeed']
  refine ⟨⟨⟨s, .ground⟩, false⟩, p.current, ?_, fun y hy => ?_, ?_, ?_, h.length_current_le,
    h.column_of_lt, h.column_of_eq, fun line _ hne hfull row => ?_⟩
  · exact congrArg (fun terminal => Except.ok (LiveSession.mk terminal false)) hterminal
  · obtain ⟨row, hrow⟩ := exists_row h.wellFormed (Nat.lt_of_lt_of_eq hy h.height_eq.symm)
    have hcells := h.storedCells_eq y
    rw [storedCells_of_row? hrow] at hcells
    refine ⟨row, hrow, ?_⟩
    rw [← hlines]
    exact hcells
  · rw [← hlines]
    exact List.getLast?_concat
  · rw [← hlines]
    exact h.line_eq
  · exact Text.length_of_mem_wrapped hne hfull

/-- A line that is wrapped once and one that fills its row, on a screen with a row less than
they need. -/
theorem rows_feed_lines_scrolled :
    let lines := [['a', 'b', 'c'], ['d', 'e']]
    lines ≠ [] ∧ (∀ line ∈ lines, ∀ c ∈ line, IsGlyph c) ∧ 1 ≤ 2
      ∧ lines.flatMap (Text.wrapped 2) = [['a', 'b'], ['c'], ['d', 'e']]
      ∧ ∃ session, (start 2 2).feed "abc\r\nde".toList = .ok session
        ∧ session.screen.line = 1 ∧ session.screen.column = 1 ∧ session.screen.wrapPending = true
        ∧ (∃ row, session.screen.row? 0 = some row ∧ row.cells = plainCells ['c'])
        ∧ ∃ row, session.screen.row? 1 = some row ∧ row.cells = plainCells ['d', 'e'] := by
  intro lines
  have hne : lines ≠ [] := List.cons_ne_nil _ _
  have hglyph : ∀ line ∈ lines, ∀ c ∈ line, IsGlyph c := by
    have hletter {c : Char} (hc : 0x20 ≤ c.toNat ∧ c.toNat < 0x7f)
        (hwidth : Text.isZeroWidth c = false) : IsGlyph c :=
      ⟨hc.1, .inl hc.2, hwidth⟩
    simp only [lines, List.forall_mem_cons, List.not_mem_nil, false_implies, implies_true, and_true]
    exact ⟨⟨hletter (by decide) rfl, hletter (by decide) rfl, hletter (by decide) rfl⟩,
      hletter (by decide) rfl, hletter (by decide) rfl⟩
  have hsize : 1 ≤ 2 := by decide
  have hrows : lines.flatMap (Text.wrapped 2) = [['a', 'b'], ['c'], ['d', 'e']] := by
    simp [lines, Text.wrapped]
  obtain ⟨session, last, hfeed, hshown, hlast, hline, -, -, hfull, -⟩ :=
    rows_feed_lines hne hglyph hsize hsize
  rw [hrows] at hshown hlast hline
  obtain rfl := Option.some.inj hlast
  obtain ⟨hcolumn, hwrap⟩ := hfull rfl
  exact ⟨hne, hglyph, hsize, hrows, session, hfeed, hline, hcolumn, hwrap, hshown 0 (by decide),
    hshown 1 (by decide)⟩

end LiveSession

end ConsoleReplay
