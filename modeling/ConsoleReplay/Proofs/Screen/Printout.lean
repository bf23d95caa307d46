import ConsoleReplay.Proofs.Capture.Silence
import ConsoleReplay.Proofs.Screen.Dense
import ConsoleReplay.Screen.Session

/-!
# Output that is printed line after line

Much of what a console puts out is never edited: characters to show, line breaks, and escape
sequences that neither move the cursor nor erase.  Two readers follow such an output.  One
takes the plain text of the whole, the other writes it to a screen as it comes.  On a screen
that is large enough they show the same.

Both are compared with the page that the output prints: its finished lines, and the line in
progress.  The editor of plain text holds the page in reverse, the screen holds it cell by
cell.

## Main definitions

* `Escape.IsStill e` — a sequence that neither moves the cursor nor erases.
* `Printout.Item` — a character, a line break or an escape sequence of an output.
* `Printout.Page`, `Page.add` — the lines printed so far, and one more item.
* `Printout.Shows s p` — a screen shows a page and is ready for the next item.

## Main results

* `Printout.plainChars_chars` — the plain text of an output is its page.
* `Printout.exists_shows_chars` — a large screen shows the page of an output.
* `LiveSession.rows_feed_eq_plainLines` — **on a large screen an output reads as its plain text**.
-/

namespace ConsoleReplay

open Escape Screen

/-- A sequence that neither moves the cursor nor erases.  Unlike one of which a screen knows
nothing it may choose a style, and a string may not hold characters that the scanner of captured
text shows. -/
inductive Escape.IsStill : Escape → Prop
  | control {body : List Char} {final : Char} (hbody : ∀ c ∈ body, isBody c = true)
      (hfinal : isFinal final = true) (hmove : final ∉ cursorFinals)
      (herase : final ∉ eraseFinals) :
      IsStill (.control body final)
  | designation {intermediates : List Char} {final : Char} (hne : intermediates ≠ [])
      (hmem : ∀ c ∈ intermediates, Decoder.isIntermediate c = true)
      (hfinal : isShortFinal final = true) :
      IsStill (.designation intermediates final)
  | short {final : Char} (hfinal : isShortFinal final = true) (hbracket : final ≠ '[')
      (hopener : final ∉ openers) :
      IsStill (.short final)
  | string {opener : Char} {payload : List Char} (hopener : opener ∈ openers)
      (hmem : ∀ c ∈ payload, Capture.isPrintable c = true)
      (hlen : payload.length ≤ maxStringLength) :
      IsStill (.string opener payload ['\x1b', '\\'])
  /-- Only an operating-system command may end with the bell. -/
  | command {payload : List Char} (hmem : ∀ c ∈ payload, Capture.isPrintable c = true)
      (hlen : payload.length ≤ maxStringLength) :
      IsStill (.string ']' payload ['\x07'])

namespace Printout

/-- A part of an output. -/
inductive Item
  | glyph (c : Char)
  /-- A carriage return and a line feed. -/
  | lineBreak
  | escape (e : Escape)

/-- The characters of an item. -/
def Item.chars : Item → List Char
  | .glyph c => [c]
  | .lineBreak => ['\r', '\n']
  | .escape e => e.chars

/-- The characters of an output. -/
def chars (items : List Item) : List Char := items.flatMap Item.chars

/-- The text of an output. -/
def text (items : List Item) : String := .ofList (chars items)

/-- An item of an output that is never edited: a character is no control, and it takes a
cell. -/
inductive Item.IsPlain : Item → Prop
  | glyph {c : Char} (hlow : 0x20 ≤ c.toNat) (hhigh : c.toNat < 0x7f ∨ 0x9f < c.toNat)
      (hwidth : Text.isZeroWidth c = false) :
      IsPlain (.glyph c)
  | lineBreak : IsPlain .lineBreak
  | escape {e : Escape} (he : e.IsStill) : IsPlain (.escape e)

/-! ### The page -/

/-- The lines that an output has printed, as long as they like and as many as there are.  A screen
shows a page if there is room for it. -/
structure Page where
  /-- The lines before the last line break. -/
  done : List (List Char)
  /-- The line in progress. -/
  current : List Char

namespace Page

/-- A page on which nothing is printed. -/
def empty : Page := ⟨[], []⟩

/-- The lines, the one in progress among them. -/
def lines (p : Page) : List (List Char) := p.done ++ [p.current]

/-- The page after one more item. -/
def add (p : Page) : Item → Page
  | .glyph c => { p with current := p.current ++ [c] }
  | .lineBreak => ⟨p.lines, []⟩
  | .escape _ => p

/-- The page that an output prints. -/
def ofItems (items : List Item) : Page := items.foldl add empty

/-- The character at a place, with blanks after the end of every line. -/
def charAt (p : Page) (x y : Nat) : Char := (p.lines[y]?.getD [])[x]?.getD ' '

/-- The page has room on a screen, so nothing of it is wrapped and nothing scrolls away. -/
def Fits (p : Page) (width height : Nat) : Prop :=
  (∀ l ∈ p.lines, l.length ≤ width) ∧ p.lines.length ≤ height

theorem length_lines (p : Page) : p.lines.length = p.done.length + 1 := by
  rw [lines, List.length_append, List.length_singleton]

/-- The line in progress comes after the finished ones, and there is nothing after it. -/
theorem getD_lines (p : Page) (y : Nat) :
    p.lines[y]?.getD [] = if y = p.done.length then p.current else p.done[y]?.getD [] := by
  rw [lines]
  rcases Nat.lt_trichotomy y p.done.length with hlt | rfl | hgt
  · rw [List.getElem?_append_left hlt, if_neg (by omega)]
  · rw [List.getElem?_concat_length, Option.getD_some, if_pos rfl]
  · have hpast : (p.done ++ [p.current]).length ≤ y := by
      rw [List.length_append, List.length_singleton]
      exact hgt
    rw [List.getElem?_eq_none hpast, List.getElem?_eq_none (by omega), if_neg (by omega)]

/-- Only the line in progress changes, and of it only the place after its end. -/
theorem charAt_add_glyph (p : Page) (c : Char) (x y : Nat) :
    (p.add (.glyph c)).charAt x y
      = if x = p.current.length ∧ y = p.done.length then c else p.charAt x y := by
  rw [charAt, getD_lines, charAt, getD_lines]
  show (if y = p.done.length then p.current ++ [c] else p.done[y]?.getD [])[x]?.getD ' ' = _
  by_cases hy : y = p.done.length
  · rw [if_pos hy, if_pos hy]
    -- Before the end of the line stands what stood there, at it the new character, and past it
    -- nothing.
    by_cases hend : x = p.current.length
    · rw [if_pos ⟨hend, hy⟩, hend, List.getElem?_concat_length, Option.getD_some]
    · rw [if_neg fun hplace => hend hplace.1]
      by_cases hx : x < p.current.length
      · rw [List.getElem?_append_left hx]
      · have hpast : (p.current ++ [c]).length ≤ x := by
          rw [List.length_append, List.length_singleton]
          omega
        rw [List.getElem?_eq_none hpast, List.getElem?_eq_none (Nat.le_of_not_lt hx)]
  · rw [if_neg hy, if_neg hy, if_neg fun hplace => hy hplace.2]

/-- A new line has nothing in it, as what lies below the last line has not. -/
theorem getD_lines_add_lineBreak (p : Page) (y : Nat) :
    (p.add .lineBreak).lines[y]?.getD [] = p.lines[y]?.getD [] := by
  rw [getD_lines]
  show (if y = p.lines.length then [] else p.lines[y]?.getD []) = _
  split
  · next hy => rw [hy, List.getElem?_eq_none (Nat.le_refl _), Option.getD_none]
  · rfl

theorem charAt_add_lineBreak (p : Page) (x y : Nat) :
    (p.add .lineBreak).charAt x y = p.charAt x y := by
  rw [charAt, getD_lines_add_lineBreak, charAt]

/-- The line in progress has room for the character that is added to it. -/
theorem Fits.length_current_lt {p : Page} {c : Char} {width height : Nat}
    (h : (p.add (.glyph c)).Fits width height) : p.current.length < width := by
  have hcurrent := h.1 (p.current ++ [c]) (List.mem_append_right _ List.mem_cons_self)
  rw [List.length_append, List.length_singleton] at hcurrent
  exact hcurrent

/-- What has room after one more item had room before. -/
theorem Fits.of_add {p : Page} {item : Item} {width height : Nat}
    (h : (p.add item).Fits width height) : p.Fits width height := by
  have hwidth := h.1
  have hheight := h.2
  cases item with
  | glyph c =>
    -- The line in progress is one longer than before.
    have hdone := (List.forall_mem_append.1 hwidth).1
    refine ⟨List.forall_mem_append.2 ⟨hdone, List.forall_mem_singleton.2 ?_⟩, ?_⟩
    · exact Nat.le_of_lt (length_current_lt h)
    · rw [length_lines] at hheight ⊢
      exact hheight
  | lineBreak =>
    refine ⟨(List.forall_mem_append.1 hwidth).1, ?_⟩
    rw [length_lines] at hheight
    exact Nat.le_of_succ_le hheight
  | escape e => exact ⟨hwidth, hheight⟩

theorem Fits.of_foldl_add {items : List Item} {p : Page} {width height : Nat}
    (h : (items.foldl add p).Fits width height) : p.Fits width height := by
  induction items generalizing p with
  | nil => exact h
  | cons item items ih => exact (ih h).of_add

end Page

/-! ### Plain text -/

open Capture

/-- The lines of the plain text of a text.  After a line feed at its end there is one more
line, with nothing in it. -/
def plainLines (text : String) : List (List Char) := (plainText text).toList.splitOn '\n'

/-- The editor that holds a page. -/
def Page.editor (p : Page) : LineEditor :=
  ⟨(p.done.flatMap fun l => l ++ ['\n']).reverse, p.current.reverse, []⟩

/-- The text of an editor that holds a page. -/
theorem Page.chars_editor (p : Page) : p.editor.chars = List.intercalate ['\n'] p.lines := by
  have hlines : p.editor.chars = (p.done.flatMap fun l => l ++ ['\n']) ++ p.current := by
    rw [LineEditor.chars, LineEditor.reversed, editor, List.reverse_nil, List.nil_append,
      List.reverse_append, List.reverse_reverse, List.reverse_reverse]
  -- Every finished line carries its line feed, and the line in progress has none.
  rw [hlines, lines]
  induction p.done with
  | nil => simp
  | cons l done ih =>
    have hne : done ++ [p.current] ≠ [] :=
      List.append_ne_nil_of_right_ne_nil _ (List.cons_ne_nil _ _)
    rw [List.flatMap_cons, List.append_assoc, ih, List.cons_append,
      List.intercalate_cons_of_ne_nil hne]

/-- A sequence that neither moves nor erases is not seen in plain text. -/
theorem silent_of_isStill {e : Escape} (h : e.IsStill) :
    Scanner.Silent .ground e.chars .ground := by
  cases h with
  | control hbody hfinal hmove herase => exact Scanner.silent_control hbody hfinal
  | designation hne hmem hfinal => exact Scanner.silent_designation hne hmem hfinal
  | short hfinal hbracket hopener => exact Scanner.silent_short hfinal hbracket hopener
  | string hopener hmem hlen => exact Scanner.silent_string hopener hmem
  | command hmem hlen => exact Scanner.silent_command hmem

/-- One item does to the editor what it does to the page. -/
theorem run_item {item : Item} (h : item.IsPlain) (p : Page) :
    (Scanner.run .ground item.chars).1 = .ground
      ∧ (Scanner.run .ground item.chars).2.reverse.foldl LineEditor.apply p.editor
        = (p.add item).editor := by
  cases h with
  | @glyph c hlow hhigh hwidth =>
    have heditor : (p.add (.glyph c)).editor = p.editor.write c := by
      rw [Page.add, Page.editor, List.reverse_append]
      rfl
    rw [Item.chars, Scanner.run_glyph hlow hhigh, heditor]
    exact ⟨rfl, rfl⟩
  | lineBreak =>
    -- The carriage return goes to the start of a line that the line feed has begun.
    have hrun : Scanner.run .ground ['\r', '\n'] = (.ground, [.control '\n', .control '\r']) := rfl
    rw [Item.chars, hrun]
    refine ⟨rfl, ?_⟩
    simp [Page.editor, Page.add, Page.lines, LineEditor.apply, LineEditor.control,
      LineEditor.carriageReturn, LineEditor.lineFeed, LineEditor.reversed]
  | escape he =>
    have hsilent := silent_of_isStill he
    exact ⟨hsilent.1, LineEditor.foldl_apply_of_silent _ hsilent⟩

/-- An output does to the editor what it does to the page. -/
theorem run_chars {items : List Item} (h : ∀ item ∈ items, item.IsPlain) (p : Page) :
    (Scanner.run .ground (chars items)).2.reverse.foldl LineEditor.apply p.editor
      = (items.foldl Page.add p).editor := by
  induction items generalizing p with
  | nil => rfl
  | cons item items ih =>
    obtain ⟨hitem, hitems⟩ := List.forall_mem_cons.1 h
    obtain ⟨hground, happly⟩ := run_item hitem p
    have hsplit : chars (item :: items) = item.chars ++ chars items := List.flatMap_cons
    rw [hsplit, Scanner.run_append, hground, List.reverse_append, List.foldl_append, happly,
      ih hitems]
    rfl

/-- The plain text of an output is made up of the lines that it prints. -/
theorem plainChars_chars {items : List Item} (h : ∀ item ∈ items, item.IsPlain) :
    plainChars (chars items) = List.intercalate ['\n'] (Page.ofItems items).lines := by
  have hrun := run_chars h .empty
  rw [plainChars, tokens, ← Page.chars_editor]
  exact congrArg LineEditor.chars hrun

/-- No item puts a line feed into a line. -/
theorem lineFeed_notMem_add {item : Item} (h : item.IsPlain) {p : Page}
    (hp : ∀ l ∈ p.lines, '\n' ∉ l) : ∀ l ∈ (p.add item).lines, '\n' ∉ l := by
  cases h with
  | @glyph c hlow hhigh hwidth =>
    obtain ⟨hdone, hcurrent⟩ := List.forall_mem_append.1 hp
    rw [List.forall_mem_singleton] at hcurrent
    refine List.forall_mem_append.2 ⟨hdone, List.forall_mem_singleton.2 ?_⟩
    intro hmem
    rcases List.mem_append.1 hmem with hmem | hmem
    · exact hcurrent hmem
    · rw [← List.mem_singleton.1 hmem] at hlow
      exact absurd hlow (by decide)
  | lineBreak => exact List.forall_mem_append.2 ⟨hp, List.forall_mem_singleton.2 List.not_mem_nil⟩
  | escape he => exact hp

theorem lineFeed_notMem_foldl_add {items : List Item} (h : ∀ item ∈ items, item.IsPlain) {p : Page}
    (hp : ∀ l ∈ p.lines, '\n' ∉ l) : ∀ l ∈ (items.foldl Page.add p).lines, '\n' ∉ l := by
  induction items generalizing p with
  | nil => exact hp
  | cons item items ih =>
    obtain ⟨hitem, hitems⟩ := List.forall_mem_cons.1 h
    exact ih hitems (lineFeed_notMem_add hitem hp)

/-- The lines of the plain text are the lines that are printed. -/
theorem plainLines_text {items : List Item} (h : ∀ item ∈ items, item.IsPlain) :
    plainLines (text items) = (Page.ofItems items).lines := by
  have hempty : ∀ l ∈ Page.empty.lines, '\n' ∉ l := List.forall_mem_singleton.2 List.not_mem_nil
  have hne : (Page.ofItems items).lines ≠ [] :=
    List.append_ne_nil_of_right_ne_nil _ (List.cons_ne_nil _ _)
  rw [plainLines, plainText, text, String.toList_ofList, String.toList_ofList, plainChars_chars h]
  exact List.splitOn_intercalate '\n' (lineFeed_notMem_foldl_add h hempty) hne

/-! ### The screen

A page that has room is shown from the first row on.  While it is printed the cursor stands behind
the last character, so that each character goes to a place that is still blank. -/

/-- A screen of a size shows a page, and the next character goes to the end of the line in
progress as long as there is room for it. -/
structure Shows (width height : Nat) (s : Screen) (p : Page) : Prop where
  wellFormed : s.WellFormed
  width_eq : s.width = width
  height_eq : s.height = height
  charAt : ∀ x y, y < height → s.charAt x y = p.charAt x y
  line : s.line = p.done.length
  column : p.current.length < width → s.column = p.current.length ∧ s.wrapPending = false

variable {width height : Nat} {s : Screen} {p : Page}

/-- A sequence that neither moves nor erases changes at most the pen.  So it moves no character and
no cursor, and what is shown stays. -/
theorem exists_pen_of_isStill (s : Screen) {e : Escape} (h : e.IsStill) :
    ∃ pen, Terminal.feed ⟨s, .ground⟩ e.chars = ⟨{ s with pen := pen }, .ground⟩ := by
  have hground : (Terminal.mk s .ground).decoder ≠ .controlStringEscape := Decoder.noConfusion
  have hpayload {c : Char} (hc : Capture.isPrintable c = true) : c ∉ stringBreaks := by
    simp only [stringBreaks, List.mem_cons, List.not_mem_nil, or_false]
    rintro (rfl | rfl | rfl | rfl | rfl | rfl) <;> exact absurd hc Bool.false_ne_true
  cases h with
  | @control body final hbody hfinal hmove herase =>
    rw [Terminal.feed_control hground hbody hfinal, Csi.complete]
    split
    · exact ⟨s.pen, rfl⟩
    · -- Of the sequences that a screen knows only the choice of a style is left.
      by_cases hpen : final = 'm'
      · subst hpen
        exact ⟨s.pen.applySgr _, rfl⟩
      · have hunknown : final ∉ knownFinals := by
          rw [knownFinals, List.mem_cons, List.mem_append, not_or, not_or]
          exact ⟨hpen, hmove, herase⟩
        rw [Option.elim_some, perform, s.sequence?_of_notMem hunknown]
        exact ⟨s.pen, rfl⟩
  | designation hne hmem hfinal =>
    exact ⟨s.pen, Terminal.feed_designation hground hne hmem hfinal⟩
  | short hfinal hbracket hopener =>
    exact ⟨s.pen, Terminal.feed_short hground hfinal hbracket hopener⟩
  | string hopener hmem hlen =>
    have hbreaks := fun c hc => hpayload (hmem c hc)
    exact ⟨s.pen, Terminal.feed_string hground hopener hbreaks hlen (by decide)⟩
  | command hmem hlen =>
    have hbreaks := fun c hc => hpayload (hmem c hc)
    exact ⟨s.pen, Terminal.feed_string hground (by decide) hbreaks hlen (by decide)⟩

/-- Past a character only the column of the cursor changes, or a wrap is deferred. -/
theorem frame_advance (s : Screen) : s.advance.width = s.width ∧ s.advance.height = s.height
    ∧ s.advance.line = s.line ∧ ∀ x y, s.advance.charAt x y = s.charAt x y := by
  rw [advance]
  split
  · exact ⟨rfl, rfl, rfl, fun _ _ => rfl⟩
  · exact ⟨rfl, rfl, rfl, fun _ _ => rfl⟩

/-- A character is written at the end of the line in progress.  There is room for it, or the page
would not fit, so no wrap is carried out. -/
theorem shows_glyph (h : Shows width height s p) {c : Char} (hwidth : Text.isZeroWidth c = false)
    (hfits : (p.add (.glyph c)).Fits width height) :
    Shows width height (s.write c) (p.add (.glyph c)) := by
  have hroom := hfits.length_current_lt
  obtain ⟨hcolumn, hwrap⟩ := h.column hroom
  have hline : p.done.length < height := by
    have hlines := hfits.2
    rw [Page.length_lines] at hlines
    exact hlines
  -- There is room, so no wrap is deferred, and the cursor is where the line ends.
  have hwrite : s.write c = (s.put s.column s.line c).advance := by
    have hstay : s.wrap = s := by rw [wrap, hwrap, if_neg Bool.false_ne_true]
    rw [Screen.write, hwidth, if_neg Bool.false_ne_true, hstay]
  obtain ⟨hw, hh, hl, hchar⟩ := frame_advance (s.put s.column s.line c)
  have hwell := h.wellFormed.write c
  rw [hwrite] at hwell ⊢
  refine ⟨hwell, hw.trans h.width_eq, hh.trans h.height_eq, fun x y hy => ?_, hl.trans h.line, ?_⟩
  · have hplace : min p.current.length (width - 1) = p.current.length
        ∧ min p.done.length (height - 1) = p.done.length := by omega
    have hy' : y < s.height := by
      rw [h.height_eq]
      exact hy
    rw [hchar, charAt_put h.wellFormed _ _ _ _ hy', p.charAt_add_glyph, h.charAt x y hy,
      h.width_eq, h.height_eq, hcolumn, h.line, hplace.1, hplace.2]
  · intro hlen
    have hnext : (p.add (.glyph c)).current.length = p.current.length + 1 :=
      List.length_append
    have hlast : ¬ (s.put s.column s.line c).width ≤ (s.put s.column s.line c).column + 1 := by
      have hput : (s.put s.column s.line c).width = width
          ∧ (s.put s.column s.line c).column = p.current.length := ⟨h.width_eq, hcolumn⟩
      omega
    rw [advance, if_neg hlast, hnext]
    exact ⟨congrArg (· + 1) hcolumn, hwrap⟩

/-- A line break begins a new line below. -/
theorem shows_lineBreak (h : Shows width height s p)
    (hfits : (p.add .lineBreak).Fits width height) :
    Shows width height s.carriageReturn.lineFeed (p.add .lineBreak) := by
  have hbelow : p.done.length + 1 < height := by
    have hlines := hfits.2
    rw [Page.length_lines, Page.add, Page.length_lines] at hlines
    exact hlines
  -- There is a row below, so that the line feed scrolls nothing.
  have hlast : ¬ s.height ≤ s.line + 1 := by
    rw [h.height_eq, h.line]
    omega
  have hfeed : s.carriageReturn.lineFeed = { s.carriageReturn with line := s.line + 1 } :=
    if_neg hlast
  have hwell := h.wellFormed.carriageReturn.lineFeed
  rw [hfeed] at hwell ⊢
  refine ⟨hwell, h.width_eq, h.height_eq, fun x y hy => ?_, ?_, fun _ => ⟨rfl, rfl⟩⟩
  · rw [p.charAt_add_lineBreak]
    exact h.charAt x y hy
  · rw [Page.add, Page.length_lines, h.line]

/-- One item does to a screen that shows a page what it does to the page. -/
theorem exists_shows_item (h : Shows width height s p) {item : Item} (hitem : item.IsPlain)
    (hfits : (p.add item).Fits width height) :
    ∃ s', Terminal.feed ⟨s, .ground⟩ item.chars = ⟨s', .ground⟩
      ∧ Shows width height s' (p.add item) := by
  cases hitem with
  | @glyph c hlow hhigh hwidth =>
    exact ⟨s.write c, Terminal.feed_glyph s hlow hhigh, shows_glyph h hwidth hfits⟩
  | lineBreak => exact ⟨s.carriageReturn.lineFeed, rfl, shows_lineBreak h hfits⟩
  | escape he =>
    obtain ⟨pen, hfeed⟩ := exists_pen_of_isStill s he
    refine ⟨{ s with pen := pen }, hfeed, ?_⟩
    exact ⟨h.wellFormed.setPen pen, h.width_eq, h.height_eq, h.charAt, h.line, h.column⟩

/-- A screen that is large enough shows the page of an output.  By induction on its items: a page
with room after the last one had room all the way. -/
theorem exists_shows_chars {items : List Item} (hitems : ∀ item ∈ items, item.IsPlain)
    (h : Shows width height s p) (hfits : (items.foldl Page.add p).Fits width height) :
    ∃ s', Terminal.feed ⟨s, .ground⟩ (chars items) = ⟨s', .ground⟩
      ∧ Shows width height s' (items.foldl Page.add p) := by
  induction items generalizing s p with
  | nil => exact ⟨s, rfl, h⟩
  | cons item items ih =>
    obtain ⟨hitem, hitems⟩ := List.forall_mem_cons.1 hitems
    -- A page never loses lines or characters, so it has room after every item.
    have hroom : (p.add item).Fits width height := Page.Fits.of_foldl_add hfits
    obtain ⟨mid, hfirst, hmid⟩ := exists_shows_item h hitem hroom
    obtain ⟨last, hrest, hlast⟩ := ih hitems hmid hfits
    have hsplit : chars (item :: items) = item.chars ++ chars items := List.flatMap_cons
    refine ⟨last, ?_, hlast⟩
    rw [hsplit, Terminal.feed_append, hfirst, hrest]

/-- A blank screen shows a page on which nothing is printed. -/
theorem shows_blank (width height : Nat) :
    Shows (max width 1) (max height 1) (.blank width height) .empty := by
  refine ⟨wellFormed_blank width height, rfl, rfl, fun x y hy => ?_, rfl, fun _ => ⟨rfl, rfl⟩⟩
  have hline : (Page.empty.lines[y]?.getD []) = [] := by
    rw [Page.lines, Page.empty, List.nil_append, List.getElem?_singleton]
    split <;> rfl
  rw [Screen.charAt_blank width height x hy, Page.charAt, hline]
  rfl

/-- The rows of a screen that shows a page: the lines without the blanks at their ends, and
below them nothing. -/
theorem rows_of_shows (h : Shows width height s p) (hfits : p.lines.length ≤ height) :
    s.rows.map Row.shown
      = p.lines.map Text.trimEnd ++ List.replicate (height - p.lines.length) [] := by
  have hlen : s.rows.length = height := h.wellFormed.length_rows.trans h.height_eq
  refine List.ext_getElem ?_ fun y hy hy' => ?_
  · rw [List.length_map, List.length_append, List.length_map, List.length_replicate, hlen]
    omega
  · rw [List.length_map] at hy
    have hread : ∀ x, s.rows[y].charAt x = (p.lines[y]?.getD [])[x]?.getD ' ' := by
      intro x
      rw [← Screen.charAt_of_getElem? (List.getElem?_eq_getElem hy)]
      exact h.charAt x y (by omega)
    rw [List.getElem_map, Row.shown_eq hread, List.getElem_append]
    split
    · next hline =>
      rw [List.length_map] at hline
      rw [List.getElem?_eq_getElem hline, List.getElem_map, Option.getD_some]
    · -- Below the last line the row reads as blanks, and nothing is left of them.
      next hline =>
      rw [List.length_map] at hline
      rw [List.getElem?_eq_none (Nat.le_of_not_lt hline), List.getElem_replicate,
        Option.getD_none, Text.trimEnd_nil]

end Printout

namespace LiveSession

open Printout Capture

/-- **On a screen that is large enough an output reads as its plain text.**  The output is
made up of characters that take a cell, line breaks, and escape sequences that neither move
the cursor nor erase.  If no line of its plain text is longer than the screen is wide, and
there are not more of them than rows, then the rows are these lines, without the white space
at their ends, and empty rows below them. -/
theorem rows_feed_eq_plainLines {items : List Item} (hitems : ∀ item ∈ items, item.IsPlain)
    {width height : Nat} (hwidth : ∀ l ∈ plainLines (text items), l.length ≤ width)
    (hheight : (plainLines (text items)).length ≤ height) :
    ∃ session, (start width height).feed (chars items) = .ok session
      ∧ session.screen.rows.map Row.text
        = (plainLines (text items)).map (fun l => .ofList (Text.trimEnd l))
          ++ List.replicate (height - (plainLines (text items)).length) "" := by
  rw [plainLines_text hitems] at hwidth hheight ⊢
  have hsize : max height 1 = height := by
    have hlines := (Page.ofItems items).length_lines
    omega
  -- The page has the lines of the plain text, and a screen is at least one column wide.
  have hfits : (Page.ofItems items).Fits (max width 1) (max height 1) := by
    refine ⟨fun l hl => ?_, ?_⟩
    · exact Nat.le_trans (hwidth l hl) (Nat.le_max_left width 1)
    · rw [hsize]
      exact hheight
  -- Item by item the screen shows the page; at the end its rows are read off.
  obtain ⟨s, hfeed, hshows⟩ := exists_shows_chars hitems (shows_blank width height) hfits
  have hrows := rows_of_shows hshows hfits.2
  refine ⟨⟨⟨s, .ground⟩, false⟩, ?_, ?_⟩
  · have hterminal : (start width height).terminal.feed (chars items) = ⟨s, .ground⟩ := hfeed
    rw [LiveSession.feed, hterminal]
    rfl
  · have htext : s.rows.map Row.text = (s.rows.map Row.shown).map String.ofList := by
      rw [List.map_map]
      rfl
    have hempty : String.ofList [] = "" := rfl
    change s.rows.map Row.text = _
    rw [htext, hrows, hsize, List.map_append, List.map_map, List.map_replicate, hempty]
    rfl

/-- Colours, a title and a line that ends with a space, on a screen with a row to spare. -/
theorem rows_feed_two_lines :
    let items : List Item := [.escape (.string ']' ['0', ';', 't'] ['\x07']), .glyph 'a',
      .escape (.control ['1', ';', '3', '2'] 'm'), .glyph 'b', .lineBreak, .glyph 'c', .glyph ' ']
    plainText (text items) = "ab\nc "
      ∧ ∃ session, (start 2 3).feed "\x1b]0;t\x07a\x1b[1;32mb\r\nc ".toList = .ok session
        ∧ session.screen.rows.map Row.text = ["ab", "c", ""] := by
  intro items
  have hitems : ∀ item ∈ items, item.IsPlain := by
    have hcolour : (Escape.control ['1', ';', '3', '2'] 'm').IsStill :=
      .control (List.all_eq_true.1 rfl) rfl (by decide) (by decide)
    have htitle : (Escape.string ']' ['0', ';', 't'] ['\x07']).IsStill :=
      .command (List.all_eq_true.1 rfl) (by decide)
    have hglyph {c : Char} (hc : 0x20 ≤ c.toNat ∧ c.toNat < 0x7f)
        (hwidth : Text.isZeroWidth c = false) : (Item.glyph c).IsPlain :=
      .glyph hc.1 (.inl hc.2) hwidth
    simp only [items, List.forall_mem_cons, List.not_mem_nil, false_implies, implies_true, and_true]
    exact ⟨.escape htitle, hglyph (by decide) (by decide), .escape hcolour,
      hglyph (by decide) (by decide), .lineBreak, hglyph (by decide) (by decide),
      hglyph (by decide) (by decide)⟩
  have hlines : plainLines (text items) = [['a', 'b'], ['c', ' ']] := by decide +kernel
  have hwidth : ∀ l ∈ plainLines (text items), l.length ≤ 2 := by
    rw [hlines]
    decide
  have hheight : (plainLines (text items)).length ≤ 3 := by
    rw [hlines]
    decide
  obtain ⟨session, hfeed, hrows⟩ := rows_feed_eq_plainLines hitems hwidth hheight
  rw [hlines] at hrows
  exact ⟨by decide +kernel, session, hfeed, hrows⟩

end LiveSession

end ConsoleReplay
