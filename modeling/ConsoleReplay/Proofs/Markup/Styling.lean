import ConsoleReplay.Markup.Styled
import ConsoleReplay.Proofs.Capture.Legible
import ConsoleReplay.Proofs.Markup.Readback
import ConsoleReplay.Proofs.Style.Runs

/-!
# The styles of a text as markup

A captured text shows characters, and each of them in the style that the sequences before it add up
to.  Its markup writes the longest runs of characters in one style, one after the other.  A run is
put into an element if its style can be seen: it is not the plain style, and the run has something
to show in it, a character that is not blank or a background.

Markup can also be written as the text is read.  The writer holds back a run that may go on, already
escaped, and the style in which it began.  It looks at the pen only when the next character comes,
so a pen may change many times between two characters, or change and come back, and the run goes on
if the pen is what it was.

## Main definitions

* `Markup.IsUnseen run` — a run of whose style nothing can be seen; `Markup.written run` — a run as
  it is written.
* `Markup.shownCells pen ts` — the characters that tokens show, each in its style.
* `Markup.RunWriter` — a writer that reads token by token; `RunWriter.Holds` says what it has
  written and what it holds back.

## Main results

* `Markup.isUnseen_iff_forall` — a run, told by its cells.
* `RunWriter.Holds.read`, `RunWriter.Holds.foldl_read` — what a token and a text do to a writer.
* `RunWriter.markup_eq_styled` — the writer writes the markup of the text.
* `Markup.styled_eq_runs` — **markup is one piece for each longest run**, and the writer agrees.
-/

namespace ConsoleReplay

/-! ### Styles that can be seen -/

namespace Style

/-- Only the plain style has nothing to write in an attribute. -/
theorem css_eq_empty_iff {s : Style} : s.css = "" ↔ s = plain := by
  -- No declaration is the empty text, so the joined text is only empty if there is none.
  have hrules : ∀ rule ∈ s.cssRules, rule ≠ "" := by
    intro rule h
    simp only [cssRules, List.mem_append] at h
    rcases h with (((h | h) | h) | h) | h
    case inl.inl.inl.inl =>
      obtain ⟨css, -, rfl⟩ := Option.map_eq_some_iff.1 (Option.mem_toList.1 h)
      simp
    case inl.inl.inl.inr =>
      obtain ⟨css, -, rfl⟩ := Option.map_eq_some_iff.1 (Option.mem_toList.1 h)
      simp
    all_goals
      split at h
      · rw [List.mem_singleton.1 h]
        decide
      · exact absurd h List.not_mem_nil
  rw [← cssRules_eq_nil_iff, css]
  cases hnil : s.cssRules with
  | nil => exact ⟨fun _ => rfl, fun _ => rfl⟩
  | cons rule rules =>
    have hrule := hrules rule (by rw [hnil]; exact List.mem_cons_self)
    refine ⟨fun h => ?_, fun h => absurd h (List.cons_ne_nil rule rules)⟩
    cases rules with
    | nil => exact absurd h hrule
    | cons next rules =>
      rw [String.intercalate_cons_cons, String.append_eq_empty_iff, String.append_eq_empty_iff] at h
      exact absurd h.1.1 hrule

end Style

namespace Markup

open Capture (Token tokens)
open Text (isBlank blankLine)

/-- What is blank is written blank, and nothing else is. -/
theorem blankLine_escape (cs : List Char) : blankLine (escape cs) = blankLine cs := by
  have hchar (c : Char) : (escapeChar c).all isBlank = isBlank c := by
    unfold escapeChar
    split <;> simp
    all_goals decide
  induction cs with
  | nil => rfl
  | cons c cs ih =>
    have hfront : escape (c :: cs) = escapeChar c ++ escape cs := List.flatMap_cons
    rw [hfront, blankLine, List.all_append, hchar, ← blankLine, ih]
    rfl

/-- Only a carriage return is written as nothing. -/
theorem escapeChar_ne_nil {c : Char} (hc : c ≠ '\r') : escapeChar c ≠ [] := by
  unfold escapeChar
  split
  case h_6 => exact absurd rfl hc
  all_goals exact List.cons_ne_nil _ _

/-- Of a run nothing of its style can be seen: it is plain, or the run is blank and has no
background. -/
def IsUnseen (run : Run) : Prop :=
  run.style = .plain ∨ blankLine run.chars = true ∧ run.style.background = .default

instance (run : Run) : Decidable (IsUnseen run) := inferInstanceAs (Decidable (_ ∨ _))

theorem showsStyle_iff {run : Run} : showsStyle run = true ↔ ¬ IsUnseen run := by
  rw [showsStyle, Bool.and_eq_true, Bool.not_eq_true', ← Bool.not_eq_true, Style.isPlain_iff,
    Bool.or_eq_true, Bool.not_eq_true', ← Bool.not_eq_true, bne_iff_ne, IsUnseen, not_or,
    Decidable.not_and_iff_not_or_not]

/-- A run as it is written: its escaped text, in an element if its style can be seen. -/
def written (run : Run) : List Char :=
  if IsUnseen run then escape run.chars
  else
    "<span style=\"".toList ++ run.style.css.toList ++ "\">".toList ++ escape run.chars
      ++ "</span>".toList

theorem write_pieceOf (run : Run) : (pieceOf run).write = written run := by
  rw [pieceOf, written]
  by_cases hunseen : IsUnseen run
  · have hshown : ¬ showsStyle run = true := fun hshown => showsStyle_iff.1 hshown hunseen
    rw [if_pos hunseen, if_neg hshown]
    rfl
  · rw [if_neg hunseen, if_pos (showsStyle_iff.2 hunseen)]
    simp [Piece.write, Piece.element]

theorem chars_pieceOf (run : Run) : (pieceOf run).chars = run.chars := by
  rw [pieceOf]
  split <;> rfl

/-- Of the style of a run nothing can be seen if nothing can be seen of any of its cells. -/
theorem isUnseen_iff_forall {run : Run} (hrun : run.chars ≠ []) :
    IsUnseen run ↔ ∀ cell ∈ run.cells,
      cell.style = .plain ∨ isBlank cell.char = true ∧ cell.style.background = .default := by
  have hcells (P : Cell → Prop) :
      (∀ cell ∈ run.cells, P cell) ↔ ∀ c ∈ run.chars, P ⟨c, run.style⟩ := List.forall_mem_map
  rw [hcells, IsUnseen, blankLine, List.all_eq_true]
  constructor
  · rintro (hplain | ⟨hblank, hback⟩) c hc
    · exact Or.inl hplain
    · exact Or.inr ⟨hblank c hc, hback⟩
  · intro h
    -- A run has one style, so a single cell decides for all of them which of the two reasons it
    -- is.
    by_cases hplain : run.style = .plain
    · exact Or.inl hplain
    · have hseen (c : Char) (hc : c ∈ run.chars) := (h c hc).resolve_left hplain
      obtain ⟨first, hfirst⟩ := List.exists_mem_of_ne_nil _ hrun
      exact Or.inr ⟨fun c hc => (hseen c hc).1, (hseen first hfirst).2⟩

/-! ### The characters of a text -/

/-- The character that a token shows.  Of the controls, line feed and tab are shown. -/
def shownChar? : Token → Option Char
  | .glyph c => some c
  | .control c => if c = '\n' ∨ c = '\t' then some c else none
  | .sequence .. => none

/-- The pen after a token.  Only the choice of a style changes it. -/
def penAfter (pen : Style) (t : Token) : Style :=
  (t.sgr?.map fun params => pen.applySgr (sgrCodes params)).getD pen

/-- The cell that a token shows, if it shows one. -/
def cellOf (pen : Style) (t : Token) : List Cell := (shownChar? t).toList.map (⟨·, pen⟩)

/-- The characters that tokens show, each in the style that the tokens before it add up to.  It goes
through the tokens from the front and holds nothing back. -/
def shownCells (pen : Style) : List Token → List Cell
  | [] => []
  | t :: ts => cellOf pen t ++ shownCells (penAfter pen t) ts

/-- Of a token that shows a character the pen stays what it is. -/
theorem penAfter_of_shownChar? {pen : Style} {t : Token} {c : Char} (h : shownChar? t = some c) :
    penAfter pen t = pen := by
  cases t with
  | glyph | control => rfl
  | sequence => cases h

theorem applyToken_eq (pen : Style) (done : List Cell) (t : Token) :
    applyToken (pen, done) t = (penAfter pen t, (cellOf pen t).reverse ++ done) := by
  -- A token moves the pen or shows a character, never both, so the two halves of the state are
  -- followed apart.
  cases t with
  | glyph c => rfl
  | control c =>
    by_cases hc : c = '\n' ∨ c = '\t'
    · have hshown : (c == '\n' || c == '\t') = true := by simpa using hc
      rw [applyToken, cellOf, shownChar?, if_pos hc]
      simp [hshown, penAfter, Token.sgr?]
    · have hshown : ¬ (c == '\n' || c == '\t') = true := by simpa using hc
      rw [applyToken, cellOf, shownChar?, if_neg hc]
      simp [hshown, penAfter, Token.sgr?]
  | sequence params intermediates overfull final =>
    simp only [applyToken, penAfter, cellOf, shownChar?]
    split <;> simp_all

/-- The cells of a text, told from its front. -/
theorem styledCells_eq (cs : List Char) : styledCells cs = shownCells .plain (tokens cs) := by
  have hfold (pen : Style) (done : List Cell) (ts : List Token) :
      (ts.foldl applyToken (pen, done)).2.reverse = done.reverse ++ shownCells pen ts := by
    induction ts generalizing pen done with
    | nil => rw [shownCells, List.append_nil]; rfl
    | cons t ts ih =>
      rw [List.foldl_cons, applyToken_eq, ih, List.reverse_append, List.reverse_reverse,
        List.append_assoc]
      rfl
  rw [styledCells, penned, hfold, List.reverse_nil, List.nil_append]

/-- A legible token does not show a carriage return. -/
theorem ne_return_of_shownChar? {t : Token} (ht : t.IsLegible) {c : Char}
    (h : shownChar? t = some c) : c ≠ '\r' := by
  rintro rfl
  cases t with
  | glyph c =>
    obtain rfl : c = '\r' := Option.some.inj h
    -- A legible glyph is no control, and a carriage return is one.
    have hcontrol : Capture.isControl '\r' = false := ht
    exact absurd hcontrol (by decide)
  | control c =>
    rw [shownChar?] at h
    split at h
    · next hc =>
      obtain rfl : c = '\r' := Option.some.inj h
      exact absurd hc (by decide)
    · cases h
  | sequence => cases h

/-- A text shows no carriage return.  So nothing of what it shows is dropped when it is escaped. -/
theorem return_notMem_shownCells {ts : List Token} (hts : ∀ t ∈ ts, t.IsLegible) (pen : Style) :
    '\r' ∉ (shownCells pen ts).map Cell.char := by
  induction ts generalizing pen with
  | nil => exact List.not_mem_nil
  | cons t ts ih =>
    obtain ⟨ht, hts⟩ := List.forall_mem_cons.1 hts
    rw [shownCells, List.map_append, List.mem_append]
    rintro (h | h)
    · simp only [cellOf, List.map_map, List.mem_map, Option.mem_toList] at h
      obtain ⟨c, hc, hreturn⟩ := h
      exact ne_return_of_shownChar? ht hc hreturn
    · exact ih hts _ h

/-! ### Writing while reading

A writer that holds back one run sees a change of style only when the next character comes, and
counts the runs that it wrote in an element.  At every token it has written the longest runs of
the cells so far, the last one aside. -/

/-- A writer of styled text, as it works while a text is read: it holds back the run in progress,
since only its end tells how it is written. -/
structure RunWriter where
  /-- What is written. -/
  out : List Char
  pen : Style
  /-- The style in which the run that is held back began. -/
  runStyle : Style
  /-- The run that is held back, escaped. -/
  run : List Char
  /-- How many runs were put into an element. -/
  styledRuns : Nat

namespace RunWriter

/-- A writer that has read nothing. -/
def start : RunWriter := ⟨[], .plain, .plain, [], 0⟩

/-- Write what is held back, if there is something. -/
def closeRun (w : RunWriter) : RunWriter :=
  if w.run.isEmpty then w
  else if w.runStyle.css = "" ∨ blankLine w.run = true ∧ w.runStyle.background.css? = none then
    { w with out := w.out ++ w.run, run := [] }
  else
    { w with
      out := w.out ++ ("<span style=\"".toList ++ w.runStyle.css.toList ++ "\">".toList ++ w.run
        ++ "</span>".toList)
      run := []
      styledRuns := w.styledRuns + 1 }

/-- Take escaped text.  The run goes on if the pen is what it was when the run began; a change of
the pen that was taken back in between does not end it. -/
def push (w : RunWriter) (cs : List Char) : RunWriter :=
  if w.run.isEmpty then { w with runStyle := w.pen, run := cs }
  else if w.runStyle ≠ w.pen then { w.closeRun with runStyle := w.pen, run := cs }
  else { w with run := w.run ++ cs }

/-- Read a token. -/
def read (w : RunWriter) (t : Token) : RunWriter :=
  match shownChar? t with
  | some c => w.push (escapeChar c)
  | none => { w with pen := penAfter w.pen t }

/-- The markup of a text that is written while the text is read. -/
def markup (text : String) : Except StyledError String :=
  let w := ((tokens text.toList).foldl read start).closeRun
  if w.styledRuns = 0 then .error .noStyling else .ok (.ofList w.out)

/-- What a writer has after some cells: all runs but the last are written, and the last one is held
back. -/
inductive Holds : RunWriter → List Cell → Prop
  | start (pen style : Style) : Holds ⟨[], pen, style, [], 0⟩ []
  | run (pen : Style) {cells : List Cell} {closed : List Run} {chars : List Char} {style : Style}
      (hruns : Run.Longest cells (closed ++ [⟨chars, style⟩])) (hescape : escape chars ≠ []) :
      Holds ⟨closed.flatMap written, pen, style, escape chars, closed.countP showsStyle⟩ cells

/-- The writer looks at the rules and at escaped text, and decides as for the run itself. -/
theorem isUnseen_iff_css {chars : List Char} {style : Style} :
    (style.css = "" ∨ blankLine (escape chars) = true ∧ style.background.css? = none)
      ↔ IsUnseen ⟨chars, style⟩ := by
  rw [Style.css_eq_empty_iff, blankLine_escape, Color.css?_eq_none_iff, IsUnseen]

/-- What is held back is written like a run of its own.  The writer decides by its rules and by
escaped text what a run says about itself. -/
theorem closeRun_run (out : List Char) (pen : Style) {chars : List Char} (style : Style) (n : Nat)
    (hescape : escape chars ≠ []) :
    closeRun ⟨out, pen, style, escape chars, n⟩
      = ⟨out ++ written ⟨chars, style⟩, pen, style, [],
          n + [Run.mk chars style].countP showsStyle⟩ := by
  rw [closeRun, if_neg (by rwa [List.isEmpty_iff]), List.countP_singleton, written]
  by_cases hunseen : IsUnseen ⟨chars, style⟩
  · have hshown : ¬ showsStyle ⟨chars, style⟩ = true := fun h => showsStyle_iff.1 h hunseen
    rw [if_pos (isUnseen_iff_css.2 hunseen), if_pos hunseen, if_neg hshown]
    rfl
  · rw [if_neg fun h => hunseen (isUnseen_iff_css.1 h), if_neg hunseen,
      if_pos (showsStyle_iff.2 hunseen)]

variable {w : RunWriter} {cells : List Cell}

theorem Holds.setPen (h : Holds w cells) (pen : Style) : Holds { w with pen := pen } cells := by
  cases h with
  | start _ style => exact .start pen style
  | run _ hruns hescape => exact .run pen hruns hescape

/-- A character is one more cell, in the style of the pen. -/
theorem Holds.push (h : Holds w cells) {c : Char} (hc : c ≠ '\r') :
    Holds (w.push (escapeChar c)) (cells ++ [⟨c, w.pen⟩]) := by
  -- The writer keeps an open run as its escaped text, so a character is added as the escape of a
  -- list of one.
  have hone : escape [c] = escapeChar c := List.append_nil _
  cases h with
  | start pen style =>
    rw [RunWriter.push, if_pos List.isEmpty_nil, ← hone]
    have hfirst : Run.Longest [⟨c, pen⟩] ([] ++ [⟨[c], pen⟩]) := Run.longest_singleton ⟨c, pen⟩
    refine .run pen hfirst ?_
    rw [hone]
    exact escapeChar_ne_nil hc
  | @run pen cells closed chars style hruns hescape =>
    rw [RunWriter.push, if_neg (by rwa [List.isEmpty_iff])]
    -- In the style of the open run the character makes it longer; in another one the run is
    -- closed and the character begins the next.
    by_cases hstyle : style = pen
    · subst hstyle
      rw [if_neg (not_not_intro rfl), ← hone, ← escape_append]
      refine .run style (hruns.extend c) ?_
      rw [escape_append]
      exact List.append_ne_nil_of_left_ne_nil hescape _
    · rw [if_pos hstyle, closeRun_run _ _ _ _ hescape, ← hone]
      have hwritten : closed.flatMap written ++ written ⟨chars, style⟩
          = (closed ++ [Run.mk chars style]).flatMap written := by
        rw [List.flatMap_append, List.flatMap_singleton]
      rw [hwritten, ← List.countP_append]
      have hnext : Run.Longest (cells ++ [⟨c, pen⟩]) (closed ++ [⟨chars, style⟩] ++ [⟨[c], pen⟩]) :=
        hruns.begin hstyle
      refine .run pen hnext ?_
      rw [hone]
      exact escapeChar_ne_nil hc

theorem closeRun_pen (w : RunWriter) : w.closeRun.pen = w.pen := by
  rw [closeRun]
  repeat' split
  all_goals rfl

theorem push_pen (w : RunWriter) (cs : List Char) : (w.push cs).pen = w.pen := by
  rw [RunWriter.push]
  repeat' split
  · rfl
  · exact w.closeRun_pen
  · rfl

theorem read_pen (w : RunWriter) (t : Token) : (w.read t).pen = penAfter w.pen t := by
  rw [RunWriter.read]
  split
  · next c hc => rw [push_pen, penAfter_of_shownChar? hc]
  · rfl

/-- A token adds the cell that it shows, if it shows one. -/
theorem Holds.read (h : Holds w cells) {t : Token} (ht : t.IsLegible) :
    Holds (w.read t) (cells ++ cellOf w.pen t) := by
  rw [RunWriter.read, cellOf]
  split
  · next c hc =>
    rw [hc]
    exact h.push (ne_return_of_shownChar? ht hc)
  · next hnone =>
    rw [hnone]
    simpa using h.setPen (penAfter w.pen t)

/-- A text adds the cells that it shows. -/
theorem Holds.foldl_read (h : Holds w cells) {ts : List Token} (hts : ∀ t ∈ ts, t.IsLegible) :
    Holds (ts.foldl RunWriter.read w) (cells ++ shownCells w.pen ts) := by
  induction ts generalizing w cells with
  | nil => simpa [shownCells] using h
  | cons t ts ih =>
    obtain ⟨ht, hts⟩ := List.forall_mem_cons.1 hts
    have hrest := ih (h.read ht) hts
    rw [read_pen, List.append_assoc] at hrest
    exact hrest

/-- At the end all longest runs are written. -/
theorem Holds.closeRun (h : Holds w cells) :
    w.closeRun.out = (Run.ofCells cells).flatMap written
      ∧ w.closeRun.styledRuns = (Run.ofCells cells).countP showsStyle := by
  cases h with
  | start => exact ⟨rfl, rfl⟩
  | @run pen cells closed chars style hruns hescape =>
    rw [closeRun_run _ _ _ _ hescape, ← hruns.eq_ofCells, List.flatMap_append,
      List.flatMap_singleton, List.countP_append]
    exact ⟨rfl, rfl⟩

end RunWriter

/-- Nothing can be seen of the styles of cells if nothing can be seen of the style of any of their
runs. -/
theorem any_showsStyle_ofCells (cells : List Cell) :
    (Run.ofCells cells).any showsStyle = false ↔ ∀ cell ∈ cells,
      cell.style = .plain ∨ isBlank cell.char = true ∧ cell.style.background = .default := by
  have hruns := Run.longest_ofCells cells
  have hcells (P : Cell → Prop) :
      (∀ cell ∈ cells, P cell) ↔ ∀ run ∈ Run.ofCells cells, ∀ cell ∈ run.cells, P cell := by
    conv_lhs => rw [← hruns.cells_eq]
    exact List.forall_mem_flatMap
  rw [hcells, List.any_eq_false]
  refine forall₂_congr fun run hrun => ?_
  rw [showsStyle_iff, not_not, isUnseen_iff_forall (hruns.ne_nil run hrun)]

/-- The markup of a text is its longest runs as they are written, if the style of one can be
seen. -/
theorem styled_eq (text : String) :
    styled text = if (Run.ofCells (styledCells text.toList)).any showsStyle then
      .ok (.ofList ((Run.ofCells (styledCells text.toList)).flatMap written))
    else .error .noStyling := by
  have hwritten (runs : List Run) : write (runs.map pieceOf) = .ofList (runs.flatMap written) := by
    rw [write, List.flatMap_map]
    simp only [write_pieceOf]
  rw [styled, styledPieces?]
  split_ifs
  · exact congrArg Except.ok (hwritten _)
  · rfl

/-- **Markup that is written while a text is read** is the markup of the text. -/
theorem RunWriter.markup_eq_styled (text : String) : markup text = styled text := by
  have hlegible : ∀ t ∈ tokens text.toList, t.IsLegible := Capture.isLegible_of_mem_tokens
  have hholds : Holds ((tokens text.toList).foldl read start) (styledCells text.toList) := by
    rw [styledCells_eq]
    exact Holds.foldl_read (.start .plain .plain) hlegible
  obtain ⟨hout, hcount⟩ := hholds.closeRun
  have hnone : (closeRun ((tokens text.toList).foldl read start)).styledRuns = 0
      ↔ ¬ (Run.ofCells (styledCells text.toList)).any showsStyle = true := by
    rw [hcount, List.countP_eq_zero, List.any_eq_true, not_exists]
    simp only [not_and]
  rw [styled_eq, markup]
  simp only [hnone, ite_not, hout]

/-- The text of written runs is their texts, if no carriage return is among them. -/
theorem textOf_flatMap_written {runs : List Run} (h : '\r' ∉ runs.flatMap Run.chars) :
    textOf (runs.flatMap written) = runs.flatMap Run.chars := by
  have hclosed : ∀ piece ∈ runs.map pieceOf, piece.IsClosed := by
    refine List.forall_mem_map.2 fun run _ => ?_
    rw [pieceOf]
    split <;> trivial
  have htext := textOf_write hclosed
  rw [write, String.toList_ofList, List.flatMap_map, List.flatMap_map] at htext
  simp only [write_pieceOf, chars_pieceOf] at htext
  rw [htext, List.filter_eq_self]
  exact fun c hc => bne_iff_ne.2 fun hreturn => h (hreturn ▸ hc)

/-- **Markup is one piece for each longest run.**  The cells of a text can be cut into longest runs
in one way.  If nothing can be seen of the style of any cell there is no markup, and otherwise it is
the runs as they are written; its text is the characters that the text shows.  A writer that holds
back one run at a time writes the same. -/
theorem styled_eq_runs (text : String) :
    ∃ runs, (∀ runs', Run.Longest (shownCells .plain (tokens text.toList)) runs' ↔ runs' = runs)
      ∧ styled text
        = (if ∀ cell ∈ shownCells .plain (tokens text.toList), cell.style = .plain
              ∨ isBlank cell.char = true ∧ cell.style.background = .default then
            .error .noStyling
          else .ok (.ofList (runs.flatMap written)))
      ∧ textOf (runs.flatMap written) = (shownCells .plain (tokens text.toList)).map Cell.char
      ∧ RunWriter.markup text = styled text := by
  have hlegible : ∀ t ∈ tokens text.toList, t.IsLegible := Capture.isLegible_of_mem_tokens
  have hreturn := return_notMem_shownCells hlegible .plain
  have hstyled := styled_eq text
  rw [styledCells_eq] at hstyled
  -- From here on only the cells matter: the runs, what is visible of them and the markup do not
  -- depend on the text they come from.
  generalize shownCells .plain (tokens text.toList) = cells at *
  refine ⟨Run.ofCells cells, fun runs => Run.longest_iff, ?_, ?_, RunWriter.markup_eq_styled text⟩
  · rw [hstyled]
    by_cases hnone : (Run.ofCells cells).any showsStyle = false
    · rw [if_neg (Bool.eq_false_iff.1 hnone), if_pos ((any_showsStyle_ofCells cells).1 hnone)]
    · rw [if_pos (Bool.of_not_eq_false hnone),
        if_neg fun hunseen => hnone ((any_showsStyle_ofCells cells).2 hunseen)]
  · rw [← Run.flatMap_chars_ofCells] at hreturn ⊢
    exact textOf_flatMap_written hreturn

/-- A pen that comes back before the next character does not end a run. -/
example : RunWriter.markup "\x1b[31ma\x1b[32m\x1b[31mb\x1b[m c"
    = .ok "<span style=\"color:#cd3131\">ab</span> c" := by
  decide +kernel

end Markup

end ConsoleReplay
