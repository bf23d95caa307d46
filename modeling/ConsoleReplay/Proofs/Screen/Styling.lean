import ConsoleReplay.Markup.Styled
import ConsoleReplay.Proofs.Capture.Rereading
import ConsoleReplay.Proofs.Screen.Escape
import ConsoleReplay.Screen.Session

/-!
# Styles live and offline

Two readers follow the styles of an output.  The screen reads it as it comes and keeps a pen;
markup reads the whole text and gives every character the style that the sequences before it
add up to.  Both take the parameters of a sequence from its digits and semicolons, each in
its own way.  They differ in what they make of an empty parameter at the end, as in `1;`: in
markup it is a zero and resets the style, and the screen drops it.  So the screen shows what
markup makes of the output without such semicolons, and where there are none the two agree.

## Main definitions

* `Csi.closedParams seq` — all parameters, an empty one at the end among them.
* `Capture.Mirrors live seq` — the two readers hold the same of a sequence in progress.
* `StyledOutput.Item` — a character, or the choice of a style.
* `Item.closed` — an item without the semicolon at the end of its parameters.
* `StyledOutput.Holds width s penned` — a screen of one row holds the characters of a marked
  up text, and its pen.

## Main results

* `Capture.Mirrors.read`, `Capture.mirrors_ofBody` — a character and a body keep them alike.
* `Style.applySgr_allParams` — what the screen makes of a body.
* `StyledOutput.foldl_applyToken_chars`, `StyledOutput.Holds.exists_feed` — what an output
  does to a marked up text, and to a screen.
* `LiveSession.row_feed_eq_styledCells` — **live and offline agree on style**, if no
  parameters end in a semicolon.
-/

namespace ConsoleReplay

open Escape (isParam isParam_iff isBody_of_isParam)

/-! ### Parameters

Live and offline, a body is gathered in two ways that differ in what they hold and agree in what
is complete.  They come apart at the final character, where only the offline one closes an empty
parameter. -/

namespace Csi

/-- All parameters of a sequence.  An empty one at the end is zero, as it is anywhere else; a screen
leaves that one out. -/
def closedParams (seq : Csi) : List Nat := seq.params ++ [seq.current.getD 0]

/-- A parameter with a digit is the last one. -/
theorem allParams_digit {seq : Csi} (h : seq.params.length < maxParams) (c : Char) :
    (seq.digit c).allParams = (seq.digit c).closedParams := by
  rw [digit, allParams]
  dsimp only
  rw [push, if_pos h]
  rfl

/-- A semicolon ends the parameter before it and does not begin another one. -/
theorem allParams_separate {seq : Csi} (h : seq.params.length < maxParams) :
    seq.separate.allParams = seq.closedParams := by
  have hroom : ({ seq with current := none } : Csi).params.length < maxParams := h
  rw [separate, push, if_pos hroom]
  rfl

theorem read_semicolon (seq : Csi) : seq.read ';' = seq.separate := rfl

theorem read_of_isDigit (seq : Csi) {c : Char} (h : c.isDigit = true) :
    seq.read c = seq.digit c := if_pos h

/-- A semicolon completes a parameter, and a digit does not. -/
theorem length_params_read (seq : Csi) {c : Char} (hc : isParam c = true)
    (hroom : seq.params.length < maxParams) :
    (seq.read c).params.length = seq.params.length + if (c == ';') = true then 1 else 0 := by
  by_cases hsemicolon : c = ';'
  · subst hsemicolon
    have hroom' : ({ seq with current := none } : Csi).params.length < maxParams := hroom
    rw [read_semicolon, separate, push, if_pos hroom']
    exact List.length_append
  · have hdigit : c.isDigit = true := (isParam_iff.1 hc).resolve_right hsemicolon
    rw [seq.read_of_isDigit hdigit, if_neg (mt eq_of_beq hsemicolon)]
    rfl

end Csi

namespace Capture

/-- Take one more character of the parameters. -/
def Sequence.readParam (seq : Sequence) (c : Char) : Sequence :=
  if c.isDigit then seq.digit c else seq.endParam

/-- The two readers hold the same of a sequence in progress, and it has no sub-parameters and
nothing but parameters. -/
structure Mirrors (live : Csi) (seq : Sequence) : Prop where
  params_eq : seq.params = live.params.map ([·])
  group_eq : seq.group = []
  value_eq : seq.value = live.current.getD 0
  count_eq : seq.count = live.params.length
  intermediates_eq : seq.intermediates = []
  overfull_eq : seq.overfull = false
  isPrivate_eq : live.isPrivate = false
  isUnsupported_eq : live.isUnsupported = false

theorem mirrors_empty : Mirrors .empty .empty := ⟨rfl, rfl, rfl, rfl, rfl, rfl, rfl, rfl⟩

namespace Mirrors

variable {live : Csi} {seq : Sequence}

/-- The screen keeps fewer parameters than the scanner has room for. -/
theorem not_isFull (h : Mirrors live seq) (hroom : live.params.length < maxParams) :
    ¬ seq.isFull = true := by
  refine Sequence.not_isFull ?_
  rw [h.count_eq]
  exact Nat.lt_trans hroom (by decide)

theorem digit (h : Mirrors live seq) (hroom : live.params.length < maxParams) (c : Char) :
    Mirrors (live.digit c) (seq.digit c) := by
  rw [Sequence.digit, if_neg (h.not_isFull hroom)]
  refine { h with value_eq := ?_ }
  show min maxValue (min maxValue (seq.value * 10) + (c.toNat - '0'.toNat)) = _
  rw [h.value_eq]
  rfl

theorem separate (h : Mirrors live seq) (hroom : live.params.length < maxParams) :
    Mirrors live.separate seq.endParam := by
  have hroom' : ({ live with current := none } : Csi).params.length < maxParams := hroom
  rw [Sequence.endParam, if_neg (h.not_isFull hroom), Csi.separate, Csi.push, if_pos hroom']
  refine { h with params_eq := ?_, group_eq := rfl, value_eq := rfl, count_eq := ?_ }
  · show seq.params ++ [seq.group ++ [seq.value]] = _
    rw [h.params_eq, h.group_eq, h.value_eq, List.map_append]
    rfl
  · show seq.count + 1 = (live.params ++ [live.current.getD 0]).length
    rw [h.count_eq, List.length_append]
    rfl

/-- A character of the parameters does the same to both. -/
theorem read (h : Mirrors live seq) {c : Char} (hc : isParam c = true)
    (hroom : live.params.length < maxParams) : Mirrors (live.read c) (seq.readParam c) := by
  rcases isParam_iff.1 hc with hdigit | rfl
  · rw [live.read_of_isDigit hdigit, Sequence.readParam, if_pos hdigit]
    exact h.digit hroom c
  · exact h.separate hroom

end Mirrors

section

variable {live : Csi} {seq : Sequence} {body : List Char}

/-- A body keeps the two alike, and every semicolon completes one more parameter.  The two gather
differently at the end only: the screen leaves an empty last parameter out. -/
theorem mirrors_foldl (h : Mirrors live seq) (hbody : ∀ c ∈ body, isParam c = true)
    (hroom : live.params.length + body.count ';' < maxParams) :
    Mirrors (body.foldl Csi.read live) (body.foldl Sequence.readParam seq)
      ∧ (body.foldl Csi.read live).params.length = live.params.length + body.count ';' := by
  induction body generalizing live seq with
  | nil => exact ⟨h, rfl⟩
  | cons c body ih =>
    obtain ⟨hc, hrest⟩ := List.forall_mem_cons.1 hbody
    rw [List.count_cons] at hroom ⊢
    have hnext := h.read hc (by omega)
    -- Of the parameters one more is complete after a semicolon, and none after a digit.
    have hlen : (live.read c).params.length
        = live.params.length + if (c == ';') = true then 1 else 0 :=
      live.length_params_read hc (by omega)
    obtain ⟨hmirrors, hcount⟩ := ih hnext hrest (by omega)
    refine ⟨hmirrors, ?_⟩
    rw [List.foldl_cons, hcount]
    omega

/-- What the two readers make of a body. -/
theorem mirrors_ofBody (hbody : ∀ c ∈ body, isParam c = true)
    (hroom : body.count ';' < maxParams) :
    Mirrors (Csi.ofBody body) (body.foldl Sequence.readParam .empty)
      ∧ (Csi.ofBody body).params.length = body.count ';' := by
  have hroom' : Csi.empty.params.length + body.count ';' < maxParams := by
    rw [Csi.empty, List.length_nil, Nat.zero_add]
    exact hroom
  obtain ⟨hmirrors, hlen⟩ := mirrors_foldl mirrors_empty hbody hroom'
  refine ⟨hmirrors, hlen.trans ?_⟩
  rw [Csi.empty, List.length_nil, Nat.zero_add]

namespace Scanner

theorem step_of_isParam (seq : Sequence) {c : Char} (hc : isParam c = true) :
    step (.csiParam seq) c = (.csiParam (seq.readParam c), []) := by
  rcases isParam_iff.1 hc with hdigit | rfl
  · rw [step, inParams_digit _ _ _ hdigit, Sequence.readParam, if_pos hdigit]
  · rfl

theorem run_body (seq : Sequence) (hbody : ∀ c ∈ body, isParam c = true) (cs : List Char) :
    run (.csiParam seq) (body ++ cs) = run (.csiParam (body.foldl Sequence.readParam seq)) cs := by
  induction body generalizing seq with
  | nil => rfl
  | cons c body ih =>
    obtain ⟨hc, hrest⟩ := List.forall_mem_cons.1 hbody
    rw [List.cons_append, run_cons_of_step (step_of_isParam seq hc), ih _ hrest, List.foldl_cons]

/-- At the beginning of a sequence parameters are read as they are after other ones. -/
theorem run_csiEntry_body (hbody : ∀ c ∈ body, isParam c = true) :
    run .csiEntry (body ++ ['m']) = run (.csiParam .empty) (body ++ ['m']) := by
  cases body with
  | nil => rfl
  | cons c body =>
    have hc : isParam c = true := hbody c List.mem_cons_self
    rcases isParam_iff.1 hc with hdigit | rfl
    · exact run_csiEntry hdigit _
    · rw [List.cons_append, run_cons, run_cons]
      rfl

/-- The choice of a style is one token.  Its parameters are all that the screen has read, an
empty one at the end among them. -/
theorem run_style (hbody : ∀ c ∈ body, isParam c = true) (hroom : body.count ';' < maxParams) :
    run .ground (Escape.control body 'm').chars
      = (.ground, [.sequence ((Csi.ofBody body).closedParams.map ([·])) [] false 'm']) := by
  obtain ⟨hmirrors, hlen⟩ := mirrors_ofBody hbody hroom
  have hescape : step .ground '\x1b' = (.escape, []) := rfl
  have hbracket : step .escape '[' = (.csiEntry, []) := rfl
  -- There is room for the last parameter, so that the final character adds it.
  have hfinish (seq : Sequence) :
      run (.csiParam seq) ['m'] = (.ground, [seq.finish 'm']) := rfl
  rw [Escape.chars, run_cons_of_step hescape, run_cons_of_step hbracket, run_csiEntry_body hbody,
    run_body _ hbody, hfinish, Sequence.finish, Sequence.endParam,
    if_neg (hmirrors.not_isFull (hlen ▸ hroom))]
  dsimp only
  rw [hmirrors.params_eq, hmirrors.group_eq, hmirrors.value_eq, hmirrors.intermediates_eq,
    hmirrors.overfull_eq, Csi.closedParams, List.map_append, List.isEmpty_nil, if_pos rfl,
    List.append_nil]
  rfl

end Scanner

end

end Capture

/-! ### What a body does to a style -/

/-- The parameters without a semicolon at their end, which is how a screen reads them. -/
def closedBody (body : List Char) : List Char :=
  if body.getLast? = some ';' then body.dropLast else body

theorem closedBody_concat_semicolon (body : List Char) : closedBody (body ++ [';']) = body := by
  rw [closedBody, List.getLast?_concat, if_pos rfl, List.dropLast_concat]

theorem closedBody_of_ne {body : List Char} (h : body.getLast? ≠ some ';') :
    closedBody body = body := if_neg h

theorem Csi.ofBody_concat (body : List Char) (c : Char) :
    ofBody (body ++ [c]) = (ofBody body).read c := by
  rw [ofBody, List.foldl_append]
  rfl

/-- **What the screen makes of a body** is what markup makes of it without the semicolon at
its end. -/
theorem Style.applySgr_allParams (pen : Style) {body : List Char}
    (hbody : ∀ c ∈ body, isParam c = true) (hroom : body.count ';' < maxParams) :
    pen.applySgr (Csi.ofBody body).allParams
      = pen.applySgr (Csi.ofBody (closedBody body)).closedParams := by
  rcases List.eq_nil_or_concat body with rfl | ⟨front, last, rfl⟩
  · -- Nothing at all resets the style, and so does the only parameter if it is empty.
    rfl
  · rw [List.concat_eq_append] at hbody hroom ⊢
    obtain ⟨hfront, hlast⟩ := List.forall_mem_append.1 hbody
    have hlen : (Csi.ofBody front).params.length < maxParams := by
      have hcount := hroom
      rw [List.count_append] at hcount
      rw [(Capture.mirrors_ofBody hfront (by omega)).2]
      omega
    by_cases hsemicolon : last = ';'
    · subst hsemicolon
      rw [closedBody_concat_semicolon, Csi.ofBody_concat, Csi.read_semicolon,
        Csi.allParams_separate hlen]
    · have hdigit : last.isDigit = true :=
        (isParam_iff.1 (hlast last List.mem_cons_self)).resolve_right hsemicolon
      have hne : (front ++ [last]).getLast? ≠ some ';' := by
        rw [List.getLast?_concat]
        intro heq
        exact hsemicolon (Option.some.inj heq)
      rw [closedBody_of_ne hne, Csi.ofBody_concat, Csi.read_of_isDigit _ hdigit,
        Csi.allParams_digit hlen]

/-! ### Outputs -/

namespace StyledOutput

open Capture Markup

/-- A part of an output. -/
inductive Item
  | glyph (c : Char)
  /-- The choice of a style, by its parameters. -/
  | style (body : List Char)

/-- The characters of an item. -/
def Item.chars : Item → List Char
  | .glyph c => [c]
  | .style body => (Escape.control body 'm').chars

/-- The characters of an output. -/
def chars (items : List Item) : List Char := items.flatMap Item.chars

/-- A character that is no control and takes a cell, or the choice of a style with parameters
that the screen has room for. -/
inductive Item.IsVisible : Item → Prop
  | glyph {c : Char} (hlow : 0x20 ≤ c.toNat) (hhigh : c.toNat < 0x7f ∨ 0x9f < c.toNat)
      (hwidth : Text.isZeroWidth c = false) :
      IsVisible (.glyph c)
  | style {body : List Char} (hbody : ∀ c ∈ body, isParam c = true)
      (hroom : body.count ';' < maxParams) :
      IsVisible (.style body)

theorem isVisible_ascii {c : Char} (hc : 0x20 ≤ c.toNat ∧ c.toNat < 0x7f)
    (hwidth : Text.isZeroWidth c = false) : (Item.glyph c).IsVisible :=
  .glyph hc.1 (.inl hc.2) hwidth

/-- Whether an item is a character. -/
def Item.isGlyph : Item → Bool
  | .glyph _ => true
  | .style _ => false

/-- The item without a semicolon at the end of its parameters. -/
def Item.closed : Item → Item
  | .glyph c => .glyph c
  | .style body => .style (closedBody body)

/-- Whether the parameters of an item end in a semicolon. -/
def Item.isOpen : Item → Bool
  | .glyph _ => false
  | .style body => body.getLast? == some ';'

theorem Item.closed_of_not_isOpen {item : Item} (h : item.isOpen = false) :
    item.closed = item := by
  cases item with
  | glyph c => rfl
  | style body =>
    have hne : body.getLast? ≠ some ';' := ne_of_beq_false h
    rw [closed, closedBody_of_ne hne]

theorem Item.IsVisible.closed {item : Item} (h : item.IsVisible) : item.closed.IsVisible := by
  cases h with
  | glyph hlow hhigh hwidth => exact .glyph hlow hhigh hwidth
  | @style body hbody hroom =>
    have hsub : (closedBody body).Sublist body := by
      rw [closedBody]
      split
      · exact List.dropLast_sublist body
      · exact List.Sublist.refl body
    refine .style ?_ ?_
    · intro c hc
      exact hbody c (hsub.subset hc)
    · exact Nat.lt_of_le_of_lt (hsub.count_le ';') hroom

/-! #### Offline -/

/-- What an item does to a marked up text. -/
def add (penned : Penned) : Item → Penned
  | .glyph c => (penned.1, ⟨c, penned.1⟩ :: penned.2)
  | .style body => (penned.1.applySgr (Csi.ofBody body).closedParams, penned.2)

/-- Of parameters without sub-parameters markup takes all. -/
theorem applyToken_style (penned : Penned) (params : List Nat) :
    applyToken penned (.sequence (params.map ([·])) [] false 'm')
      = (penned.1.applySgr params, penned.2) := by
  have hcodes : sgrCodes (params.map ([·])) = params := by
    rw [sgrCodes, List.filterMap_map]
    exact List.filterMap_some
  show (penned.1.applySgr (sgrCodes (params.map ([·]))), penned.2) = _
  rw [hcodes]

/-- One item leaves the scanner outside sequences, and does to a marked up text what it asks
for. -/
theorem run_item {item : Item} (h : item.IsVisible) (penned : Penned) :
    (Scanner.run .ground item.chars).1 = .ground
      ∧ (Scanner.run .ground item.chars).2.reverse.foldl applyToken penned = add penned item := by
  cases h with
  | @glyph c hlow hhigh hwidth =>
    rw [Item.chars, Scanner.run_glyph hlow hhigh]
    exact ⟨rfl, rfl⟩
  | @style body hbody hroom =>
    rw [Item.chars, Scanner.run_style hbody hroom]
    exact ⟨rfl, applyToken_style penned _⟩

/-- An output does to a marked up text what its items ask for. -/
theorem foldl_applyToken_chars {items : List Item} (h : ∀ item ∈ items, item.IsVisible)
    (penned : Penned) :
    (Scanner.run .ground (chars items)).2.reverse.foldl applyToken penned
      = items.foldl add penned := by
  induction items generalizing penned with
  | nil => rfl
  | cons item items ih =>
    obtain ⟨hitem, hitems⟩ := List.forall_mem_cons.1 h
    obtain ⟨hground, happly⟩ := run_item hitem penned
    have hsplit : chars (item :: items) = item.chars ++ chars items := List.flatMap_cons
    rw [hsplit, Scanner.run_append, hground, List.reverse_append, List.foldl_append, happly,
      ih hitems, List.foldl_cons]

theorem penned_chars {items : List Item} (h : ∀ item ∈ items, item.IsVisible) :
    penned (chars items) = items.foldl add (.plain, []) := foldl_applyToken_chars h _

/-! #### Live -/

/-- A screen of one row holds the characters of a marked up text, and its pen.  As long as
there is room the next character goes after them. -/
structure Holds (width : Nat) (s : Screen) (penned : Penned) : Prop where
  width_eq : s.width = width
  height_eq : s.height = 1
  line_eq : s.line = 0
  pen_eq : s.pen = penned.1
  rows_eq : ∃ dirty, s.rows = [⟨penned.2.reverse, dirty⟩]
  column_eq : penned.2.length < width → s.column = penned.2.length ∧ s.wrapPending = false

variable {width : Nat} {s : Screen} {penned : Penned}

theorem holds_blank (width : Nat) : Holds (max width 1) (.blank width 1) (.plain, []) where
  width_eq := rfl
  height_eq := rfl
  line_eq := rfl
  pen_eq := rfl
  rows_eq := ⟨true, rfl⟩
  column_eq := by
    intro _
    exact ⟨rfl, rfl⟩

/-- A character is stored after the others, in the style of the pen.  There is room in the row, so
nothing is wrapped. -/
theorem Holds.write (h : Holds width s penned) {c : Char} (hwidth : Text.isZeroWidth c = false)
    (hroom : penned.2.length < width) :
    Holds width (s.write c) (penned.1, ⟨c, penned.1⟩ :: penned.2) := by
  obtain ⟨hcolumn, hwrap⟩ := h.column_eq hroom
  obtain ⟨dirty, hrows⟩ := h.rows_eq
  have hstay : s.wrap = s := by rw [Screen.wrap, hwrap, if_neg Bool.false_ne_true]
  have hline : s.clampLine s.line = 0 := by
    rw [Screen.clampLine, h.line_eq, Nat.zero_min]
  have hplace : s.clampColumn s.column = penned.2.length := by
    rw [Screen.clampColumn, h.width_eq, hcolumn]
    omega
  have hwrite : s.write c = (s.put s.column s.line c).advance := by
    rw [Screen.write, hwidth, if_neg Bool.false_ne_true, hstay]
  have hput : (s.put s.column s.line c).rows
      = [⟨(⟨c, penned.1⟩ :: penned.2).reverse, true⟩] := by
    have hlen : penned.2.length = penned.2.reverse.length := List.length_reverse.symm
    rw [Screen.put, Screen.updateRow, hrows, hline, hplace, h.pen_eq]
    show [Row.put ⟨penned.2.reverse, dirty⟩ penned.2.length ⟨c, penned.1⟩] = _
    rw [Row.put, hlen, Row.putCell_length, List.reverse_cons]
  rw [hwrite, Screen.advance]
  by_cases hlast : s.width ≤ s.column + 1
  · have hlast' : (s.put s.column s.line c).width ≤ (s.put s.column s.line c).column + 1 := hlast
    rw [if_pos hlast']
    refine { h with rows_eq := ⟨true, hput⟩, column_eq := ?_ }
    intro hnext
    -- There is no room after the last column.
    rw [List.length_cons] at hnext
    rw [h.width_eq, hcolumn] at hlast
    omega
  · have hlast' : ¬ (s.put s.column s.line c).width ≤ (s.put s.column s.line c).column + 1 := hlast
    rw [if_neg hlast']
    refine { h with rows_eq := ⟨true, hput⟩, column_eq := ?_ }
    intro _
    exact ⟨congrArg (· + 1) hcolumn, hwrap⟩

/-- The choice of a style changes the pen. -/
theorem Holds.setPen (h : Holds width s penned) (pen : Style) :
    Holds width { s with pen := pen } (pen, penned.2) where
  width_eq := h.width_eq
  height_eq := h.height_eq
  line_eq := h.line_eq
  pen_eq := rfl
  rows_eq := h.rows_eq
  column_eq := h.column_eq

/-- One item does to a screen with room what it does, closed, to a marked up text. -/
theorem Holds.exists_feed_item (h : Holds width s penned) {item : Item} (hitem : item.IsVisible)
    (hroom : penned.2.length + [item].countP Item.isGlyph ≤ width) :
    ∃ s', Terminal.feed ⟨s, .ground⟩ item.chars = ⟨s', .ground⟩
      ∧ Holds width s' (add penned item.closed) := by
  cases hitem with
  | @glyph c hlow hhigh hwidth =>
    exact ⟨s.write c, Terminal.feed_glyph s hlow hhigh, h.write hwidth hroom⟩
  | @style body hbody hparams =>
    have hground : (Terminal.mk s .ground).decoder ≠ .controlStringEscape := Decoder.noConfusion
    have hmarks := (mirrors_ofBody hbody hparams).1
    have hcomplete : (Csi.ofBody body).complete 'm'
        = some (.sequence 'm' (Csi.ofBody body).allParams) := by
      rw [Csi.complete, hmarks.isPrivate_eq, hmarks.isUnsupported_eq]
      rfl
    have hfeed := Terminal.feed_control hground (fun c hc => isBody_of_isParam (hbody c hc))
      (show Escape.isFinal 'm' = true from rfl)
    rw [hcomplete] at hfeed
    refine ⟨_, hfeed, ?_⟩
    -- Without its last semicolon the sequence has the parameters that the screen has read.
    have hpen : s.pen.applySgr (Csi.ofBody body).allParams
        = penned.1.applySgr (Csi.ofBody (closedBody body)).closedParams := by
      rw [Style.applySgr_allParams _ hbody hparams, h.pen_eq]
    rw [Item.closed, add, ← hpen]
    exact h.setPen _

/-- An output does to a screen with room what it does, closed, to a marked up text. -/
theorem Holds.exists_feed {items : List Item} (hitems : ∀ item ∈ items, item.IsVisible)
    (h : Holds width s penned) (hroom : penned.2.length + items.countP Item.isGlyph ≤ width) :
    ∃ s', Terminal.feed ⟨s, .ground⟩ (chars items) = ⟨s', .ground⟩
      ∧ Holds width s' ((items.map Item.closed).foldl add penned) := by
  induction items generalizing s penned with
  | nil => exact ⟨s, rfl, h⟩
  | cons item items ih =>
    obtain ⟨hitem, hitems⟩ := List.forall_mem_cons.1 hitems
    have hcount : (item :: items).countP Item.isGlyph
        = [item].countP Item.isGlyph + items.countP Item.isGlyph := by
      rw [← List.countP_append]
      rfl
    obtain ⟨mid, hfirst, hmid⟩ := h.exists_feed_item hitem (by omega)
    -- A style takes no room in the row.
    have hlen : (add penned item.closed).2.length
        = penned.2.length + [item].countP Item.isGlyph := by
      cases item <;> rfl
    obtain ⟨last, hrest, hlast⟩ := ih hitems hmid (by omega)
    have hsplit : chars (item :: items) = item.chars ++ chars items := List.flatMap_cons
    refine ⟨last, ?_, hlast⟩
    rw [hsplit, Terminal.feed_append, hfirst, hrest]

end StyledOutput

namespace LiveSession

open StyledOutput Markup

/-- **Live and offline agree on style.**  On a row with room for all characters a live
session stores every character in the style that markup gives it, and its pen is the one at
the end of the marked up text, if no parameters end in a semicolon.  Otherwise it shows what
markup makes of the output without those semicolons. -/
theorem row_feed_eq_styledCells {items : List Item} (hitems : ∀ item ∈ items, item.IsVisible)
    {width : Nat} (hwidth : items.countP Item.isGlyph ≤ width) :
    ∃ session row, (start width 1).feed (chars items) = .ok session
      ∧ session.screen.row? 0 = some row
      ∧ row.cells = styledCells (chars (items.map Item.closed))
      ∧ session.screen.pen = (penned (chars (items.map Item.closed))).1
      ∧ ((∀ item ∈ items, item.isOpen = false) → row.cells = styledCells (chars items)
        ∧ session.screen.pen = (penned (chars items)).1) := by
  have hclosed : ∀ item ∈ items.map Item.closed, item.IsVisible :=
    List.forall_mem_map.2 fun item hitem => (hitems item hitem).closed
  have hroom : ([] : List Cell).length + items.countP Item.isGlyph ≤ max width 1 := by
    rw [List.length_nil]
    omega
  -- The screen is compared with the closed output first; where nothing is open that is the
  -- output.
  obtain ⟨s, hfeed, hholds⟩ := (holds_blank width).exists_feed hitems hroom
  obtain ⟨dirty, hrows⟩ := hholds.rows_eq
  have hpen := hholds.pen_eq
  rw [← penned_chars hclosed] at hrows hpen
  refine ⟨⟨⟨s, .ground⟩, false⟩, ⟨_, dirty⟩, ?_, ?_, rfl, hpen, ?_⟩
  · exact congrArg (fun terminal => Except.ok (LiveSession.mk terminal false)) hfeed
  · show s.rows[0]? = _
    rw [hrows]
    rfl
  · intro hopen
    have hsame : items.map Item.closed = items :=
      (List.map_congr_left fun item hitem => Item.closed_of_not_isOpen (hopen item hitem)).trans
        (List.map_id items)
    rw [hsame]
    rw [hsame] at hpen
    exact ⟨rfl, hpen⟩

/-- A first, a middle and an only parameter that are empty, on a row without room to spare. -/
theorem row_feed_eq_styledCells_underlined :
    let items : List Item := [.style [';', '1'], .glyph 'a', .style ['3', '1', ';', ';', '4'],
      .glyph 'b', .style [], .glyph 'c']
    (∀ item ∈ items, item.IsVisible) ∧ items.countP Item.isGlyph ≤ 3
      ∧ (∀ item ∈ items, item.isOpen = false)
      ∧ ∃ session row, (start 3 1).feed (chars items) = .ok session
        ∧ session.screen.row? 0 = some row ∧ row.cells = styledCells (chars items)
        ∧ row.cells = [⟨'a', { Style.plain with bold := true }⟩,
          ⟨'b', { Style.plain with underline := true }⟩, ⟨'c', .plain⟩] := by
  intro items
  have hitems : ∀ item ∈ items, item.IsVisible := by
    simp only [items, List.forall_mem_cons, List.not_mem_nil, false_implies, implies_true, and_true]
    exact ⟨.style (List.all_eq_true.1 rfl) (by decide), isVisible_ascii (by decide) rfl,
      .style (List.all_eq_true.1 rfl) (by decide), isVisible_ascii (by decide) rfl,
      .style (List.all_eq_true.1 rfl) (by decide), isVisible_ascii (by decide) rfl⟩
  have hopen : ∀ item ∈ items, item.isOpen = false := by
    simp only [items, List.forall_mem_cons, List.not_mem_nil, false_implies, implies_true, and_true]
    exact ⟨rfl, rfl, rfl, rfl, rfl, rfl⟩
  have hwidth : items.countP Item.isGlyph ≤ 3 := by decide
  obtain ⟨session, row, hfeed, hrow, -, -, hagree⟩ := row_feed_eq_styledCells hitems hwidth
  have hcells := (hagree hopen).1
  refine ⟨hitems, hwidth, hopen, session, row, hfeed, hrow, hcells, hcells.trans ?_⟩
  decide +kernel

/-- **A semicolon at the end of the parameters is where they part.**  The screen drops the
empty parameter after it, and in markup that parameter resets the style. -/
theorem row_feed_ne_styledCells :
    let items : List Item := [.style ['1', ';'], .glyph 'x']
    (∀ item ∈ items, item.IsVisible) ∧ items.countP Item.isGlyph ≤ 1
      ∧ chars items = "\x1b[1;mx".toList
      ∧ ∃ session row, (start 1 1).feed (chars items) = .ok session
        ∧ session.screen.row? 0 = some row
        ∧ row.cells = [⟨'x', { Style.plain with bold := true }⟩]
        ∧ styledCells (chars items) = [⟨'x', .plain⟩]
        ∧ session.screen.pen ≠ (penned (chars items)).1 := by
  intro items
  have hitems : ∀ item ∈ items, item.IsVisible := by
    simp only [items, List.forall_mem_cons, List.not_mem_nil, false_implies, implies_true, and_true]
    exact ⟨.style (List.all_eq_true.1 rfl) (by decide), isVisible_ascii (by decide) rfl⟩
  refine ⟨hitems, by decide, by decide +kernel, _, _, rfl, rfl, ?_, ?_, ?_⟩
  · decide +kernel
  · decide +kernel
  · decide +kernel

end LiveSession

end ConsoleReplay
