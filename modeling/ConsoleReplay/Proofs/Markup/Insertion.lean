import ConsoleReplay.Markup.Styled
import ConsoleReplay.Proofs.Capture.Parameters
import ConsoleReplay.Proofs.Style.Parts

/-!
# Extended colours with colons

An extended colour may be written with semicolons, where each of its numbers is a parameter, or with
colons, where all of them are one parameter.  In markup a style is chosen by the first value of each
parameter, so of a colour with colons nothing is left but 38 or 48.  It should do nothing at all, as
a colour with semicolons does.  But the look ahead does not know how a colour was written, and a 5
or a 2 behind it counts as an argument of its own.  So a colour with colons that is put in does harm
in two places:

* in front of a parameter that begins with 5 or 2, which it takes along, and one or three more;
* among the parameters that a colour with colons in front of it takes along in this way.  There it
  is taken for one of them, and the last of them gets back the meaning that it had lost.

Anywhere else, but inside a colour with semicolons, the parameters keep their meaning.

## Main definitions

* `ColonColour` — an extended colour with colons; `ColonColour.chars` — how it is written.
* `Markup.codesIn text` — the codes that a text of parameters stands for.

## Main results

* `Capture.Sequence.finish_insert` — a sequence with a colour put in is completed.
* `Markup.applySgr_insert` — what a colour with colons does where no other reaches over.
* `Markup.applySgr_insert_reached` — what it does where one reaches over.
* `Markup.styledCells_insert` — **a colour with colons shows nowhere**, unless another reaches over
  its place or the next parameter begins with 5 or 2.
* `Markup.styledCells_insert_before_blink` — where it begins with 5.
-/

namespace ConsoleReplay

open Capture (Token tokens valueText isDigit_of_mem_valueText isSeparator maxValues)
open Capture.Sequence (fieldValue paramsOf)

/-- An extended colour that is written with colons: a palette index, or red, green and blue, with an
empty colour space in front of them or without. -/
inductive ColonColour
  | palette (ground : Ground) (index : Nat)
  | direct (ground : Ground) (red green blue : Nat)
  | directInSpace (ground : Ground) (red green blue : Nat)

namespace ColonColour

/-- What it colours. -/
def ground : ColonColour → Ground
  | palette ground _ | direct ground .. | directInSpace ground .. => ground

/-- The values after the first one, of which one may be left out. -/
def arguments : ColonColour → List (Option Nat)
  | palette _ index => [some 5, some index]
  | direct _ red green blue => [some 2, some red, some green, some blue]
  | directInSpace _ red green blue => [some 2, none, some red, some green, some blue]

/-- All values as they are written.  The space of a colour may be left out and is then an empty
field. -/
def fields (colour : ColonColour) : List (List Char) :=
  (some colour.ground.leader :: colour.arguments).map fun value? => (value?.map valueText).getD []

/-- How the colour is written. -/
def chars (colour : ColonColour) : List Char := List.intercalate [':'] colour.fields

/-- The values of the colour, each held at its bound. -/
def values (colour : ColonColour) : List Nat := colour.fields.map fieldValue

theorem isDigit_of_mem_fields (colour : ColonColour) :
    ∀ field ∈ colour.fields, ∀ c ∈ field, c.isDigit = true := by
  refine List.forall_mem_map.2 ?_
  rintro (_ | n) _
  · exact List.forall_mem_nil _
  · exact isDigit_of_mem_valueText

/-- The first value of the colour is the code that begins one. -/
theorem head?_values (colour : ColonColour) : colour.values.head? = some colour.ground.leader := by
  have hvalue : fieldValue (valueText colour.ground.leader) = colour.ground.leader := by
    cases colour.ground <;> decide +kernel
  rw [values, fields, List.map_cons, List.map_cons, List.head?_cons, Option.map_some,
    Option.getD_some, hvalue]

/-- The colour is written in digits and colons. -/
theorem isDigit_or_eq_of_mem_chars (colour : ColonColour) :
    ∀ c ∈ colour.chars, c.isDigit = true ∨ c = ':' := by
  have hall (fields : List (List Char)) (h : ∀ field ∈ fields, ∀ c ∈ field, c.isDigit = true) :
      ∀ c ∈ List.intercalate [':'] fields, c.isDigit = true ∨ c = ':' := by
    -- By the recursion of the joining: a separator stands in front of every field but the first.
    induction fields with
    | nil => exact List.forall_mem_nil _
    | cons field fields ih =>
      obtain ⟨hfield, hfields⟩ := List.forall_mem_cons.1 h
      cases fields with
      | nil =>
        rw [List.intercalate_singleton]
        exact fun c hc => .inl (hfield c hc)
      | cons next fields =>
        intro c hc
        rw [List.intercalate_cons_cons, List.mem_append, List.mem_append] at hc
        rcases hc with (hc | hc) | hc
        · exact .inl (hfield c hc)
        · exact .inr (List.mem_singleton.1 hc)
        · exact ih hfields c hc
  exact hall colour.fields colour.isDigit_of_mem_fields

end ColonColour

/-! ### A sequence with a colour put in

The place is between two parameters.  The digits and colons of the colour are gathered in one
parameter there, and the semicolon behind it leads back to a place between two parameters. -/

namespace Capture

namespace Sequence

/-- **A sequence with a colour put in** at a place between two parameters is completed with one more
parameter at that place. -/
theorem finish_insert {seq : Sequence} (hseq : seq.IsBetween) (colour : ColonColour)
    {back : List Char}
    (hroom : seq.count + colour.fields.length + back.countP isSeparator < maxValues)
    (final : Char) :
    ((colour.chars ++ ';' :: back).foldl read seq).finish final
      = .sequence (seq.params ++ colour.values :: paramsOf back) seq.intermediates seq.overfull
          final := by
  -- The colour and the semicolon behind it are one pushed parameter; after it the place is again
  -- between two parameters, so the rest is read as it would be anyway.
  have hcolour : (colour.chars ++ [';']).foldl read seq = seq.push colour.values :=
    foldl_read_fields hseq.value_eq (List.cons_ne_nil _ _) colour.isDigit_of_mem_fields (by omega)
  have hplace : (seq.push colour.values).IsBetween := ⟨rfl, rfl⟩
  have hcount : (seq.push colour.values).count + back.countP isSeparator < maxValues := by
    rw [push, ColonColour.values, List.length_map]
    exact hroom
  have hsplit : colour.chars ++ ';' :: back = (colour.chars ++ [';']) ++ back := by simp
  rw [hsplit, List.foldl_append, hcolour, finish_foldl_read hplace hcount]
  simp [push, hseq.group_eq]

end Sequence

namespace Scanner

/-- No control characters are put in with a colour. -/
theorem lowControls_insert (colour : ColonColour) (back : List Char) :
    lowControls (colour.chars ++ ';' :: back) = lowControls back := by
  have hnone : ∀ c ∈ colour.chars, ¬ isLowControl c = true := by
    intro c hc
    rcases colour.isDigit_or_eq_of_mem_chars c hc with hdigit | rfl
    · have hcode := Text.isDigit_iff.1 hdigit
      exact not_isLowControl (by omega)
    · exact not_isLowControl (by decide)
  have hcolour : lowControls colour.chars = [] := by
    rw [lowControls, List.filter_eq_nil_iff.2 hnone, List.map_nil]
  rw [lowControls_append, hcolour, List.nil_append]
  rfl

/-- A sequence goes on through a colour. -/
theorem goesOn_insert (colour : ColonColour) {back : List Char}
    (hback : ∀ c ∈ back, goesOn c = true) :
    ∀ c ∈ colour.chars ++ ';' :: back, goesOn c = true := by
  refine List.forall_mem_append.2 ⟨?_, List.forall_mem_cons.2 ⟨by decide, hback⟩⟩
  intro c hc
  rcases colour.isDigit_or_eq_of_mem_chars c hc with hdigit | rfl
  · simp [goesOn, hdigit]
  · decide

end Scanner

end Capture

/-! ### Styles -/

namespace Markup

open Capture (Scanner Sequence)

/-- The codes that a text of parameters stands for. -/
def codesIn (text : List Char) : List Nat := sgrCodes (paramsOf text)

theorem codesIn_ne_nil {text : List Char} (h : text.countP isSeparator < maxValues) :
    codesIn text ≠ [] := by
  obtain ⟨params, group, value, hparams⟩ := Sequence.exists_paramsOf_eq h
  rw [codesIn, hparams, sgrCodes, List.filterMap_append]
  refine List.append_ne_nil_of_right_ne_nil _ ?_
  cases group <;> exact List.cons_ne_nil _ _

/-- Of a colour with colons only the code that begins one is left. -/
theorem sgrCodes_insert (front : List (List Nat)) (colour : ColonColour) (back : List Char) :
    sgrCodes (front ++ colour.values :: paramsOf back)
      = sgrCodes front ++ colour.ground.leader :: codesIn back := by
  rw [sgrCodes, List.filterMap_append, List.filterMap_cons_some colour.head?_values]
  rfl

/-- **What a colour with colons does among other codes.**  At a place that no colour reaches over it
takes along what looks like its arguments, and does nothing else. -/
theorem applySgr_insert (pen : Style) {front : List (List Nat)} {back : List Char}
    (colour : ColonColour) (hplace : Style.overhang (codesIn back) 0 (sgrCodes front) = 0) :
    pen.applySgr (sgrCodes (front ++ colour.values :: paramsOf back))
      = (pen.applyCodes (sgrCodes front)).applyCodes
          ((codesIn back).drop (Style.extendedLength (codesIn back))) := by
  rw [sgrCodes_insert,
    Style.applySgr_of_ne_nil _ (List.append_ne_nil_of_right_ne_nil _ (List.cons_ne_nil _ _)),
    Style.applyCodes_append_leader pen colour.ground hplace]

/-- **A colour with colons among the arguments of another** gives the last of them its meaning back.
Whether the other one was written with semicolons or with colons makes no difference. -/
theorem applySgr_insert_reached (pen : Style) {front : List (List Nat)} (back : List Char)
    (colour : ColonColour) {k : Nat} (hreached : Style.overhang [] 0 (sgrCodes front) = k + 1) :
    pen.applySgr (sgrCodes (front ++ paramsOf back))
        = (pen.applyCodes (sgrCodes front)).applyCodes ((codesIn back).drop (k + 1))
      ∧ pen.applySgr (sgrCodes (front ++ colour.values :: paramsOf back))
        = (pen.applyCodes (sgrCodes front)).applyCodes ((codesIn back).drop k) := by
  -- An empty front would reach nowhere, so neither of the two lists of codes is the empty one
  -- that resets.
  have hfront : sgrCodes front ≠ [] := by
    intro hnil
    rw [hnil] at hreached
    exact Nat.succ_ne_zero k hreached.symm
  have hcodes : sgrCodes (front ++ paramsOf back) = sgrCodes front ++ codesIn back :=
    List.filterMap_append
  rw [sgrCodes_insert, hcodes,
    Style.applySgr_of_ne_nil _ (List.append_ne_nil_of_left_ne_nil hfront _),
    Style.applySgr_of_ne_nil _ (List.append_ne_nil_of_left_ne_nil hfront _)]
  exact Style.applyCodes_append_leader_reached pen (codesIn back) colour.ground hreached

/-- A 4 that is lost behind a colour with colons and a 5 underlines once another such colour stands
in front of it. -/
example : styledCells "\x1b[38:5:9;5;4mx".toList = [⟨'x', .plain⟩]
    ∧ styledCells "\x1b[38:5:9;5;48:5:1;4mx".toList
      = [⟨'x', { Style.plain with underline := true }⟩] := by decide +kernel

theorem extendedLength_eq_zero {codes : List Nat} (hfive : codes.head? ≠ some 5)
    (htwo : codes.head? ≠ some 2) : Style.extendedLength codes = 0 := by
  unfold Style.extendedLength
  split
  · exact absurd rfl hfive
  · exact absurd rfl htwo
  · rfl

/-- Sequences that do the same to every pen do the same to a text.  It need not be the same
sequence, nor have as many parameters. -/
theorem applyToken_sequence_congr {params params' : List (List Nat)}
    (h : ∀ pen : Style, pen.applySgr (sgrCodes params) = pen.applySgr (sgrCodes params'))
    (text : Penned) (intermediates : List Char) (overfull : Bool) (final : Char) :
    applyToken text (.sequence params intermediates overfull final)
      = applyToken text (.sequence params' intermediates overfull final) := by
  by_cases hsgr : intermediates = [] ∧ overfull = false ∧ final = 'm'
  · obtain ⟨rfl, rfl, rfl⟩ := hsgr
    exact congrArg (·, text.2) (h text.1)
  · -- Other sequences do nothing to a text.
    have hnone (params : List (List Nat)) :
        applyToken text (.sequence params intermediates overfull final) = text := by
      have hcodes : (Token.sequence params intermediates overfull final).sgr? = none := by
        unfold Token.sgr?
        split
        · next heq =>
          obtain ⟨-, hintermediates, hoverfull, hfinal⟩ := Token.sequence.inj heq
          exact absurd ⟨hintermediates, hoverfull, hfinal⟩ hsgr
        · rfl
      simp only [applyToken, hcodes]
    rw [hnone, hnone]

/-- **A colour with colons shows nowhere.**  Put in between two parameters of a sequence that
chooses a style, in a text of any kind, it changes neither a character nor the style of one, as long
as there is room for its values, no colour in front of the place reaches over it, and the next
parameter begins neither with 5 nor with 2.  A colour in front of it counts by the codes that are
left of it: one with colons reaches over a 5 or 2 behind it and what follows, as one with semicolons
does. -/
theorem styledCells_insert {before back : List Char} {seq : Sequence} {colour : ColonColour}
    (hbefore : (Scanner.run .ground before).1 = .csiParam seq) (hseq : seq.IsBetween)
    (hback : ∀ c ∈ back, Scanner.goesOn c = true)
    (hroom : seq.count + colour.fields.length + back.countP isSeparator < maxValues)
    (hplace : Style.overhang (codesIn back) 0 (sgrCodes seq.params) = 0)
    (hfive : (codesIn back).head? ≠ some 5) (htwo : (codesIn back).head? ≠ some 2)
    (after : List Char) :
    styledCells (before ++ (colour.chars ++ ';' :: back ++ 'm' :: after))
        = styledCells (before ++ (back ++ 'm' :: after))
      ∧ styled (.ofList (before ++ (colour.chars ++ ';' :: back ++ 'm' :: after)))
        = styled (.ofList (before ++ (back ++ 'm' :: after))) := by
  -- Of the colour only its leading value is left as a code.  It takes no code along because the
  -- next one is neither 5 nor 2, and with nothing behind it no colour is chosen.
  have hpen (pen : Style) :
      pen.applySgr (sgrCodes (seq.params ++ colour.values :: paramsOf back))
        = pen.applySgr (sgrCodes (seq.params ++ paramsOf back)) := by
    have hcodes : sgrCodes (seq.params ++ paramsOf back) = sgrCodes seq.params ++ codesIn back :=
      List.filterMap_append
    have hne : codesIn back ≠ [] := codesIn_ne_nil (by omega)
    rw [applySgr_insert pen colour hplace, extendedLength_eq_zero hfive htwo, List.drop_zero,
      hcodes, Style.applySgr_of_ne_nil _ (List.append_ne_nil_of_right_ne_nil _ hne),
      Style.applyCodes_append pen hplace]
  have hread : Scanner.run .ground before = (.csiParam seq, (Scanner.run .ground before).2) := by
    rw [← hbefore]
  -- The texts have the same tokens but for the parameters of this one sequence, and the pen is
  -- the only thing that sees these.
  have hpenned : penned (before ++ (colour.chars ++ ';' :: back ++ 'm' :: after))
      = penned (before ++ (back ++ 'm' :: after)) := by
    rw [penned, penned, Capture.tokens_around hread hback,
      Capture.tokens_around hread (Scanner.goesOn_insert colour hback),
      Sequence.finish_insert hseq colour hroom, Sequence.finish_foldl_read hseq (by omega),
      Scanner.lowControls_insert]
    simp only [List.foldl_append, List.foldl_cons, applyToken_sequence_congr hpen]
  have hcells : styledCells (before ++ (colour.chars ++ ';' :: back ++ 'm' :: after))
      = styledCells (before ++ (back ++ 'm' :: after)) := by
    rw [styledCells, hpenned, styledCells]
  refine ⟨hcells, ?_⟩
  rw [styled, styled, String.toList_ofList, String.toList_ofList, styledPieces?, styledPieces?,
    hcells]

/-- A colour with large numbers and an empty colour space, put in behind a colour with semicolons,
in a sequence with a line feed and a tab inside. -/
theorem styledCells_insert_behind_palette :
    let before := "a\x1b[31;38;5;1\n;".toList
    let back := "3\t;4".toList
    let after := "b\x1b[mc".toList
    let seq : Sequence := ⟨[[31], [38], [5], [1]], [], 0, 4, [], false⟩
    let colour : ColonColour := .directInSpace .background 300 70000 0
    (Scanner.run .ground before).1 = .csiParam seq ∧ seq.IsBetween
      ∧ (∀ c ∈ back, Scanner.goesOn c = true)
      ∧ seq.count + colour.fields.length + back.countP isSeparator < maxValues
      ∧ Style.overhang (codesIn back) 0 (sgrCodes seq.params) = 0
      ∧ (codesIn back).head? ≠ some 5 ∧ (codesIn back).head? ≠ some 2
      ∧ before ++ (colour.chars ++ ';' :: back ++ 'm' :: after)
        = "a\x1b[31;38;5;1\n;48:2::300:70000:0;3\t;4mb\x1b[mc".toList
      ∧ styledCells "a\x1b[31;38;5;1\n;48:2::300:70000:0;3\t;4mb\x1b[mc".toList
        = [⟨'a', .plain⟩, ⟨'\n', .plain⟩, ⟨'\t', .plain⟩,
          ⟨'b', ⟨.normal .red, .default, false, true, true⟩⟩, ⟨'c', .plain⟩] := by
  intro before back after seq colour
  have hbefore : (Scanner.run .ground before).1 = .csiParam seq := by decide +kernel
  have hseq : seq.IsBetween :=
    Scanner.isBetween_of_run "a\x1b[31;38;5;1\n".toList hbefore (by decide)
  have hback : ∀ c ∈ back, Scanner.goesOn c = true := List.all_eq_true.1 (by decide +kernel)
  have hroom : seq.count + colour.fields.length + back.countP isSeparator < maxValues := by
    decide +kernel
  have hplace : Style.overhang (codesIn back) 0 (sgrCodes seq.params) = 0 := by decide +kernel
  have hfive : (codesIn back).head? ≠ some 5 := by decide +kernel
  have htwo : (codesIn back).head? ≠ some 2 := by decide +kernel
  have htext : before ++ (colour.chars ++ ';' :: back ++ 'm' :: after)
      = "a\x1b[31;38;5;1\n;48:2::300:70000:0;3\t;4mb\x1b[mc".toList := by decide +kernel
  have hsame := (styledCells_insert hbefore hseq hback hroom hplace hfive htwo after).1
  rw [htext] at hsame
  refine ⟨hbefore, hseq, hback, hroom, hplace, hfive, htwo, htext, hsame.trans ?_⟩
  decide +kernel

/-- **In front of a 5 a colour with colons takes the attribute after it along.**  The 5 would be a
blink, which is not shown, and the 4 underlines. -/
theorem styledCells_insert_before_blink :
    let before := "\x1b[1;".toList
    let back := "5;4".toList
    let seq : Sequence := ⟨[[1]], [], 0, 1, [], false⟩
    let colour : ColonColour := .palette .foreground 9
    (Scanner.run .ground before).1 = .csiParam seq ∧ seq.IsBetween
      ∧ (∀ c ∈ back, Scanner.goesOn c = true)
      ∧ seq.count + colour.fields.length + back.countP isSeparator < maxValues
      ∧ Style.overhang (codesIn back) 0 (sgrCodes seq.params) = 0
      ∧ before ++ (colour.chars ++ ';' :: back ++ 'm' :: ['x']) = "\x1b[1;38:5:9;5;4mx".toList
      ∧ before ++ (back ++ 'm' :: ['x']) = "\x1b[1;5;4mx".toList
      ∧ styledCells "\x1b[1;38:5:9;5;4mx".toList = [⟨'x', { Style.plain with bold := true }⟩]
      ∧ styledCells "\x1b[1;5;4mx".toList
        = [⟨'x', { Style.plain with bold := true, underline := true }⟩] := by
  refine ⟨?_, ⟨rfl, rfl⟩, List.all_eq_true.1 ?_, ?_, ?_, ?_, ?_, ?_, ?_⟩
  all_goals decide +kernel

end Markup

end ConsoleReplay
