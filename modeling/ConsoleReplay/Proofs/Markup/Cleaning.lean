import ConsoleReplay.Markup.Rule
import ConsoleReplay.Proofs.Capture.Rereading

/-!
# Cleaning changes nothing that is seen

A reader of captured text looks at its characters, its line controls and its styles:
whatever else is read from it leaves both the plain text and the styled text as they
are.  Cleaning drops nothing but that, so a text and what cleaning leaves of it are seen
in one way.

## Main results

* `Capture.foldl_tokens_cleanChars` — a reader for whom dropped tokens do nothing reads
  cleaned text as the text it was made from.
* `Capture.plainChars_cleanChars`, `Markup.penned_cleanChars` — so do the reader of plain
  text and the reader of styles.
* `Capture.seen_clean` — **cleaning changes nothing that is seen**.
-/

namespace ConsoleReplay

open Capture (Token tokens cleanChars clean toList_clean)

namespace Capture

/-- A reader for whom the dropped tokens do nothing reads cleaned text as the text it was
made from. -/
theorem foldl_tokens_cleanChars {α : Type} {read : α → Token → α}
    (h : ∀ state t, t.isKept = false → read state t = state) (cs : List Char) (state : α) :
    (tokens (cleanChars cs)).foldl read state = (tokens cs).foldl read state := by
  have hread : (fun state t => if Token.isKept t = true then read state t else state) = read := by
    funext state t
    cases hkept : t.isKept with
    | false => rw [if_neg Bool.false_ne_true, h state t hkept]
    | true => rw [if_pos rfl]
  rw [tokens_cleanChars, List.foldl_filter, hread]

/-- What cleaning drops does not edit a line. -/
theorem LineEditor.apply_of_not_isKept (e : LineEditor) {t : Token} (h : t.isKept = false) :
    e.apply t = e := by
  cases t with
  | glyph c => exact absurd h.symm Bool.false_ne_true
  | control c =>
    change e.control c = e
    unfold LineEditor.control
    split
    case h_5 => rfl
    -- The other cases are line controls, which are kept.
    all_goals exact absurd h (by decide)
  | sequence params intermediates overfull final => rfl

/-- The plain text of a text is that of its cleaned form. -/
theorem plainChars_cleanChars (cs : List Char) : plainChars (cleanChars cs) = plainChars cs := by
  rw [plainChars, plainChars, foldl_tokens_cleanChars fun e _ => e.apply_of_not_isKept]

end Capture

namespace Markup

/-- What cleaning drops is neither shown nor changes the style of what follows.  Both readers of
tokens look only at what cleaning keeps, which is why they agree on a text and its cleaned form. -/
theorem applyToken_of_not_isKept (text : Penned) {t : Token} (h : t.isKept = false) :
    applyToken text t = text := by
  cases t with
  | glyph c => exact absurd h.symm Bool.false_ne_true
  | control c =>
    have hc : ¬ (c == '\n' || c == '\t') = true := by
      rw [Bool.or_eq_true, beq_iff_eq, beq_iff_eq]
      rintro (rfl | rfl) <;> exact absurd h (by decide)
    simp only [applyToken, if_neg hc]
  | sequence params intermediates overfull final =>
    rw [Token.isKept, Option.isSome_eq_false_iff, Option.isNone_iff_eq_none] at h
    simp only [applyToken, h]
    all_goals exact fun _ => Token.noConfusion

/-- The styles of a text are those of its cleaned form. -/
theorem penned_cleanChars (cs : List Char) : penned (cleanChars cs) = penned cs :=
  Capture.foldl_tokens_cleanChars (fun text _ => applyToken_of_not_isKept text) cs _

theorem styledPieces?_cleanChars (cs : List Char) :
    styledPieces? (cleanChars cs) = styledPieces? cs := by
  rw [styledPieces?, styledPieces?, styledCells, styledCells, penned_cleanChars]

end Markup

/-- Every highlighter takes a text and its cleaned form for the same pieces. -/
theorem Highlighter.pieces_cleanChars (h : Highlighter) (cs : List Char) :
    h.pieces (cleanChars cs) = h.pieces cs := by
  rw [pieces, pieces, Markup.styledPieces?_cleanChars, Capture.plainChars_cleanChars]

/-- **Cleaning changes nothing that is seen.**  A text and its cleaned form have the same
plain text and the same markup of their own styles, or neither has any, and under every
dialect they are marked up in the same way. -/
theorem Capture.seen_clean (text : String) :
    plainText (clean text) = plainText text ∧
    Markup.styled (clean text) = Markup.styled text ∧
    ∀ d : Dialect,
      (Highlighter.ofDialect d).render (clean text) = (Highlighter.ofDialect d).render text := by
  refine ⟨?_, ?_, fun d => ?_⟩
  · rw [plainText, plainText, toList_clean, plainChars_cleanChars]
  · rw [Markup.styled, Markup.styled, toList_clean, Markup.styledPieces?_cleanChars]
  · rw [Highlighter.render, Highlighter.render, toList_clean, Highlighter.pieces_cleanChars]

end ConsoleReplay
