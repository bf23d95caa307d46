import ConsoleReplay.Proofs.Markup.Grammar
import ConsoleReplay.Proofs.Session.Conservation

/-!
# Captured text stays text

Whatever is captured, what is made of it stays in the language of markup: by the styles
of the text itself, by the rules of a dialect, and where the markup of several rows is put
together in one frame.  So no captured text opens, closes or extends an element.

## Main results

* `Markup.isNamed_highlightPieces`, `Markup.isNamed_of_styledPieces?` — the pieces that
  either way of marking up gives.
* `Highlighter.wellFormed_render`, `Highlighter.wellFormed_heuristic`,
  `Markup.wellFormed_styled` — every text is written as markup.
* `Segmenter.wellFormed_styledContent` — so is every frame of a session.
* `Dialect.wellFormed_markup` — **captured text stays text** under every dialect.
-/

namespace ConsoleReplay

namespace Markup

/-! ### The pieces of a text -/

theorem isNamed_pieceOf (run : Run) : (pieceOf run).IsNamed := by
  unfold pieceOf
  split <;> trivial

/-- The styles of a text itself give it no class. -/
theorem isNamed_of_styledPieces? {cs : List Char} {pieces : List Piece}
    (h : styledPieces? cs = some pieces) : ∀ piece ∈ pieces, piece.IsNamed := by
  rw [styledPieces?] at h
  split at h
  · rw [← Option.some.inj h]
    exact List.forall_mem_map.2 fun run _ => isNamed_pieceOf run
  · exact absurd h.symm (Option.some_ne_none pieces)

theorem Rule.isNamed_pieceOf {rule : Rule} (hrule : AttributeText rule.name.toList)
    (stretch : Pattern.Stretch) : (rule.pieceOf stretch).IsNamed := by
  unfold Rule.pieceOf
  split
  · exact hrule
  · trivial

/-- One more rule gives its own class to what it finds, and leaves all else alone. -/
theorem Rule.isNamed_apply {rule : Rule} (hrule : AttributeText rule.name.toList)
    {pieces : List Piece} (h : ∀ piece ∈ pieces, piece.IsNamed) :
    ∀ piece ∈ rule.apply pieces, piece.IsNamed := by
  intro piece hpiece
  obtain ⟨before, hbefore, hpiece⟩ := List.mem_flatMap.1 hpiece
  cases before with
  | text cs =>
    obtain ⟨stretch, -, rfl⟩ := List.mem_map.1 hpiece
    exact rule.isNamed_pieceOf hrule stretch
  | styled style cs => exact List.mem_singleton.1 hpiece ▸ h _ hbefore
  | marked name cs => exact List.mem_singleton.1 hpiece ▸ h _ hbefore

/-- The rules give no classes but their own. -/
theorem isNamed_highlightPieces {rules : List Rule}
    (hrules : ∀ rule ∈ rules, AttributeText rule.name.toList) (cs : List Char) :
    ∀ piece ∈ highlightPieces rules cs, piece.IsNamed := by
  -- The statement has to be about any list of pieces, since each rule starts from what the one
  -- before it left.
  have hfold : ∀ pieces : List Piece, (∀ piece ∈ pieces, piece.IsNamed) →
      ∀ piece ∈ rules.foldl (fun pieces rule => rule.apply pieces) pieces, piece.IsNamed := by
    induction rules with
    | nil => exact fun pieces h => h
    | cons rule rules ih =>
      intro pieces h
      rw [List.foldl_cons]
      exact ih (fun r hr => hrules r (List.mem_cons_of_mem rule hr)) _
        (Rule.isNamed_apply (hrules rule (List.mem_cons_self ..)) h)
  refine hfold [.text cs] fun piece hpiece => ?_
  rw [List.mem_singleton.1 hpiece]
  trivial

/-- A text with styles of its own is written as markup. -/
theorem wellFormed_styled {text out : String} (h : styled text = .ok out) :
    WellFormed out.toList := by
  rw [styled] at h
  split at h
  · rename_i pieces hpieces
    rw [← Except.ok.inj h]
    exact wellFormed_write (isNamed_of_styledPieces? hpieces)
  · exact nomatch h

end Markup

open Markup (AttributeText WellFormed)

/-- The classes of a dialect's rules may stand in an attribute. -/
theorem Dialect.attributeText_rules (d : Dialect) :
    ∀ rule ∈ d.rules, AttributeText rule.name.toList := by
  intro rule h
  simp only [rules, List.mem_append] at h
  rcases h with (h | h) | h
  case inl.inr =>
    obtain ⟨pattern, -, rfl⟩ := Option.map_eq_some_iff.1 (Option.mem_toList.1 h)
    exact (by decide : AttributeText "keyword".toList)
  -- The other rules are the same for all dialects: their names are a list of literals.
  all_goals
    have hname := List.mem_map_of_mem (f := Markup.Rule.name) h
    generalize rule.name = name at hname
    revert name
    decide

namespace Highlighter

variable {h : Highlighter}

/-- The rules write every text as markup. -/
theorem wellFormed_heuristic (hrules : ∀ rule ∈ h.rules, AttributeText rule.name.toList)
    (text : String) : WellFormed (h.heuristic text).toList :=
  Markup.wellFormed_write (Markup.isNamed_highlightPieces hrules text.toList)

/-- Every captured text is written as markup. -/
theorem wellFormed_render (hrules : ∀ rule ∈ h.rules, AttributeText rule.name.toList)
    (text : String) : WellFormed (h.render text).toList := by
  rw [render, pieces]
  cases hpieces : Markup.styledPieces? text.toList with
  | none => exact Markup.wellFormed_write (Markup.isNamed_highlightPieces hrules _)
  | some pieces => exact Markup.wellFormed_write (Markup.isNamed_of_styledPieces? hpieces)

end Highlighter

namespace Segmenter

variable {seg : Segmenter}

/-- The frame of a row shows markup; that of a row that cannot be analysed shows none. -/
theorem wellFormed_frameOf (hrules : ∀ rule ∈ seg.highlighter.rules, AttributeText rule.name.toList)
    (start : Instant) (row : LogRow) :
    WellFormed (seg.frameOf start row).styledContent.toList := by
  cases hfit : seg.isUnfit row with
  | true =>
    rw [frameOf_of_unfit hfit]
    exact .nil
  | false =>
    rw [frameOf_of_fit hfit]
    exact Highlighter.wellFormed_render hrules _

/-- Every frame of a session shows markup, whether it was merged or not. -/
theorem wellFormed_styledContent
    (hrules : ∀ rule ∈ seg.highlighter.rules, AttributeText rule.name.toList)
    (rows : List LogRow) :
    ∀ f ∈ (seg.segment rows).frames, WellFormed f.styledContent.toList := by
  intro f hf
  rw [segment, ParsedSession.ofFrames, refine_eq, frames_inOrder] at hf
  refine forall_mergeFragments (P := fun f => WellFormed f.styledContent.toList) ?_ seg.policy ?_ f
    (List.mem_of_mem_filter hf)
  · intro f g hf hg
    rw [Frame.append, String.toList_append]
    exact hf.append hg
  · exact List.forall_mem_map.2 fun row _ => wellFormed_frameOf hrules _ row

end Segmenter

/-- **Captured text stays text.**  Under every dialect all that is written of a text is
markup, and so is what every frame of every session shows, whatever the session is cut
by. -/
theorem Dialect.wellFormed_markup (d : Dialect) :
    (∀ text, WellFormed ((Highlighter.ofDialect d).render text).toList) ∧
    (∀ text, WellFormed ((Highlighter.ofDialect d).heuristic text).toList) ∧
    (∀ text out, Markup.styled text = .ok out → WellFormed out.toList) ∧
    (∀ (recognised : Dialect) (policy : Policy) (rowBytes : Nat) (rows : List LogRow),
      ∀ f ∈ (Segmenter.segment ⟨recognised, policy, .ofDialect d, rowBytes⟩ rows).frames,
        WellFormed f.styledContent.toList) :=
  ⟨Highlighter.wellFormed_render d.attributeText_rules,
    Highlighter.wellFormed_heuristic d.attributeText_rules,
    fun _ _ => Markup.wellFormed_styled,
    fun _ _ _ rows => Segmenter.wellFormed_styledContent d.attributeText_rules rows⟩

/-- A text with a style of its own, and one frame of a text that a rule marks and a text
in bold, all of them with characters that markup is made of. -/
theorem Dialect.wellFormed_markup_fragments :
    (∃ out, Markup.styled "\x1b[1m<b>" = .ok out ∧ WellFormed out.toList) ∧
    ∃ f ∈ (Segmenter.segment ⟨.named "console", .routerOs {}, .ofDialect (.named "console"), 64⟩
        [⟨1, .epoch, false, "error </span>"⟩, ⟨2, .epoch, false, "\x1b[1m\"&"⟩]).frames,
      f.styledContent = "<span class=\"hl-error\">error</span> &lt;/span&gt;"
        ++ "<span style=\"font-weight:bold\">&quot;&amp;</span>"
      ∧ WellFormed f.styledContent.toList := by
  have hstyled : Markup.styled "\x1b[1m<b>"
      = .ok "<span style=\"font-weight:bold\">&lt;b&gt;</span>" := rfl
  -- The sort does not reduce, so it is taken away before the session is evaluated.
  have hsorted : LogRow.inOrder
      [⟨1, .epoch, false, "error </span>"⟩, ⟨2, .epoch, false, "\x1b[1m\"&"⟩]
        = [⟨1, .epoch, false, "error </span>"⟩, ⟨2, .epoch, false, "\x1b[1m\"&"⟩] :=
    List.mergeSort_of_pairwise (by decide)
  have hframe : ∃ f ∈ (Segmenter.segment
      ⟨.named "console", .routerOs {}, .ofDialect (.named "console"), 64⟩
        [⟨1, .epoch, false, "error </span>"⟩, ⟨2, .epoch, false, "\x1b[1m\"&"⟩]).frames,
      f.styledContent = "<span class=\"hl-error\">error</span> &lt;/span&gt;"
        ++ "<span style=\"font-weight:bold\">&quot;&amp;</span>" := by
    rw [Segmenter.segment, hsorted]
    decide +kernel
  obtain ⟨f, hf, hcontent⟩ := hframe
  have hmarkup := Dialect.wellFormed_markup (.named "console")
  exact ⟨⟨_, hstyled, hmarkup.2.2.1 _ _ hstyled⟩, f, hf, hcontent, hmarkup.2.2.2 _ _ _ _ f hf⟩

end ConsoleReplay
