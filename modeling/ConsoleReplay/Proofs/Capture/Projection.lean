import ConsoleReplay.Proofs.Capture.Editing
import ConsoleReplay.Proofs.Capture.NormalForm
import ConsoleReplay.Proofs.Capture.Visible
import Mathlib.Data.List.Basic

/-!
# Plain text is a projection

Plain text is what a reader sees of a text, and seen again it is what it was: of the control
characters only line feeds and tabs stand in it, and there is nothing left in it to carry out.  The
lines are neither made nor lost on the way.  Whatever is rewritten, rewriting stays within the line
in progress, and a line feed that was captured ends that line for good.

## Main definitions

* `IsPlain cs` — a text in which only line feeds and tabs are control characters.
* `LineEditor.OneLine e` — no line feed stands in the line in progress.

## Main results

* `LineEditor.OneLine.apply`, `LineEditor.OneLine.foldl_apply` — what a token and a text do to the
  number of finished lines.
* `LineEditor.reversed_foldl_apply_of_isPlain` — a plain text is written as it is.
* `plainText_eq_self_iff` — the plain texts are those that stay what they are.
* `plainText_projects` — **plain text is a projection**.
-/

namespace ConsoleReplay.Capture

/-- A text in which only line feeds and tabs are control characters. -/
def IsPlain (cs : List Char) : Prop := ∀ c ∈ cs, isControl c = true → c = '\n' ∨ c = '\t'

/-- Plain text is plain, whatever was captured. -/
theorem isPlain_plainChars (cs : List Char) : IsPlain (plainChars cs) := by
  intro c hc hcontrol
  rcases mem_plainChars hc with hshown | rfl | ⟨rfl, -⟩
  · rw [hcontrol] at hshown
    cases hshown
  · exact .inr rfl
  · exact .inl rfl

theorem IsPlain.of_cons {c : Char} {cs : List Char} (h : IsPlain (c :: cs)) : IsPlain cs :=
  fun d hd => h d (List.mem_cons_of_mem c hd)

theorem IsPlain.escape_notMem {cs : List Char} (h : IsPlain cs) : '\x1b' ∉ cs := by
  intro hescape
  rcases h '\x1b' hescape rfl with heq | heq <;> exact absurd heq (by decide)

/-! ### Line feeds

The text of an editor has as many line feeds as the tokens that it was made from: the line in
progress has none, and the lines that are finished are never changed. -/

namespace LineEditor

/-- No line feed stands in the line in progress, so the finished lines can be told from it. -/
structure OneLine (e : LineEditor) : Prop where
  before : '\n' ∉ e.before
  after : '\n' ∉ e.after

variable {e : LineEditor}

theorem oneLine_empty : empty.OneLine := ⟨List.not_mem_nil, List.not_mem_nil⟩

/-- All line feeds of a text in the making end finished lines. -/
theorem OneLine.count_reversed (h : e.OneLine) : e.reversed.count '\n' = e.done.count '\n' := by
  have hbefore : e.before.count '\n' = 0 := List.count_eq_zero.2 h.before
  have hafter : e.after.count '\n' = 0 := List.count_eq_zero.2 h.after
  rw [reversed, List.count_append, List.count_append, List.count_reverse, hbefore, hafter]
  omega

theorem OneLine.write (h : e.OneLine) {c : Char} (hc : c ≠ '\n') : (e.write c).OneLine where
  before := by
    rintro (_ | ⟨_, hmem⟩)
    · exact hc rfl
    · exact h.before hmem
  after := fun hmem => h.after (List.mem_of_mem_tail hmem)

theorem OneLine.carriageReturn (h : e.OneLine) : e.carriageReturn.OneLine where
  before := List.not_mem_nil
  after := by
    intro hmem
    rcases List.mem_append.1 hmem with hbefore | hafter
    · exact h.before (List.mem_reverse.1 hbefore)
    · exact h.after hafter

/-- Going back changes nothing but where the line is parted, and may shorten it. -/
theorem OneLine.backspace (h : e.OneLine) : e.backspace.OneLine where
  before := fun hmem => h.before (List.mem_of_mem_tail hmem)
  after := by
    have hkept {cs : List Char} (hcs : '\n' ∉ cs) : '\n' ∉ if cs.length = 1 then [] else cs := by
      split
      · exact List.not_mem_nil
      · exact hcs
    refine hkept ?_
    -- A character that is gone back over stands behind the cursor then.
    cases hbefore : e.before with
    | nil => exact h.after
    | cons c before =>
      intro hmem
      rcases List.mem_cons.1 hmem with rfl | hmem
      · exact h.before (by rw [hbefore]; exact List.mem_cons_self)
      · exact h.after hmem

/-- A line feed ends the line in progress, and nothing else does. -/
theorem OneLine.control (h : e.OneLine) (c : Char) :
    (e.control c).OneLine
      ∧ (e.control c).done.count '\n' = e.done.count '\n' + if c = '\n' then 1 else 0 := by
  unfold LineEditor.control
  split
  · refine ⟨⟨List.not_mem_nil, List.not_mem_nil⟩, ?_⟩
    rw [lineFeed, List.count_cons_self, h.count_reversed, if_pos rfl]
  · exact ⟨h.carriageReturn, rfl⟩
  · exact ⟨h.write (by decide), rfl⟩
  · exact ⟨h.backspace, rfl⟩
  · next hc _ _ _ =>
    rw [if_neg hc]
    exact ⟨h, rfl⟩

/-- A token ends the line in progress if it is a line feed, and keeps all finished lines. -/
theorem OneLine.apply (h : e.OneLine) {t : Token} (ht : t.IsLegible) :
    (e.apply t).OneLine
      ∧ (e.apply t).done.count '\n' = e.done.count '\n' + [t].count (.control '\n') := by
  cases t with
  | glyph c =>
    have hc : c ≠ '\n' := by
      rintro rfl
      -- A line feed is a control, so that no legible glyph is one.
      have hcontrol : isControl '\n' = false := ht
      exact absurd hcontrol (by decide)
    exact ⟨h.write hc, rfl⟩
  | control c =>
    have hcount : [Token.control c].count (.control '\n') = if c = '\n' then 1 else 0 := by
      by_cases hc : c = '\n' <;> simp [hc]
    rw [hcount]
    exact h.control c
  | sequence params intermediates overfull final => exact ⟨h, rfl⟩

/-- The finished lines of a text are as many as the line feeds among its tokens.  By induction on
the tokens: each of them keeps the finished lines, and a line feed adds one. -/
theorem OneLine.foldl_apply (h : e.OneLine) {ts : List Token} (hts : ∀ t ∈ ts, t.IsLegible) :
    (ts.foldl LineEditor.apply e).OneLine
      ∧ (ts.foldl LineEditor.apply e).done.count '\n'
        = e.done.count '\n' + ts.count (.control '\n') := by
  induction ts generalizing e with
  | nil => exact ⟨h, rfl⟩
  | cons t ts ih =>
    obtain ⟨ht, hts⟩ := List.forall_mem_cons.1 hts
    obtain ⟨hnext, hfirst⟩ := h.apply ht
    obtain ⟨hlast, hrest⟩ := ih hnext hts
    refine ⟨hlast, ?_⟩
    rw [List.foldl_cons, hrest, hfirst, Nat.add_assoc, ← List.count_append, List.singleton_append]

end LineEditor

/-- Plain text has a line feed for each one that was captured. -/
theorem count_plainChars (cs : List Char) :
    (plainChars cs).count '\n' = (tokens cs).count (.control '\n') := by
  have hlegible : ∀ t ∈ tokens cs, t.IsLegible := isLegible_of_mem_tokens
  obtain ⟨hline, hcount⟩ := LineEditor.oneLine_empty.foldl_apply hlegible
  rw [plainChars, LineEditor.chars, List.count_reverse, hline.count_reversed, hcount]
  exact Nat.zero_add _

/-! ### Texts that stay what they are -/

namespace LineEditor

/-- At the end of the line a character of plain text is added to it. -/
theorem apply_plainToken {e : LineEditor} (he : e.after = []) {c : Char}
    (hc : isControl c = true → c = '\n' ∨ c = '\t') :
    (e.apply (plainToken c)).after = [] ∧ (e.apply (plainToken c)).reversed = c :: e.reversed := by
  have hwrite (d : Char) : (e.write d).after = [] ∧ (e.write d).reversed = d :: e.reversed := by
    simp [write, reversed, he]
  rw [plainToken]
  split
  · next hcontrol =>
    rcases hc hcontrol with rfl | rfl
    · exact ⟨rfl, e.reversed_lineFeed⟩
    · exact hwrite '\t'
  · exact hwrite c

/-- A plain text is written as it is. -/
theorem reversed_foldl_apply_of_isPlain {e : LineEditor} (he : e.after = []) {cs : List Char}
    (h : IsPlain cs) :
    ((cs.map plainToken).foldl apply e).reversed = cs.reverse ++ e.reversed := by
  induction cs generalizing e with
  | nil => rfl
  | cons c cs ih =>
    obtain ⟨hafter, hreversed⟩ := apply_plainToken he (h c List.mem_cons_self)
    rw [List.map_cons, List.foldl_cons, ih hafter h.of_cons, hreversed, List.reverse_cons,
      List.append_assoc, List.singleton_append]

end LineEditor

theorem plainChars_of_isPlain {cs : List Char} (h : IsPlain cs) : plainChars cs = cs := by
  have hread := LineEditor.reversed_foldl_apply_of_isPlain (e := .empty) rfl h
  have hempty : LineEditor.empty.reversed = [] := rfl
  rw [plainChars, tokens_of_no_escape h.escape_notMem, LineEditor.chars, hread, hempty,
    List.append_nil, List.reverse_reverse]

/-- The plain texts are those that stay what they are. -/
theorem plainText_eq_self_iff {text : String} : plainText text = text ↔ IsPlain text.toList := by
  rw [← String.toList_inj, plainText, String.toList_ofList]
  constructor
  · intro h
    rw [← h]
    exact isPlain_plainChars _
  · exact plainChars_of_isPlain

/-- Cleaning leaves a plain text as it is. -/
theorem cleanChars_of_isPlain {cs : List Char} (h : IsPlain cs) : cleanChars cs = cs := by
  rw [cleanChars, tokens_of_no_escape h.escape_notMem, List.flatMap_map]
  have hchar : ∀ c ∈ cs, (plainToken c).cleaned = [c] := by
    intro c hc
    rw [plainToken]
    split
    · next hcontrol =>
      rcases h c hc hcontrol with rfl | rfl <;> rfl
    · rfl
  rw [List.flatMap_congr hchar, List.flatMap_singleton']

/-- **Plain text is a projection.**  Whatever is captured, the only control characters of its plain
text are line feeds and tabs, and there are as many line feeds as were captured.  Plain text is its
own plain text, and cleaning leaves it as it is too.  The texts that stay what they are have no
other control characters. -/
theorem plainText_projects (text : String) :
    IsPlain (plainText text).toList
      ∧ (plainText text).toList.count '\n' = (tokens text.toList).count (.control '\n')
      ∧ plainText (plainText text) = plainText text
      ∧ clean (plainText text) = plainText text
      ∧ (plainText text = text ↔ IsPlain text.toList) := by
  have htext : (plainText text).toList = plainChars text.toList := String.toList_ofList
  have hplain : IsPlain (plainText text).toList := htext ▸ isPlain_plainChars _
  refine ⟨hplain, ?_, plainText_eq_self_iff.2 hplain, ?_, plainText_eq_self_iff⟩
  · rw [htext, count_plainChars]
  · rw [← String.toList_inj, toList_clean, cleanChars_of_isPlain hplain]

/-- A sequence that is cut short, a line that is rewritten, and a line feed inside a sequence. -/
example : plainText "ab\rc\x1b[1\n;31md\x08\x1b]0;t" = "cb\n" := by
  decide +kernel

end ConsoleReplay.Capture
