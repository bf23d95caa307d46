import ConsoleReplay.Dialect.RouterOs
import ConsoleReplay.Markup.Rule
import ConsoleReplay.Proofs.Pattern.Cutting
import ConsoleReplay.Proofs.Text.Lines
import ConsoleReplay.Session.Policy

/-!
# A prompt is marked as one

Two parts of the program look for prompts.  The policy asks of a trimmed text whether it is a prompt
from its start to its end, and the rules look for prompts anywhere in a text.  They agree: in front
of blanks a prompt is taken whole.  The prompt of a device has a definite end, and that of a host
goes on to the last of its characters that can end it, so the blanks behind are where it stops.  No
prompt begins with a blank, and the other rules need a word to begin at, so all that they could look
into, the blanks around the prompt, stays as it is.

## Main definitions

* `Pattern.menuPath` — the part of a device's prompt that may be left out.
* `Markup.plain cs` — a text without an element, if there is one.

## Main results

* `Pattern.fits_of_wholePrompt` — what the policy takes for a prompt, bare marks apart.
* `Pattern.takes_devicePrompt`, `Pattern.takes_hostPrompt`, `Pattern.takes_prompt` — a prompt in
  front of blanks is taken whole.
* `Pattern.overlooks_prompt`, `Pattern.overlooks_wordBoundary` — what begins at no blank.
* `Highlighter.heuristicPieces_of_fits` — the pieces of a prompt among blanks.
* `Highlighter.heuristic_of_isPrompt` — **a text that is a prompt is marked as one prompt**.
-/

namespace ConsoleReplay

/-! ### Blanks -/

/-- No blank belongs to a word. -/
theorem Text.isWord_of_isBlank {c : Char} (h : isBlank c = true) : isWord c = false := by
  have hcodes : ∀ n ∈ List.range' 0x09 5 ++ List.range' 0x2000 11 ++ [0x20, 0x85, 0xa0, 0x1680,
      0x2028, 0x2029, 0x202f, 0x205f, 0x3000], isWord (Char.ofNat n) = false := by
    decide +kernel
  rw [← Char.ofNat_toNat c]
  refine hcodes _ ?_
  simp only [isBlank, Bool.or_eq_true, Bool.and_eq_true, decide_eq_true_eq, beq_iff_eq] at h
  simp only [List.mem_append, List.mem_range'_1, List.mem_cons, List.not_mem_nil]
  omega

namespace Pattern

open Text (isBlank isWord trimStart)

theorem isPathChar_of_isBlank {c : Char} (h : isBlank c = true) : isPathChar c = false := by
  have hne {d : Char} (hd : isBlank d = false) : (c == d) = false := by
    rw [beq_eq_false_iff_ne]
    rintro rfl
    rw [h] at hd
    cases hd
  rw [isPathChar, isNameChar, Text.isWord_of_isBlank h, hne rfl, hne rfl, hne rfl]
  rfl

theorem isNameChar_of_isBlank {c : Char} (h : isBlank c = true) : isNameChar c = false :=
  (Bool.or_eq_false_iff.1 (isPathChar_of_isBlank h)).1

theorem stops_of_blank {test : Char → Bool} {rest : List Char}
    (htest : ∀ c, isBlank c = true → test c = false) (hrest : ∀ c ∈ rest, isBlank c = true) :
    Stops test rest := fun c hc => htest c (hrest c (List.mem_of_mem_head? hc))

theorem stops_blanks_append {test : Char → Bool} {gap rest : List Char}
    (htest : ∀ c, isBlank c = true → test c = false) (hgap : blanks.Fits gap)
    (hrest : Stops test rest) : Stops test (gap ++ rest) := by
  cases gap with
  | nil => exact hrest
  | cons c gap => exact stops_cons (htest c (hgap c List.mem_cons_self)) _

/-! ### Prompts

The policy asks whether the whole text is a prompt, the rule for prompts where one begins and how
far it goes.  That the two agree has to be shown from the back: the last sign of the prompt is the
one where the longest try ends. -/

/-- The part of a device's prompt that may be left out: blanks and the path of a menu. -/
def menuPath : Pattern := all [blanks, char '/', many isPathChar]

variable {t trail : List Char}

theorem exists_cons_of_fits_devicePrompt (h : devicePrompt.Fits t) : ∃ cs, t = '[' :: cs := by
  obtain ⟨_, cs, hopen, -, rfl⟩ := h
  exact ⟨cs, by rw [fits_char.1 hopen, List.singleton_append]⟩

theorem exists_cons_of_fits_hostPrompt (h : hostPrompt.Fits t) :
    ∃ c cs, isNameChar c = true ∧ t = c :: cs := by
  obtain ⟨_, _, ⟨_, _, ⟨c, hc, rfl⟩, -, rfl⟩, -, rfl⟩ := h
  exact ⟨c, _, hc, rfl⟩

/-- A prompt does not begin with a blank. -/
theorem exists_cons_of_fits_prompt (h : prompt.Fits t) :
    ∃ c cs, isBlank c = false ∧ t = c :: cs := by
  rcases h with hdevice | hhost
  · obtain ⟨cs, rfl⟩ := exists_cons_of_fits_devicePrompt hdevice
    exact ⟨'[', cs, rfl, rfl⟩
  · obtain ⟨c, cs, hc, rfl⟩ := exists_cons_of_fits_hostPrompt hhost
    refine ⟨c, cs, Bool.eq_false_iff.2 fun hblank => ?_, rfl⟩
    rw [isNameChar_of_isBlank hblank] at hc
    cases hc

/-- What the policy takes for a prompt is one that the rules look for, or a bare mark. -/
theorem fits_of_wholePrompt (h : wholePrompt.matchesStart t = true) (hlength : 2 ≤ t.length) :
    prompt.Fits t := by
  simp only [wholePrompt, matchesStart_any, List.any_cons, List.any_nil, Bool.or_false,
    Bool.or_eq_true] at h
  rcases h with hdevice | hhost | hbare
  · exact Or.inl (fits_of_whole hdevice)
  · exact Or.inr (fits_of_whole hhost)
  · obtain ⟨c, -, rfl⟩ := fits_of_whole hbare
    exact absurd hlength (Nat.not_succ_le_self 1)

/-- If there is no path of a menu, none is seen in the blanks and the sign behind them.  Blanks are
taken and given back again, since the slash is missing. -/
theorem takes_menuPath {path gap : List Char} (hpath : (optional menuPath).Fits path)
    (hgap : blanks.Fits gap) (rest : List Char) :
    (optional menuPath).Takes path (gap ++ '>' :: rest) := by
  rcases hpath with ⟨lead, _, hlead, ⟨_, _, hslash, ⟨menu, _, hmenu, rfl, rfl⟩, rfl⟩, rfl⟩ | rfl
  · obtain rfl := fits_char.1 hslash
    refine ((takes_many hlead ?_).seq
      ((takes_one hslash).seq ((takes_many hmenu ?_).seq takes_empty))).alt_left
    · exact stops_cons rfl _
    · rw [List.nil_append]
      exact stops_blanks_append (fun _ => isPathChar_of_isBlank) hgap (stops_cons rfl _)
  · -- A path would have to begin, behind blanks, where the sign stands.
    refine takes_empty.alt_right fun cs back hcs heq => ?_
    obtain ⟨lead, _, hlead, ⟨_, menu, hslash, -, rfl⟩, rfl⟩ := hcs
    obtain rfl := fits_char.1 hslash
    have hgap : trimStart (gap ++ '>' :: rest) = '>' :: rest :=
      Text.trimStart_append_of_blank (List.all_eq_true.2 hgap) _
    have hlead : trimStart (lead ++ ('/' :: (menu ++ back))) = '/' :: (menu ++ back) :=
      Text.trimStart_append_of_blank (List.all_eq_true.2 hlead) _
    rw [List.nil_append, List.append_assoc] at heq
    rw [heq] at hgap
    cases hlead.symm.trans hgap

/-- The prompt of a device ends at the sign behind its bracket. -/
theorem takes_devicePrompt (h : devicePrompt.Fits t) : devicePrompt.Takes t trail := by
  obtain ⟨_, _, hopen, ⟨user, _, huser, ⟨_, _, hat, ⟨host, _, hhost, ⟨_, _, hclose, ⟨path, _, hpath,
    ⟨gap, _, hgap, ⟨_, _, hsign, rfl, rfl⟩, rfl⟩, rfl⟩, rfl⟩, rfl⟩, rfl⟩, rfl⟩, rfl⟩ := h
  obtain rfl := fits_char.1 hat
  obtain rfl := fits_char.1 hclose
  obtain rfl := fits_char.1 hsign
  -- Every part is followed by a character that it does not take, so nothing is given back.
  refine (takes_one hopen).seq ((takes_many1 huser ?_).seq ((takes_one hat).seq
    ((takes_many1 hhost ?_).seq ((takes_one hclose).seq (Takes.seq ?_
      ((takes_many hgap ?_).seq ((takes_one hsign).seq takes_empty)))))))
  · exact stops_cons rfl _
  · exact stops_cons rfl _
  · rw [List.append_assoc]
    exact takes_menuPath hpath hgap trail
  · exact stops_cons rfl _

/-- The prompt of a host goes on to the last mark in front of a blank.  The directory goes on over
all marks and gives back only the last one. -/
theorem takes_hostPrompt (h : hostPrompt.Fits t) (htrail : ∀ c ∈ trail, isBlank c = true) :
    hostPrompt.Takes t trail := by
  obtain ⟨user, _, huser, ⟨_, _, hat, ⟨host, _, hhost, ⟨_, _, hcolon, ⟨dir, _, hdir,
    ⟨mark, _, hmark, rfl, rfl⟩, rfl⟩, rfl⟩, rfl⟩, rfl⟩, rfl⟩ := h
  obtain rfl := fits_char.1 hat
  obtain rfl := fits_char.1 hcolon
  have hmarks : ∀ c ∈ "$#".toList, isBlank c = false :=
    List.forall_mem_cons.2 ⟨rfl, List.forall_mem_singleton.2 rfl⟩
  -- The directory takes the mark as well and gives it back, as none stands behind it.
  rw [List.append_nil]
  refine (takes_many1 huser ?_).seq ((takes_one hat).seq ((takes_many1 hhost ?_).seq
    ((takes_one hcolon).seq (takes_many_one hdir hmark ?_ ?_ ?_))))
  · exact stops_cons rfl _
  · exact stops_cons rfl _
  · obtain ⟨c, hc, rfl⟩ := hmark
    have hblank := hmarks c (List.contains_iff_mem.1 hc)
    exact List.forall_mem_singleton.2 ((Bool.not_eq_true' _).mpr hblank)
  · refine stops_of_blank (fun c hc => ?_) htrail
    rw [hc]
    rfl
  · refine stops_of_blank (fun c hc => Bool.eq_false_iff.2 fun hmem => ?_) htrail
    rw [hmarks c (List.contains_iff_mem.1 hmem)] at hc
    cases hc

/-- **A prompt in front of blanks is taken whole.** -/
theorem takes_prompt (h : prompt.Fits t) (htrail : ∀ c ∈ trail, isBlank c = true) :
    prompt.Takes t trail := by
  rcases h with hdevice | hhost
  · exact (takes_devicePrompt hdevice).alt_left
  · refine (takes_hostPrompt hhost htrail).alt_right fun cs back hcs heq => ?_
    obtain ⟨cs, rfl⟩ := exists_cons_of_fits_devicePrompt hcs
    obtain ⟨c, t, hc, rfl⟩ := exists_cons_of_fits_hostPrompt hhost
    -- No name begins with a bracket.
    obtain ⟨rfl, -⟩ := List.cons.inj heq
    exact absurd hc (by decide)

/-- No prompt begins with a blank. -/
theorem overlooks_prompt : prompt.Overlooks isBlank fun _ => True where
  none_of_test before c rest _ hc := by
    refine run_eq_none fun piece back hpiece heq => ?_
    obtain ⟨c', cs, hc', rfl⟩ := exists_cons_of_fits_prompt hpiece
    obtain ⟨rfl, -⟩ := List.cons.inj heq
    rw [hc] at hc'
    cases hc'
  behind_test _ _ := trivial

/-- Among blanks no word begins. -/
theorem overlooks_wordBoundary (p : Pattern) :
    (seq wordBoundary p).Overlooks isBlank fun before => before.any isWord = false where
  none_of_test before c rest hbefore hc := by
    have hword : (before.any isWord != (some c).any isWord) = false := by
      rw [hbefore, Option.any_some, Text.isWord_of_isBlank hc]
      rfl
    rw [length?, run_seq, wordBoundary, run_look]
    exact if_neg (ne_true_of_eq_false hword)
  behind_test _ hc := Text.isWord_of_isBlank hc

end Pattern

/-! ### Pieces -/

namespace Markup

open Text (isBlank)

/-- A text without an element, if there is one. -/
def plain (cs : List Char) : List Piece := if cs.isEmpty then [] else [.text cs]

theorem flatMap_write_plain (cs : List Char) : (plain cs).flatMap Piece.write = escape cs := by
  cases cs <;> simp [plain, Piece.write]

namespace Rule

theorem apply_text (rule : Rule) (cs : List Char) :
    rule.apply [.text cs] = (rule.pattern.split cs).map rule.pieceOf := List.flatMap_singleton ..

theorem map_pieceOf_unfound (rule : Rule) (cs : List Char) :
    (Pattern.unfound cs).map rule.pieceOf = plain cs := by
  cases cs <;> rfl

variable {rule : Rule} {behind : Option Char → Prop}

/-- A rule that overlooks blanks leaves them as they are. -/
theorem apply_plain (h : rule.pattern.Overlooks isBlank behind) (hstart : behind none)
    {cs : List Char} (hcs : ∀ c ∈ cs, isBlank c = true) : rule.apply (plain cs) = plain cs := by
  cases cs with
  | nil => rfl
  | cons c cs =>
    have htext : plain (c :: cs) = [.text (c :: cs)] := rfl
    rw [htext, apply_text, h.split_eq hstart hcs, map_pieceOf_unfound, htext]

/-- Rules that overlook blanks leave a piece among blanks as it is. -/
theorem foldl_apply_around {rules : List Rule}
    (h : ∀ rule ∈ rules, ∃ behind, rule.pattern.Overlooks isBlank behind ∧ behind none)
    {lead trail : List Char} (hlead : ∀ c ∈ lead, isBlank c = true)
    (htrail : ∀ c ∈ trail, isBlank c = true) (name : String) (cs : List Char) :
    rules.foldl (fun pieces rule => rule.apply pieces)
        (plain lead ++ .marked name cs :: plain trail)
      = plain lead ++ .marked name cs :: plain trail := by
  -- The three pieces are the invariant: a rule leaves the blanks alone because it overlooks them
  -- and the element because it is marked.
  induction rules with
  | nil => rfl
  | cons rule rules ih =>
    obtain ⟨⟨behind, hrule, hstart⟩, hrules⟩ := List.forall_mem_cons.1 h
    have happly : rule.apply (plain lead ++ .marked name cs :: plain trail)
        = rule.apply (plain lead) ++ .marked name cs :: rule.apply (plain trail) := by
      rw [apply, List.flatMap_append, List.flatMap_cons]
      rfl
    rw [List.foldl_cons, happly, apply_plain hrule hstart hlead, apply_plain hrule hstart htrail,
      ih hrules]

end Rule

end Markup

/-! ### The rules of a dialect -/

/-- But for the first one the rules need a word to begin at.  In blanks there is none. -/
theorem Dialect.exists_wordBoundary (d : Dialect) :
    ∀ rule ∈ d.rules.tail, ∃ p, rule.pattern = .seq .wordBoundary p := by
  have hkeyword : ∀ pattern ∈ d.keywordPattern?, ∃ p, pattern = .seq .wordBoundary p := by
    intro pattern hpattern
    rw [keywordPattern?, Option.mem_def, Option.ite_none_left_eq_some] at hpattern
    rw [← Option.some.inj hpattern.2]
    exact ⟨_, rfl⟩
  intro rule hrule
  simp only [rules, List.cons_append, List.tail_cons, List.nil_append, List.mem_cons,
    List.mem_append, Option.mem_toList, Option.map_eq_some_iff, List.not_mem_nil, or_false] at hrule
  rcases hrule with rfl | rfl | rfl | rfl | ⟨⟨pattern, hpattern, rfl⟩⟩ | rfl | rfl | rfl
  case inr.inr.inr.inr.inl => exact hkeyword pattern hpattern
  all_goals exact ⟨_, rfl⟩

namespace Highlighter

open Markup
open Text (isBlank trim)

/-- The pieces of a prompt among blanks. -/
theorem heuristicPieces_of_fits (d : Dialect) {t lead trail : List Char}
    (h : Pattern.prompt.Fits t) (hlead : ∀ c ∈ lead, isBlank c = true)
    (htrail : ∀ c ∈ trail, isBlank c = true) :
    (ofDialect d).heuristicPieces (lead ++ (t ++ trail))
      = plain lead ++ .marked "prompt" t :: plain trail := by
  have hne : t ≠ [] := by
    obtain ⟨c, cs, -, rfl⟩ := Pattern.exists_cons_of_fits_prompt h
    exact List.cons_ne_nil c cs
  have hsplit := Pattern.overlooks_prompt.split_around hlead htrail hne
    (Pattern.takes_prompt h htrail).length?_eq
  -- The rule for prompts is the first of every dialect, so it sees the text before anything is
  -- cut out of it.
  have hfirst : Rule.apply ⟨"prompt", .prompt⟩ [.text (lead ++ (t ++ trail))]
      = plain lead ++ .marked "prompt" t :: plain trail := by
    rw [Rule.apply_text, hsplit, List.map_append, List.map_cons, Rule.map_pieceOf_unfound,
      Rule.map_pieceOf_unfound]
    rfl
  -- All other rules match whole words, of which blanks have none.
  have hothers : ∀ rule ∈ d.rules.tail,
      ∃ behind, rule.pattern.Overlooks isBlank behind ∧ behind none := by
    intro rule hrule
    obtain ⟨p, hp⟩ := d.exists_wordBoundary rule hrule
    exact ⟨fun before => before.any Text.isWord = false, hp ▸ Pattern.overlooks_wordBoundary p, rfl⟩
  have hrules : d.rules = ⟨"prompt", .prompt⟩ :: d.rules.tail := rfl
  rw [heuristicPieces, ofDialect, highlightPieces, hrules, List.foldl_cons, hfirst]
  exact Rule.foldl_apply_around hothers hlead htrail "prompt" t

/-- **A text that is a prompt is marked as one prompt.**  If the policy takes the trimmed text for a
prompt, and it is no bare mark, the markup is the blanks in front, one element with the whole
trimmed text, and the blanks behind, whatever the dialect. -/
theorem heuristic_of_isPrompt (d : Dialect) (thresholds : Thresholds) (text : String)
    (hlength : 2 ≤ (trim text.toList).length)
    (hprompt : (Policy.routerOs thresholds).isPrompt (.ofList (trim text.toList)) = true) :
    ∃ lead trail, text.toList = lead ++ trim text.toList ++ trail
      ∧ (∀ c ∈ lead, isBlank c = true) ∧ (∀ c ∈ trail, isBlank c = true)
      ∧ ((ofDialect d).heuristic text).toList
        = escape lead ++ "<span class=\"hl-prompt\">".toList ++ escape (trim text.toList)
          ++ "</span>".toList ++ escape trail := by
  obtain ⟨lead, trail, htext, hlead, htrail⟩ := Text.exists_eq_append_trim text.toList
  -- The policy trims the text it is given before it looks for a prompt, and trimming a trimmed
  -- text changes nothing.
  have hfits : Pattern.prompt.Fits (trim text.toList) := by
    refine Pattern.fits_of_wholePrompt ?_ hlength
    have hpolicy : (Policy.routerOs thresholds).isPrompt = Policy.isConsolePrompt := rfl
    rwa [hpolicy, Policy.isConsolePrompt, String.toList_ofList, Text.trim_trim] at hprompt
  refine ⟨lead, trail, by rw [List.append_assoc, ← htext], hlead, htrail, ?_⟩
  have hpieces := heuristicPieces_of_fits d hfits hlead htrail
  rw [← htext] at hpieces
  rw [heuristic, hpieces, write, String.toList_ofList, List.flatMap_append, List.flatMap_cons,
    flatMap_write_plain, flatMap_write_plain, Piece.write, Piece.element]
  simp only [List.append_assoc]
  rfl

/-- The prompt of a device in a menu, between a carriage return and blanks. -/
theorem heuristic_of_isPrompt_menu :
    2 ≤ (trim "\r[admin@r1] /ip/route > ".toList).length
      ∧ (Policy.routerOs {}).isPrompt
        (.ofList (trim "\r[admin@r1] /ip/route > ".toList)) = true
      ∧ (∃ lead trail, "\r[admin@r1] /ip/route > ".toList
          = lead ++ trim "\r[admin@r1] /ip/route > ".toList ++ trail
        ∧ (∀ c ∈ lead, isBlank c = true) ∧ (∀ c ∈ trail, isBlank c = true)
        ∧ ((ofDialect .routerOs).heuristic "\r[admin@r1] /ip/route > ").toList
          = escape lead ++ "<span class=\"hl-prompt\">".toList
            ++ escape (trim "\r[admin@r1] /ip/route > ".toList) ++ "</span>".toList
            ++ escape trail) := by
  have hlength : 2 ≤ (trim "\r[admin@r1] /ip/route > ".toList).length := by decide
  have hprompt : (Policy.routerOs {}).isPrompt
      (.ofList (trim "\r[admin@r1] /ip/route > ".toList)) = true := by decide +kernel
  exact ⟨hlength, hprompt, heuristic_of_isPrompt _ _ _ hlength hprompt⟩

end Highlighter

end ConsoleReplay
