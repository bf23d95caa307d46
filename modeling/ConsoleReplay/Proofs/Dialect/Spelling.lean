import ConsoleReplay.Dialect.Recognition
import ConsoleReplay.Dialect.RouterOs
import ConsoleReplay.Proofs.Text.Words

/-!
# The spellings of a command

A command is the segments of a menu path and the words after them.  The segments may be typed
as words of their own, or any number of them from the front as a path with slashes; a path may
have more slashes than it needs, and a lone slash is a path without segments.  What is
recognised in a command depends on its segments and words and on nothing else of its spelling.

## Main definitions

* `IsSegment s` — `s` is a word without a slash.
* `IsPath path segments` — `path` is the segments with slashes in front, between and behind.
* `Spells words segments command` — `command` is typed for the segments and the words.

## Main results

* `IsPath.pathParts_eq` — the parts of a path are its segments.
* `Spells.commandWords_eq` — the words of a command are its segments and then its words.
* `Dialect.recognize_of_spells` — **every spelling of a command is recognised alike**, by its
  first segment and what stands after it.
-/

namespace ConsoleReplay

open Text (isBlank IsWord Spaced)

/-- A segment of a menu path. -/
structure IsSegment (s : List Char) : Prop extends IsWord s where
  slash_notMem : '/' ∉ s

instance (s : List Char) : Decidable (IsSegment s) :=
  decidable_of_iff (IsWord s ∧ '/' ∉ s)
    ⟨fun ⟨hword, hslash⟩ => ⟨hword, hslash⟩, fun h => ⟨h.toIsWord, h.slash_notMem⟩⟩

/-- A path of segments: slashes in front, at least one between two segments, and any behind.  Only
slashes may be there more often than they are needed. -/
inductive IsPath : List Char → List (List Char) → Prop
  | root : IsPath ['/'] []
  | last {s : List Char} (hs : IsSegment s) : IsPath ('/' :: s) [s]
  | slash {path : List Char} {segments : List (List Char)} (hpath : IsPath path segments) :
      IsPath ('/' :: path) segments
  | segment {s path : List Char} {segments : List (List Char)} (hs : IsSegment s)
      (hpath : IsPath path segments) : IsPath ('/' :: (s ++ path)) (s :: segments)

/-- A command typed for the segments of a menu path and the words after them: every segment as
a word, or the first of them, be it all or none, as a path.  Blanks of any kind stand between the
words and around them. -/
inductive Spells (words : List String) : List String → String → Prop
  | apart {segments : List String} {command : String}
      (hspaced : Spaced command.toList ((segments ++ words).map String.toList)) :
      Spells words segments command
  | path {led others : List String} {path : List Char} {command : String}
      (hpath : IsPath path (led.map String.toList))
      (hspaced : Spaced command.toList (path :: (others ++ words).map String.toList)) :
      Spells words (led ++ others) command

/-! ### Reading a path

A path is read by its slashes.  The empty parts between two of them are left out, and what is left
are its segments, however many slashes there are. -/

theorem pathParts_append_slash (front cs : List Char) :
    pathParts (front ++ '/' :: cs) = pathParts front ++ pathParts cs := by
  simp only [pathParts]
  rw [List.splitOn_append_cons_self, List.filter_append]

theorem pathParts_slash (cs : List Char) : pathParts ('/' :: cs) = pathParts cs :=
  pathParts_append_slash [] cs

theorem IsSegment.pathParts_eq {s : List Char} (hs : IsSegment s) : pathParts s = [s] := by
  simp [pathParts, List.splitOn_eq_singleton hs.slash_notMem, hs.ne_nil]

namespace IsPath

variable {path : List Char} {segments : List (List Char)}

theorem exists_eq_cons (h : IsPath path segments) : ∃ cs, path = '/' :: cs := by
  cases h <;> exact ⟨_, rfl⟩

/-- The parts of a path are its segments. -/
theorem pathParts_eq (h : IsPath path segments) : pathParts path = segments := by
  induction h with
  | root => rfl
  | last hs => rw [pathParts_slash, hs.pathParts_eq]
  | slash _ ih => rw [pathParts_slash, ih]
  | @segment s _ segments hs hpath ih =>
    -- What stands behind the segment begins with the slash that ends it.
    obtain ⟨cs, rfl⟩ := hpath.exists_eq_cons
    rw [pathParts_slash] at ih
    rw [pathParts_slash, pathParts_append_slash, hs.pathParts_eq, ih, List.singleton_append]

end IsPath

/-! ### Reading a command -/

/-- The words of a text that does not begin with a path. -/
theorem commandWords_of_spaced {command : String} {first : List Char} {rest : List (List Char)}
    (h : Spaced command.toList (first :: rest)) (hfirst : '/' ∉ first) :
    commandWords command = (first :: rest).map String.ofList := by
  have hhead : first.head? ≠ some '/' := fun hslash => hfirst (List.mem_of_head? hslash)
  simp only [commandWords, h.words_eq, if_neg hhead, List.singleton_append]

/-- The words of a text that begins with a path. -/
theorem commandWords_of_isPath {command : String} {path : List Char} {led rest : List (List Char)}
    (h : Spaced command.toList (path :: rest)) (hpath : IsPath path led) :
    commandWords command = (led ++ rest).map String.ofList := by
  have hhead : path.head? = some '/' := by
    obtain ⟨cs, rfl⟩ := hpath.exists_eq_cons
    rfl
  simp only [commandWords, h.words_eq, if_pos hhead, hpath.pathParts_eq]

/-- The words of a command are the segments of its menu path and the words after them.  How often
the slashes come and which blanks stand where is lost on the way. -/
theorem Spells.commandWords_eq {first : String} {segments words : List String} {command : String}
    (h : Spells words (first :: segments) command) (hfirst : '/' ∉ first.toList) :
    commandWords command = first :: (segments ++ words) := by
  have hback (texts : List String) : (texts.map String.toList).map String.ofList = texts := by
    simp [Function.comp_def]
  generalize htyped : first :: segments = typed at h
  cases h with
  | apart hspaced =>
    subst htyped
    rw [commandWords_of_spaced hspaced hfirst, ← List.cons_append, ← hback (_ ++ _)]
    rfl
  | path hpath hspaced =>
    rw [commandWords_of_isPath hspaced hpath, ← List.map_append, hback, ← List.append_assoc,
      ← htyped, List.cons_append]

/-! ### Recognising a command -/

namespace Dialect

/-- **Every spelling of a command is recognised alike.**  A first segment that names a category
comes with the verb after it, or the verb of the category if there is none, and the rest are
parameters; a first segment that only stands alone has all the rest for parameters; of any
other command nothing is recognised. -/
theorem recognize_of_spells (d : Dialect) {first : String} {segments words : List String}
    {command : String} (hsegments : ∀ s ∈ first :: segments, IsSegment s.toList)
    (h : Spells words (first :: segments) command) :
    (∀ command', Spells words (first :: segments) command' →
        d.recognize command' = d.recognize command)
      ∧ (∀ category, d.category? first = some category → d.recognize command
          = ⟨true, some first, some ((segments ++ words).head?.getD category.defaultVerb),
              (segments ++ words).tail⟩)
      ∧ (d.category? first = none → d.isStandalone first = true →
          d.recognize command = ⟨true, some "standalone", some first, segments ++ words⟩)
      ∧ (d.category? first = none → d.isStandalone first = false →
          d.recognize command = ⟨false, none, none, []⟩) := by
  have hfirst : '/' ∉ first.toList := (hsegments first List.mem_cons_self).slash_notMem
  -- The spelling is only seen by the splitting into words; what is recognised depends on the
  -- words alone, so all four parts are about one list of words.
  have hread {command' : String} (h' : Spells words (first :: segments) command') :
      d.recognize command' = d.recognizeWords (first :: (segments ++ words)) := by
    rw [recognize, h'.commandWords_eq hfirst]
  refine ⟨?_, ?_, ?_, ?_⟩
  · intro command' h'
    rw [hread h', hread h]
  · intro category hcategory
    rw [hread h, recognizeWords, hcategory]
  · intro hnone hstandalone
    rw [hread h, recognizeWords, hnone]
    exact if_pos hstandalone
  · intro hnone hstandalone
    rw [hread h, recognizeWords, hnone]
    exact if_neg (ne_true_of_eq_false hstandalone)

/-- A path with more slashes than it needs, between blanks of several kinds. -/
theorem recognize_of_spells_slashes :
    let command := "\u2003//ip///address/ \tprint\xa0where dst=0.0.0.0/0 "
    let words := ["print", "where", "dst=0.0.0.0/0"]
    (∀ s ∈ ["ip", "address"], IsSegment s.toList) ∧ Spells words ["ip", "address"] command
      ∧ Spells words ["ip", "address"] "ip address print where dst=0.0.0.0/0"
      ∧ routerOs.recognize command = ⟨true, some "ip", some "address", words⟩
      ∧ routerOs.recognize "ip address print where dst=0.0.0.0/0" = routerOs.recognize command := by
  intro command words
  have hsegments : ∀ s ∈ ["ip", "address"], IsSegment s.toList := by decide +kernel
  have hpath : IsPath "//ip///address/".toList (["ip", "address"].map String.toList) :=
    .slash (.segment (hsegments "ip" (by decide)) (.slash (.slash
      (.segment (hsegments "address" (by decide)) .root))))
  have hslashes : Spells words (["ip", "address"] ++ []) command :=
    .path hpath (Text.words_eq_iff.1 (by decide +kernel))
  have happart : Spells words ["ip", "address"] "ip address print where dst=0.0.0.0/0" :=
    .apart (Text.words_eq_iff.1 (by decide +kernel))
  obtain ⟨category, hcategory⟩ : ∃ category, routerOs.category? "ip" = some category :=
    Option.isSome_iff_exists.1 (by decide +kernel)
  obtain ⟨halike, hknown, -, -⟩ := routerOs.recognize_of_spells hsegments hslashes
  exact ⟨hsegments, hslashes, happart, hknown category hcategory, halike _ happart⟩

end Dialect

end ConsoleReplay
