import ConsoleReplay.Proofs.Json.Document
import ConsoleReplay.Proofs.Text.Lines
import ConsoleReplay.Source.Layout

/-!
# Rows on lines and rows in an array

Log rows may stand one on each line, with blank lines anywhere among them, or in an array.  The
layout is told by the first line that is not blank, and lines count from the first one whether
they are blank or not.

## Main definitions

* `LogRow.BeginsWithRow ls` — the first of the lines that is not blank is a log row, and not the
  header of a recording.

## Main results

* `LogRow.detect_lines`, `LogRow.detect_array` — which layout the texts have.
* `LogRow.parseLines_eq_ok`, `LogRow.parseLines_eq_badLine` — what is read from lines.
* `LogRow.parseAll_lines` — **the layouts are interchangeable**, and a line that holds no row is
  reported by its number.
-/

namespace ConsoleReplay

namespace LogRow

/-- The first of the lines that is not blank is a log row, written as an object without a
version. -/
inductive BeginsWithRow : List (List Char) → Prop
  | intro {blanks rest : List (List Char)} {first : List Char} {members : List (String × Json)}
      {row : LogRow} (hblanks : ∀ line ∈ blanks, Text.blankLine line = true)
      (hobject : Json.parse? first = some (.object members))
      (hrow : ofJson? (.object members) = some row)
      (hversion : ∀ member ∈ members, member.1 ≠ "version") :
      BeginsWithRow (blanks ++ first :: rest)

/-! ### Layouts -/

/-- An object without a version is no header. -/
theorem isHeader_eq_false {line : List Char} {members : List (String × Json)}
    (h : Json.parse? line = some (.object members))
    (hversion : ∀ member ∈ members, member.1 ≠ "version") : Layout.isHeader line = false := by
  have hget := Json.get?_eq_none_iff.2 hversion
  rw [Layout.isHeader, h]
  simp [hget]

/-- Lines that begin with a row are read as lines.  The first line that shows something is a row, so
it is neither an array nor a header. -/
theorem detect_lines {content : List Char} {ls : List (List Char)} (hlines : Text.Lined content ls)
    (h : BeginsWithRow ls) :
    Text.blankLine content = false ∧ Layout.detect content = .jsonLines := by
  obtain @⟨_, _, first, _, _, hblanks, hobject, -, hversion⟩ := h
  obtain ⟨inner, hskip⟩ := Json.exists_skipSpace_of_parse? hobject rfl
  have htrim := Json.trimStart_of_skipSpace hskip rfl
  have hcontent := Text.lined_trimStart hlines hblanks (Text.blankLine_of_trimStart htrim)
  obtain ⟨tail, htail⟩ := hcontent.prefix_head
  rw [htrim, List.cons_append] at htail
  refine ⟨Text.blankLine_of_trimStart htail.symm, ?_⟩
  -- The layout is told by the first line without its blanks, which is read like the whole line.
  have hheader : Layout.isHeader (Text.trimStart first) = false := by
    rw [htrim, ← hskip]
    exact isHeader_eq_false ((Json.parse?_skipSpace first).trans hobject) hversion
  have hbracket : (Text.trimStart content).head? ≠ some '[' := by
    rw [← htail]
    exact fun h => absurd (Option.some_inj.1 h) (by decide)
  rw [Layout.detect, if_neg hbracket, hcontent.lines_eq, List.headD_cons, hheader]
  rfl

/-- A text that is an array is read as an array. -/
theorem detect_array {cs : List Char} {items : List Json}
    (h : Json.parse? cs = some (.array items)) :
    Text.blankLine cs = false ∧ Layout.detect cs = .jsonArray := by
  obtain ⟨inner, hskip⟩ := Json.exists_skipSpace_of_parse? h rfl
  have htrim := Json.trimStart_of_skipSpace hskip rfl
  refine ⟨Text.blankLine_of_trimStart htrim, ?_⟩
  rw [Layout.detect, htrim]
  rfl

/-! ### Lines -/

/-- Lines that are blank or hold a row give the rows in order. -/
theorem parseLines_eq_ok {ls : List (List Char)} {rows : List LogRow}
    (h : (ls.filter (!Text.blankLine ·)).mapM parse? = some rows) (number : Nat) :
    parseLines number ls = .ok rows := by
  -- Blank lines count for the number, which no row depends on.
  induction ls generalizing rows number with
  | nil =>
    cases h
    rfl
  | cons line ls ih =>
    rw [parseLines]
    cases hblank : Text.blankLine line with
    | true =>
      rw [List.filter_cons_of_neg (by simp [hblank])] at h
      exact ih h (number + 1)
    | false =>
      rw [List.filter_cons_of_pos (by simp [hblank]), List.mapM_cons] at h
      simp only [Option.bind_eq_bind, Option.bind_eq_some_iff, Option.pure_def,
        Option.some_inj] at h
      obtain ⟨row, hrow, rows', hrows, rfl⟩ := h
      rw [hrow, ih hrows]
      rfl

/-- The first line that is not blank and holds no row is reported by its number. -/
theorem parseLines_eq_badLine {before after : List (List Char)} {line : List Char}
    (hbefore : ∀ line ∈ before, Text.blankLine line = true ∨ (parse? line).isSome = true)
    (hblank : Text.blankLine line = false) (hline : parse? line = none) (number : Nat) :
    parseLines number (before ++ line :: after) = .error (.badLine (number + before.length)) := by
  -- Rows in front of the bad line are read and lost with it; only their number is left.
  induction before generalizing number with
  | nil =>
    rw [List.nil_append, parseLines, hblank, hline]
    rfl
  | cons line' before ih =>
    obtain ⟨hline', hbefore⟩ := List.forall_mem_cons.1 hbefore
    have hnumber : number + 1 + before.length = number + (line' :: before).length := by
      rw [List.length_cons]
      omega
    rw [List.cons_append, parseLines, ih hbefore, hnumber]
    cases hblank' : Text.blankLine line' with
    | true => rfl
    | false =>
      obtain ⟨row, hrow⟩ := Option.isSome_iff_exists.1
        (hline'.resolve_left (ne_true_of_eq_false hblank'))
      rw [hrow]
      rfl

/-- Lines that are read as values give the rows of the values. -/
theorem mapM_parse?_eq {ls : List (List Char)} {items : List Json}
    (h : List.Forall₂ (fun line item => Json.parse? line = some item) ls items) :
    ls.mapM parse? = items.mapM ofJson? := by
  induction h with
  | nil => rfl
  | cons hitem _ ih => rw [List.mapM_cons, List.mapM_cons, ih, parse?, hitem, Option.bind_some]

theorem parseAll_array {cs : List Char} {items : List Json} {rows : List LogRow}
    (h : Json.parse? cs = some (.array items)) (hrows : items.mapM ofJson? = some rows) :
    parseAll cs = .ok rows := by
  obtain ⟨hblank, hdetect⟩ := detect_array h
  have hlist : listOfJson? ofJson? (.array items) = some rows := hrows
  rw [parseAll, hblank, hdetect]
  simp only [parseArray, h, Option.bind_some, hlist]
  rfl

/-- **The layouts are interchangeable.**  Take a text of lines that begins with a row.  If its
lines are blank or JSON that holds rows, the rows are read from it in the order of the lines, and
from every array of the same values, such as the one with commas between the lines.  If not, the
first line that holds no row is reported by its number. -/
theorem parseAll_lines {content : List Char} {ls : List (List Char)}
    (hlines : Text.Lined content ls) (hfirst : BeginsWithRow ls) :
    (∀ items rows,
      List.Forall₂ (fun line item => Json.parse? line = some item)
        (ls.filter (!Text.blankLine ·)) items →
      items.mapM ofJson? = some rows →
      parseAll content = .ok rows
        ∧ parseAll (Json.arrayText (ls.filter (!Text.blankLine ·))) = .ok rows
        ∧ ∀ array, Json.parse? array = some (.array items) → parseAll array = .ok rows)
    ∧ ∀ before line after, ls = before ++ line :: after →
      (∀ line ∈ before, Text.blankLine line = true ∨ (parse? line).isSome = true) →
      Text.blankLine line = false → parse? line = none →
      (parseAll content).mapError RowsError.fault
        = .error (.below s!"Failed to parse row on line {before.length + 1}" .json) := by
  obtain ⟨hblank, hdetect⟩ := detect_lines hlines hfirst
  -- The first line that is not blank holds a row, which is an object without a version, so the
  -- text is taken for lines of JSON.
  have hparse : parseAll content = parseLines 1 ls := by
    rw [parseAll, hblank, hdetect, hlines.lines_eq]
    rfl
  rw [hparse]
  constructor
  · intro items rows hitems hrows
    refine ⟨parseLines_eq_ok ((mapM_parse?_eq hitems).trans hrows) 1,
      parseAll_array (Json.parse?_arrayText hitems) hrows, fun array harray => ?_⟩
    exact parseAll_array harray hrows
  · rintro before line after rfl hbefore hline hnone
    rw [parseLines_eq_badLine hbefore hline hnone, Nat.add_comm]
    rfl

/-- A log row as it is written. -/
def sampleText : List Char :=
  ("\x7b\"sequenceNumber\":7,\"timestamp\":\"2024-03-01T12:00:00Z\","
    ++ "\"isInput\":true,\"content\":\"\"\x7d").toList

theorem exists_parse?_sampleText :
    ∃ members, Json.parse? sampleText = some (.object members)
      ∧ ∀ member ∈ members, member.1 ≠ "version" := by
  have hopening : (Json.parse? sampleText).bind Json.opening? = some '\x7b' := by decide +kernel
  have hget : ((Json.parse? sampleText).bind (·.get? "version")).isNone = true := by decide +kernel
  cases hparse : Json.parse? sampleText with
  | none =>
    rw [hparse] at hopening
    cases hopening
  | some j =>
    rw [hparse, Option.bind_some] at hopening hget
    cases j with
    | object members =>
      exact ⟨members, rfl, Json.get?_eq_none_iff.1 (Option.isNone_iff_eq_none.1 hget)⟩
    | _ => cases hopening

/-- Two rows among blank lines and with all ends of lines, and an empty object after the first of
them on the fourth line. -/
theorem parseAll_lines_blanks :
    let row : LogRow := ⟨7, ⟨19783, 43200, 0⟩, true, ""⟩
    let content := '\n' :: (sampleText ++ '\r' :: '\n' :: ' ' :: '\t' :: '\n' :: sampleText)
    let spoiled := '\n' :: (sampleText ++ ['\r', '\n', '\n', '\x7b', '\x7d', '\n'])
    Text.Lined content [[], sampleText, [' ', '\t'], sampleText]
      ∧ BeginsWithRow [[], sampleText, [' ', '\t'], sampleText]
      ∧ parseAll content = .ok [row, row]
      ∧ parseAll (Json.arrayText [sampleText, sampleText]) = .ok [row, row]
      ∧ Text.Lined spoiled [[], sampleText, [], ['\x7b', '\x7d']]
      ∧ BeginsWithRow [[], sampleText, [], ['\x7b', '\x7d']]
      ∧ (parseAll spoiled).mapError RowsError.fault
        = .error (.below "Failed to parse row on line 4" .json) := by
  intro row content spoiled
  obtain ⟨members, hmembers, hversion⟩ := exists_parse?_sampleText
  have hparse : parse? sampleText = some row := by decide +kernel
  have hrow : ofJson? (.object members) = some row := by
    rwa [parse?, hmembers, Option.bind_some] at hparse
  have hempty : '\n' ∉ ([] : List Char) := by decide
  have hgap : '\n' ∉ [' ', '\t'] := by decide
  have hfeed : '\n' ∉ sampleText := by decide
  have hcontent : Text.Lined content [[], sampleText, [' ', '\t'], sampleText] :=
    .feed hempty (by decide) (.returnFeed hfeed (.feed hgap (by decide) (.last hfeed (by decide))))
  have hspoiled : Text.Lined spoiled [[], sampleText, [], ['\x7b', '\x7d']] :=
    Text.lines_eq_iff.1 (by decide)
  have hbegins (rest : List (List Char)) : BeginsWithRow ([[]] ++ sampleText :: rest) :=
    .intro (by decide) hmembers hrow hversion
  have hfilter : [[], sampleText, [' ', '\t'], sampleText].filter (!Text.blankLine ·)
      = [sampleText, sampleText] := by
    have hnil : Text.blankLine [] = true := rfl
    have hblanks : Text.blankLine [' ', '\t'] = true := by decide
    have hblank : Text.blankLine sampleText = false := by decide
    simp [hblank, hnil, hblanks]
  have hitems : List.Forall₂ (fun line item => Json.parse? line = some item)
      ([[], sampleText, [' ', '\t'], sampleText].filter (!Text.blankLine ·))
      [.object members, .object members] := by
    rw [hfilter]
    exact .cons hmembers (.cons hmembers .nil)
  have hrows : [.object members, .object members].mapM ofJson? = some [row, row] := by
    rw [List.mapM_cons, List.mapM_cons, hrow]
    rfl
  obtain ⟨hok, harray, -⟩ := (parseAll_lines hcontent (hbegins _)).1 _ [row, row] hitems hrows
  rw [hfilter] at harray
  have hbad := (parseAll_lines hspoiled (hbegins _)).2 [[], sampleText, []] ['\x7b', '\x7d'] [] rfl
    (by simp [hparse, Text.blankLine]) (by decide) (by decide)
  exact ⟨hcontent, hbegins _, hok, harray, hspoiled, hbegins _, hbad⟩

end LogRow

end ConsoleReplay
