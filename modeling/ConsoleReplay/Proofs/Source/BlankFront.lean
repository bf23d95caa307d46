import ConsoleReplay.Proofs.Json.Document
import ConsoleReplay.Proofs.Source.Events
import ConsoleReplay.Proofs.Text.Lines
import ConsoleReplay.Source.Layout

/-!
# Blank lines in front of a log

The layout of a log is told by what stands behind its blanks, so blank lines in front of it make no
difference there.  The readers then get the text with its blank lines.  An array is read behind
them, and a reader of lines passes over them, though it counts them.  The reader of a recording
takes the first of them for the header, and finds none in it.

## Main definitions

* `Text.BlankLines gap n` — a text is `n` blank lines.
* `RowsError.later n` — the same error `n` lines further down.

## Main results

* `LogRow.detect_append` — blank lines do not change the layout.
* `LogRow.parseArray_append`, `LogRow.parseLines_append` — nor what is read of an array or of lines.
* `LogRow.parseRecording_append` — a recording cannot be read behind them.
* `LogRow.parseAll_append_of_blankLines` — **which layouts may have blank lines in front**.
-/

namespace ConsoleReplay

namespace Text

/-- A text is so many blank lines: spaces, tabs and carriage returns, with a line feed after each
line. -/
inductive BlankLines : List Char → Nat → Prop
  | nil : BlankLines [] 0
  | line {line rest : List Char} {n : Nat} (hline : ∀ c ∈ line, c ∈ [' ', '\t', '\r'])
      (hrest : BlankLines rest n) : BlankLines (line ++ '\n' :: rest) (n + 1)

variable {gap line : List Char} {n : Nat}

theorem isSpace_of_mem_blanks {c : Char} (h : c ∈ [' ', '\t', '\r']) :
    Json.Reader.isSpace c = true := by
  simp only [List.mem_cons, List.not_mem_nil, or_false] at h
  rcases h with rfl | rfl | rfl <;> rfl

theorem BlankLines.isSpace (h : BlankLines gap n) : ∀ c ∈ gap, Json.Reader.isSpace c = true := by
  induction h with
  | nil => exact List.forall_mem_nil _
  | line hline _ ih =>
    refine List.forall_mem_append.2 ⟨fun c hc => isSpace_of_mem_blanks (hline c hc), ?_⟩
    exact List.forall_mem_cons.2 ⟨rfl, ih⟩

theorem BlankLines.blankLine (h : BlankLines gap n) : blankLine gap = true :=
  List.all_eq_true.2 fun c hc => Json.isBlank_of_isSpace (h.isSpace c hc)

theorem blankLine_of_front {first : List Char} (hline : ∀ c ∈ line, c ∈ [' ', '\t', '\r'])
    (hfront : first <+: line) : blankLine first = true :=
  List.all_eq_true.2 fun c hc =>
    Json.isBlank_of_isSpace (isSpace_of_mem_blanks (hline c (hfront.subset hc)))

theorem lineFeed_notMem (hline : ∀ c ∈ line, c ∈ [' ', '\t', '\r']) : '\n' ∉ line := by
  intro hmem
  exact absurd (hline '\n' hmem) (by decide)

/-- Blank lines in front of a text are lines of their own. -/
theorem BlankLines.exists_lines (h : BlankLines gap n) (cs : List Char) :
    ∃ blanks, blanks.length = n ∧ (∀ line ∈ blanks, Text.blankLine line = true)
      ∧ lines (gap ++ cs) = blanks ++ lines cs := by
  induction h with
  | nil => exact ⟨[], rfl, List.forall_mem_nil _, rfl⟩
  | @line line rest n hline _ ih =>
    obtain ⟨blanks, hlen, hblanks, hlines⟩ := ih
    obtain ⟨first, hfront, hfirst⟩ := exists_linesBy_cons '\r' (lineFeed_notMem hline) (rest ++ cs)
    refine ⟨first :: blanks, congrArg (· + 1) hlen, ?_, ?_⟩
    · exact List.forall_mem_cons.2 ⟨blankLine_of_front hline hfront, hblanks⟩
    · rw [List.append_assoc, List.cons_append, lines, hfirst, ← lines, hlines, List.cons_append]

end Text

/-- The same error in a text with so many more lines in front.  Only one about a line of the text
knows where it is. -/
def RowsError.later (n : Nat) : RowsError → RowsError
  | .badLine number => .badLine (number + n)
  | e => e

namespace LogRow

variable {gap : List Char} {n : Nat}

/-! ### Layouts -/

/-- Blanks in front of a text do not change its layout. -/
theorem detect_append (hgap : Text.blankLine gap = true) (content : List Char) :
    Layout.detect (gap ++ content) = Layout.detect content := by
  rw [Layout.detect, Text.trimStart_append_of_blank hgap, Layout.detect]

/-- The layout is told by what stands behind the blanks at the front. -/
theorem detect_trimStart (content : List Char) :
    Layout.detect (Text.trimStart content) = Layout.detect content := by
  have htrim : Text.trimStart (Text.trimStart content) = Text.trimStart content :=
    List.dropWhile_idempotent Text.isBlank content
  rw [Layout.detect, htrim, Layout.detect]

theorem blankLine_append (hgap : Text.blankLine gap = true) (content : List Char) :
    Text.blankLine (gap ++ content) = Text.blankLine content := by
  have happend : Text.blankLine (gap ++ content)
      = (Text.blankLine gap && Text.blankLine content) := List.all_append
  rw [happend, hgap, Bool.true_and]

/-! ### Arrays -/

theorem parseArray_append (hgap : ∀ c ∈ gap, Json.Reader.isSpace c = true) (content : List Char) :
    parseArray (gap ++ content) = parseArray content := by
  have hskip : Json.Reader.skipSpace (gap ++ content) = Json.Reader.skipSpace content :=
    List.dropWhile_append_of_pos hgap
  have hparse : Json.parse? (gap ++ content) = Json.parse? content := by
    rw [← Json.parse?_skipSpace, hskip, Json.parse?_skipSpace]
  rw [parseArray, hparse, parseArray]

/-! ### Lines -/

/-- Blank lines hold no rows, but they count. -/
theorem parseLines_append {blanks : List (List Char)}
    (hblanks : ∀ line ∈ blanks, Text.blankLine line = true) (number : Nat) (ls : List (List Char)) :
    parseLines number (blanks ++ ls) = parseLines (number + blanks.length) ls := by
  induction blanks generalizing number with
  | nil => rfl
  | cons line blanks ih =>
    obtain ⟨hline, hblanks⟩ := List.forall_mem_cons.1 hblanks
    rw [List.cons_append, parseLines, if_pos hline, ih hblanks, List.length_cons]
    congr 1
    omega

/-- Where the first line is counted from makes no difference to the rows.  Only the errors know
it. -/
theorem parseLines_add (number n : Nat) (ls : List (List Char)) :
    parseLines (number + n) ls = (parseLines number ls).mapError (RowsError.later n) := by
  induction ls generalizing number with
  | nil => rfl
  | cons line ls ih =>
    have hnext : number + n + 1 = number + 1 + n := by omega
    rw [parseLines, parseLines, hnext, ih]
    split
    · rfl
    · cases parse? line with
      | none => rfl
      | some row => cases parseLines (number + 1) ls <;> rfl

/-! ### Recordings

The layout is told by the first line that shows something, the header by the first line there is.
A blank line in front makes the difference. -/

/-- Nothing can be read of blanks. -/
theorem parse?_eq_none_of_isSpace {cs : List Char} (h : ∀ c ∈ cs, Json.Reader.isSpace c = true) :
    Json.parse? cs = none := by
  have hskip : Json.Reader.skipSpace cs = [] := List.dropWhile_eq_nil_iff.2 h
  rw [← Json.parse?_skipSpace, hskip]
  rfl

/-- The header of a recording cannot be read behind blank lines. -/
theorem parseRecording_append (hgap : Text.BlankLines gap n) (hn : n ≠ 0) (content : List Char) :
    parseRecording (gap ++ content) = .error (.recording .badHeader) := by
  cases hgap with
  | nil => exact absurd rfl hn
  | @line line rest _ hline hrest =>
    -- The first line of the text is the first blank one, and no JSON value can be read from
    -- blanks.
    obtain ⟨first, hfront, hlines⟩ := Text.exists_linesBy_cons '\r' (Text.lineFeed_notMem hline)
      (rest ++ content)
    have hfirst : Text.lines (line ++ '\n' :: rest ++ content)
        = first :: Text.lines (rest ++ content) := by
      rw [List.append_assoc, List.cons_append]
      exact hlines
    have hnone := parse?_eq_none_of_isSpace fun c hc =>
      Text.isSpace_of_mem_blanks (hline c (hfront.subset hc))
    rw [parseRecording, Recording.parse_encode, hfirst, List.map_cons, Recording.ofLines, hnone]
    rfl

/-! ### All layouts -/

/-- A text with blank lines in front is read like the text, unless it is a recording. -/
theorem parseAll_append (hgap : Text.BlankLines gap n) {content : List Char}
    (hlayout : Layout.detect content ≠ .recording) :
    parseAll (gap ++ content) = (parseAll content).mapError (RowsError.later n) := by
  rw [parseAll, blankLine_append hgap.blankLine, detect_append hgap.blankLine, parseAll]
  -- The layout is guessed behind the blank lines and so stays the same; only the numbers of the
  -- lines are later.
  split
  · rfl
  · cases hdetect : Layout.detect content with
    | jsonArray =>
      dsimp only
      rw [parseArray_append hgap.isSpace, parseArray]
      split <;> rfl
    | jsonLines =>
      obtain ⟨blanks, rfl, hblanks, hlines⟩ := hgap.exists_lines content
      dsimp only
      rw [hlines, parseLines_append hblanks, parseLines_add]
    | recording => exact absurd hdetect hlayout

/-- A text with blank lines in front cannot be read if it is a recording. -/
theorem parseAll_append_recording (hgap : Text.BlankLines gap n) (hn : n ≠ 0) {content : List Char}
    (hlayout : Layout.detect content = .recording) :
    parseAll (gap ++ content) = .error (.recording .badHeader) := by
  -- A blank text has no header and so is no recording.
  have hblank : Text.blankLine content = false := by
    refine Bool.eq_false_iff.2 fun hblank => ?_
    have htrim : Text.trimStart content = [] :=
      List.dropWhile_eq_nil_iff.2 (List.all_eq_true.1 hblank)
    rw [← detect_trimStart, htrim] at hlayout
    exact absurd hlayout (by decide)
  rw [parseAll, blankLine_append hgap.blankLine, hblank, detect_append hgap.blankLine, hlayout]
  exact parseRecording_append hgap hn content

theorem mapError_eq_ok_iff {ε ε' α : Type} {f : ε → ε'} {result : Except ε α} {a : α} :
    result.mapError f = .ok a ↔ result = .ok a := by
  cases result <;> simp [Except.mapError]

/-- **Which layouts may have blank lines in front.**  The layout of a log is the same with them
and without, as it is told by what stands behind its blanks.  An array, and rows on lines, are
read from a text with blank lines in front exactly when they are read without, and the rows are
the same; a bad line is reported as many lines further down.  A recording cannot be read behind
a blank line. -/
theorem parseAll_append_of_blankLines (hgap : Text.BlankLines gap n) (content : List Char) :
    Layout.detect (gap ++ content) = Layout.detect content
    ∧ Layout.detect (Text.trimStart content) = Layout.detect content
    ∧ (Layout.detect content ≠ .recording →
        (∀ rows, parseAll (gap ++ content) = .ok rows ↔ parseAll content = .ok rows)
        ∧ parseAll (gap ++ content) = (parseAll content).mapError (RowsError.later n))
    ∧ (Layout.detect content = .recording → n ≠ 0 →
        parseAll (gap ++ content) = .error (.recording .badHeader)) := by
  refine ⟨detect_append hgap.blankLine content, detect_trimStart content, ?_, ?_⟩
  · intro hlayout
    have hparse := parseAll_append hgap hlayout
    refine ⟨fun rows => ?_, hparse⟩
    rw [hparse, mapError_eq_ok_iff]
  · exact fun hlayout hn => parseAll_append_recording hgap hn hlayout

/-- Two blank lines in front of an array, of lines the second of which is no row, and of a
recording. -/
theorem parseAll_append_two_blankLines :
    let gap := [' ', '\t', '\n', '\r', '\n']
    let array := "[[7,\"2024-03-01T12:00:00Z\",true,\"\"]]".toList
    let lines := "\x7b\"sequenceNumber\":7\x7d".toList
    let recording := "\x7b\"version\": 3\x7d\n".toList
    Text.BlankLines gap 2
      ∧ Layout.detect array = .jsonArray ∧ Layout.detect lines = .jsonLines
      ∧ Layout.detect recording = .recording
      ∧ parseAll (gap ++ array) = .ok [⟨7, ⟨19783, 43200, 0⟩, true, ""⟩]
      ∧ parseAll (gap ++ lines) = .error (.badLine 3)
      ∧ parseAll (gap ++ recording) = .error (.recording .badHeader) := by
  intro gap array lines recording
  have hgap : Text.BlankLines gap 2 := by
    have hsecond := @Text.BlankLines.line ['\r'] _ 0 (by simp) .nil
    exact @Text.BlankLines.line [' ', '\t'] _ 1 (by simp) hsecond
  have harray : Layout.detect array = .jsonArray := by decide +kernel
  have hlines : Layout.detect lines = .jsonLines := by decide +kernel
  have hrecording : Layout.detect recording = .recording := by decide +kernel
  have hrow : parseAll array = .ok [⟨7, ⟨19783, 43200, 0⟩, true, ""⟩] := by decide +kernel
  have hbad : parseAll lines = .error (.badLine 1) := by decide +kernel
  obtain ⟨-, -, hread, -⟩ := parseAll_append_of_blankLines hgap array
  obtain ⟨-, -, hreadLines, -⟩ := parseAll_append_of_blankLines hgap lines
  obtain ⟨-, -, -, hfail⟩ := parseAll_append_of_blankLines hgap recording
  refine ⟨hgap, harray, hlines, hrecording, ?_, ?_, hfail hrecording (by decide)⟩
  · exact ((hread (by rw [harray]; decide)).1 _).2 hrow
  · rw [(hreadLines (by rw [hlines]; decide)).2, hbad]
    rfl

/-- A recording of one event, and nothing of it behind a blank line. -/
theorem parseAll_recording_behind_blankLine :
    let recording := "\x7b\"version\": 3\x7d\n[0.5, \"o\", \"x\"]\n".toList
    Text.BlankLines ['\n'] 1
      ∧ parseAll recording = .ok [⟨1, ⟨0, 0, 500000000⟩, false, "x"⟩]
      ∧ parseAll ('\n' :: recording) = .error (.recording .badHeader)
      ∧ ¬ ∀ rows, parseAll (['\n'] ++ recording) = .ok rows ↔ parseAll recording = .ok rows := by
  intro recording
  have hgap : Text.BlankLines ['\n'] 1 := @Text.BlankLines.line [] _ 0 (List.forall_mem_nil _) .nil
  have hlayout : Layout.detect recording = .recording := by decide +kernel
  have hevent : parseAll recording = .ok [⟨1, ⟨0, 0, 500000000⟩, false, "x"⟩] := by
    have hall : recording.all (fun c => c.toNat < 0x80) = true := by decide +kernel
    have hascii : ∀ c ∈ recording, c.toNat < 0x80 := fun c hc =>
      of_decide_eq_true (List.all_eq_true.1 hall c hc)
    have hblank : Text.blankLine recording = false := by decide
    rw [parseAll, hblank, hlayout]
    dsimp only
    rw [parseRecording, Text.Utf8.encode_ascii hascii]
    decide +kernel
  have hfail := parseAll_append_recording hgap Nat.one_ne_zero hlayout
  refine ⟨hgap, hevent, hfail, fun hsame => ?_⟩
  have hok := (hsame _).2 hevent
  rw [hfail] at hok
  cases hok

end LogRow

end ConsoleReplay
