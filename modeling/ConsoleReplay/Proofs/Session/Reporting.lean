import ConsoleReplay.Proofs.Capture.Projection
import ConsoleReplay.Proofs.Capture.Rereading
import ConsoleReplay.Proofs.Session.Classified
import ConsoleReplay.Proofs.Text.Lines
import ConsoleReplay.Session.Report

/-!
# The lines of a report

A report has a line for each frame, whatever the captured rows hold.  Three kinds of text can stand
at the end of such a line: a command, which was typed into one line; the size of a degraded frame;
and plain text, in which of all control characters only line feeds and tabs are left, and these are
written as escapes.  So a line feed of a report always ends a line, and the line of a frame can be
read: its columns have fixed widths, but for the time, which ends where its unit begins.

## Main definitions

* `isInline c` — the character neither breaks a line nor begins an escape sequence.
* `ReportEntry` — what a line tells of a frame; `Frame.reportEntry` is that of a frame.
* `readLine? line` — what is read from a line.
* `Frame.lineText f`, `ParsedSession.totalsText s` — the lines of a report without their ends.

## Main results

* `Frame.WellFormed.inline_reportText` — what a report shows of a frame stays on its line.
* `readLine?_lineText` — a line tells of its frame.
* `Replayer.report_lines` — **a report has one line for each frame**, and one for the totals.
-/

namespace ConsoleReplay

/-! ### Texts on one line -/

/-- Whether a character neither breaks a line nor begins an escape sequence. -/
def isInline (c : Char) : Bool := !(c == '\n' || c == '\r' || c == '\x1b')

theorem isInline_iff {c : Char} : isInline c = true ↔ c ≠ '\n' ∧ c ≠ '\r' ∧ c ≠ '\x1b' := by
  simp [isInline, and_assoc]

/-- Nothing in an inline text breaks a line or begins an escape sequence. -/
theorem notMem_of_all_isInline {cs : List Char} (h : cs.all isInline = true) :
    '\n' ∉ cs ∧ '\r' ∉ cs ∧ '\x1b' ∉ cs := by
  have hinline (c : Char) (hc : c ∈ cs) := List.all_eq_true.1 h c hc
  exact ⟨fun hc => absurd (hinline _ hc) (by decide), fun hc => absurd (hinline _ hc) (by decide),
    fun hc => absurd (hinline _ hc) (by decide)⟩

/-- Of the control characters three are not inline. -/
theorem isInline_of_isControl_eq_false {c : Char} (h : Capture.isControl c = false) :
    isInline c = true := by
  refine isInline_iff.2 ⟨?_, ?_, ?_⟩
  all_goals
    rintro rfl
    exact absurd h (by decide)

/-- The digits of a number are inline. -/
theorem all_isInline_toString (n : Nat) : (toString n).toList.all isInline = true := by
  refine List.all_eq_true.2 fun c hc => isInline_iff.2 ?_
  have hdigit := Capture.isDigit_of_mem_valueText c hc
  refine ⟨?_, ?_, ?_⟩
  all_goals
    rintro rfl
    exact absurd hdigit (by decide)

theorem all_isInline_replicate (n : Nat) : (List.replicate n ' ').all isInline = true :=
  List.all_eq_true.2 fun _ hc => List.eq_of_mem_replicate hc ▸ rfl

/-- With line feeds and tabs written as escapes, a plain text stays on its line. -/
theorem all_isInline_onOneLine {c : Char} (h : Capture.isControl c = true → c = '\n' ∨ c = '\t') :
    (Frame.onOneLine c).all isInline = true := by
  unfold Frame.onOneLine
  split
  · rfl
  · rfl
  · next hfeed htab =>
    have hshown : Capture.isControl c = false :=
      Bool.eq_false_iff.2 fun hcontrol => (h hcontrol).elim hfeed htab
    rw [List.all_cons, isInline_of_isControl_eq_false hshown]
    rfl

/-! ### The line of a frame -/

/-- What a line of a report tells of a frame.  It can be read off the line, although the columns
have no marks between them. -/
structure ReportEntry where
  timestamp : Nat
  direction : Direction
  flags : List Char
  text : List Char
  deriving DecidableEq, Repr

namespace Frame

/-- What the line of a frame tells. -/
def reportEntry (f : Frame) : ReportEntry := ⟨f.timestamp, f.direction, f.flags, f.reportText⟩

/-- The line of a frame without its end. -/
def lineText (f : Frame) : List Char :=
  alignRight 8 (toString f.timestamp).toList ++ (['m', 's', ' ']
    ++ (alignLeft 6 f.direction.name.toList ++ ([' '] ++ (alignLeft 4 f.flags ++ ([' ']
    ++ f.reportText)))))

theorem reportLine_eq (f : Frame) : f.reportLine = f.lineText ++ ['\n'] := by
  simp only [reportLine, lineText, List.append_assoc]

/-- Flags fill a column of four characters: they are marks, and blanks behind them. -/
theorem flags_column (f : Frame) :
    (alignLeft 4 f.flags).length = 4 ∧ (alignLeft 4 f.flags).takeWhile (· != ' ') = f.flags
      ∧ (alignLeft 4 f.flags).all isInline = true := by
  unfold flags
  cases f.isCommand <;> cases f.isTabCompletion <;> cases f.isPrompt <;> cases f.degraded
    <;> decide

/-- What a report shows of a frame stays on its line. -/
theorem WellFormed.inline_reportText {d : Dialect} {f : Frame} (h : f.WellFormed d) :
    f.reportText.all isInline = true := by
  unfold reportText
  split
  · next command hcommand =>
    -- A command is shown as it was typed, and a command line has no control character in it.
    have hmark : f.isCommand = true := h.isCommand_iff_command.2 (by rw [hcommand]; rfl)
    obtain ⟨-, -, command', hcommand', hline, -⟩ := h.of_isCommand hmark
    obtain rfl : command = command' := Option.some.inj (hcommand.symm.trans hcommand')
    refine List.all_eq_true.2 fun c hc => isInline_iff.2 ⟨?_, ?_, ?_⟩
    · rintro rfl
      exact hline.feed_notMem hc
    · rintro rfl
      exact hline.return_notMem hc
    · rintro rfl
      exact hline.escape_notMem hc
  · split
    · rw [String.toList_append, String.toList_append, List.all_append, List.all_append,
        all_isInline_toString]
      decide
    · -- Other text is shown without sequences, and of the controls that are left line feeds and
      -- tabs are written as escapes.
      have hplain : Capture.IsPlain f.plainText.toList := by
        rw [plainText, Capture.plainText, String.toList_ofList]
        exact Capture.isPlain_plainChars _
      rw [List.all_flatMap]
      refine List.all_eq_true.2 fun c hc => all_isInline_onOneLine ?_
      exact hplain c ((Text.isPrefix_trimEnd _).subset hc)

theorem WellFormed.inline_lineText {d : Dialect} {f : Frame} (h : f.WellFormed d) :
    f.lineText.all isInline = true := by
  have hname : (alignLeft 6 f.direction.name.toList).all isInline = true := by
    cases f.direction <;> decide
  rw [lineText, alignRight]
  simp only [List.all_append, all_isInline_toString, all_isInline_replicate, hname,
    f.flags_column.2.2, h.inline_reportText]
  decide

end Frame

/-! ### Reading lines

The line of a frame is written in columns.  To see that nothing of the frame is lost in it, the
line is read again, by its blanks, its digits and the widths of its columns. -/

/-- The direction with a name. -/
def Direction.ofColumn? (name : List Char) : Option Direction :=
  [input, output].find? (·.name.toList = name)

/-- What is read from the columns of a line, the last one as wide as the line. -/
def readColumns? (timestamp : Nat) (columns : List Char) : Option ReportEntry :=
  (Direction.ofColumn? ((columns.take 6).takeWhile (· != ' '))).map fun direction =>
    { timestamp := timestamp
      direction := direction
      flags := ((columns.drop 7).take 4).takeWhile (· != ' ')
      text := columns.drop 12 }

/-- What is read from a line: blanks and the digits of a time, its unit, and columns. -/
def readLine? (line : List Char) : Option ReportEntry :=
  let cs := line.dropWhile (· == ' ')
  readColumns? (Nat.ofDigitChars 10 (cs.takeWhile Char.isDigit) 0)
    ((cs.dropWhile Char.isDigit).drop 3)

theorem readColumns?_eq (timestamp : Nat) (direction : Direction) {marks : List Char}
    (hmarks : marks.length = 4) (text : List Char) :
    readColumns? timestamp
        (alignLeft 6 direction.name.toList ++ ([' '] ++ (marks ++ ([' '] ++ text))))
      = some ⟨timestamp, direction, marks.takeWhile (· != ' '), text⟩ := by
  match marks, hmarks with
  | [_, _, _, _], _ => cases direction <;> rfl

/-- The blanks in front of a number are passed over. -/
theorem dropWhile_alignRight (width n : Nat) (rest : List Char) :
    (alignRight width (toString n).toList ++ rest).dropWhile (· == ' ')
      = (toString n).toList ++ rest := by
  have hblanks : ∀ c ∈ List.replicate (width - (toString n).toList.length) ' ',
      (c == ' ') = true := fun c hc => beq_iff_eq.2 (List.eq_of_mem_replicate hc)
  obtain ⟨c, digits, hdigits⟩ := List.exists_cons_of_ne_nil (Capture.valueText_ne_nil n)
  have hc : c.isDigit = true :=
    Capture.isDigit_of_mem_valueText (n := n) c (hdigits ▸ List.mem_cons_self)
  -- The padding ends where the number begins, since a digit is no blank.
  have hshown : ¬ (c == ' ') = true := by
    intro heq
    obtain rfl := eq_of_beq heq
    exact absurd hc (by decide)
  have hfirst : (toString n).toList = c :: digits := hdigits
  rw [alignRight, List.append_assoc, List.dropWhile_append_of_pos hblanks, hfirst]
  exact List.dropWhile_cons_of_neg hshown

theorem ofDigitChars_toString (n : Nat) : Nat.ofDigitChars 10 (toString n).toList 0 = n := by
  have hdigits : (toString n).toList = Nat.toDigits 10 n := Capture.valueText_eq n
  rw [hdigits, Nat.ofDigitChars_toDigits (by omega) (by omega)]

/-- A line tells of its frame. -/
theorem readLine?_lineText (f : Frame) : readLine? f.lineText = some f.reportEntry := by
  have hdigits : ∀ c ∈ (toString f.timestamp).toList, c.isDigit = true :=
    Capture.isDigit_of_mem_valueText
  obtain ⟨hwidth, hflags, -⟩ := f.flags_column
  -- The digits end where the unit begins.
  rw [readLine?, Frame.lineText, dropWhile_alignRight, List.takeWhile_append_of_pos hdigits,
    List.dropWhile_append_of_pos hdigits, List.cons_append,
    List.takeWhile_cons_of_neg (by decide), List.dropWhile_cons_of_neg (by decide),
    List.append_nil, ofDigitChars_toString]
  exact (readColumns?_eq _ _ hwidth _).trans (by rw [hflags]; rfl)

/-! ### The lines of a report -/

/-- The line of the totals without its end. -/
def ParsedSession.totalsText (s : ParsedSession) : List Char :=
  ("-- " ++ toString s.frames.length ++ " frames, " ++ toString s.commandCount
    ++ " commands (" ++ toString s.dialectCommandCount ++ " dialect), "
    ++ toString s.totalDuration ++ "ms").toList

theorem ParsedSession.inline_totalsText (s : ParsedSession) :
    s.totalsText.all isInline = true := by
  simp only [totalsText, String.toList_append, List.all_append, all_isInline_toString]
  decide

theorem ParsedSession.toList_report (s : ParsedSession) :
    s.report.toList = (s.frames.map Frame.lineText ++ [s.totalsText]).flatMap (· ++ ['\n']) := by
  have hlines : Frame.reportLine = fun f => f.lineText ++ ['\n'] := funext Frame.reportLine_eq
  have htotals : s.totalsLine = s.totalsText ++ ['\n'] := by
    have hend : ("ms\n" : String) = "ms" ++ "\n" := rfl
    rw [totalsLine, totalsText, hend, ← String.append_assoc, String.toList_append]
    rfl
  rw [report, String.toList_ofList, List.flatMap_append, List.flatMap_map, List.flatMap_singleton,
    hlines, htotals]

/-- The lines of frames and of the totals are the lines of a report. -/
theorem ParsedSession.lines_report {s : ParsedSession} {d : Dialect}
    (h : ∀ f ∈ s.frames, f.WellFormed d) :
    Text.lines s.report.toList = s.frames.map Frame.lineText ++ [s.totalsText]
      ∧ ∀ line ∈ s.frames.map Frame.lineText ++ [s.totalsText],
          '\n' ∉ line ∧ '\r' ∉ line ∧ '\x1b' ∉ line := by
  have hinline : ∀ line ∈ s.frames.map Frame.lineText ++ [s.totalsText],
      '\n' ∉ line ∧ '\r' ∉ line ∧ '\x1b' ∉ line := by
    refine List.forall_mem_append.2 ⟨List.forall_mem_map.2 fun f hf => ?_, ?_⟩
    · exact notMem_of_all_isInline (h f hf).inline_lineText
    · exact List.forall_mem_singleton.2 (notMem_of_all_isInline s.inline_totalsText)
  -- The lines come back as they were written because none of them has a line feed, or ends with
  -- a carriage return that the reader would take for part of the end of the line.
  refine ⟨Text.lines_eq_iff.2 ?_, hinline⟩
  rw [s.toList_report]
  refine Text.lined_flatMap_feed fun line hline => ?_
  obtain ⟨hfeed, hreturn, -⟩ := hinline line hline
  exact ⟨hfeed, fun hlast => hreturn (List.mem_of_getLast? hlast)⟩

/-- **A report has one line for each frame**, in order, and a last line with the totals, whatever
the rows hold, the dialect, the policy and the settings.  Every line ends with its only line feed
and has no carriage return and no escape in it, and what is read from the line of a frame is the
time, the direction, the flags and the text of that frame. -/
theorem Replayer.report_lines (r : Replayer) (rows : List LogRow) :
    let session := r.parse rows
    let lines := Text.lines session.report.toList
    lines.length = session.frames.length + 1
      ∧ session.report.toList = lines.flatMap (· ++ ['\n'])
      ∧ (∀ line ∈ lines, '\n' ∉ line ∧ '\r' ∉ line ∧ '\x1b' ∉ line)
      ∧ (∀ (i : Nat) (f : Frame), session.frames[i]? = some f → ∃ line, lines[i]? = some line
          ∧ readLine? line = some ⟨f.timestamp, f.direction, f.flags, f.reportText⟩)
      ∧ lines[session.frames.length]? = some
          ("-- " ++ toString session.frames.length ++ " frames, " ++ toString session.commandCount
            ++ " commands (" ++ toString session.dialectCommandCount ++ " dialect), "
            ++ toString session.totalDuration ++ "ms").toList := by
  intro session lines
  -- Only well formed frames have commands that fit on a line, so this is where the whole
  -- pipeline is needed.
  have hwf : ∀ f ∈ session.frames, f.WellFormed r.dialect :=
    wellFormed_refine r.policy (r.segmenter.wellFormed_frames (LogRow.inOrder rows))
  obtain ⟨hsame, hinline⟩ := ParsedSession.lines_report hwf
  have hlines : lines = session.frames.map Frame.lineText ++ [session.totalsText] := hsame
  have hlength : (session.frames.map Frame.lineText).length = session.frames.length :=
    List.length_map _
  clear_value lines
  subst hlines
  refine ⟨?_, session.toList_report, hinline,
    fun i f hf => ⟨f.lineText, ?_, readLine?_lineText f⟩, ?_⟩
  · rw [List.length_append, hlength, List.length_singleton]
  · have hplace : (session.frames.map Frame.lineText)[i]? = some f.lineText := by
      rw [List.getElem?_map, hf, Option.map_some]
    rw [List.getElem?_append_left (List.getElem?_eq_some_iff.1 hplace).1, hplace]
  · have hlast : (session.frames.map Frame.lineText ++ [session.totalsText])[session.frames.length]?
        = some session.totalsText := by
      rw [← hlength, List.getElem?_concat_length]
    rw [hlast, ParsedSession.totalsText]

/-- The report of a listing: a command, and the two rows that it printed, which share a line. -/
theorem Replayer.report_lines_of_listing :
    let r := Replayer.ofSettings {}
    let rows : List LogRow := [⟨1, ⟨17166, 100, 0⟩, true, "/ip route print\r"⟩,
      ⟨2, ⟨17166, 100, 250000000⟩, false, "0 A\t10.0.0.0/8\r\n1 D\tether1\r\n"⟩]
    let report := "       0ms input  C    /ip route print\n"
      ++ "     250ms output -    0 A\\t10.0.0.0/8\\n1 D\\tether1\n"
      ++ "-- 2 frames, 1 commands (1 dialect), 250ms\n"
    (r.parse rows).report = report
      ∧ (Text.lines report.toList).length = 3
      ∧ (Text.lines report.toList)[1]?.bind readLine?
        = some ⟨250, .output, ['-'], "0 A\\t10.0.0.0/8\\n1 D\\tether1".toList⟩ := by
  intro r rows report
  -- The sort does not reduce, so it is taken away before the session is evaluated.
  have hsorted : LogRow.inOrder rows = rows := List.mergeSort_of_pairwise (by decide)
  have hreport : (r.parse rows).report = report := by
    rw [parse, Segmenter.segment, hsorted]
    decide +kernel
  have hframes : (r.parse rows).frames.map Frame.reportEntry
      = [⟨0, .input, ['C'], "/ip route print".toList⟩,
        ⟨250, .output, ['-'], "0 A\\t10.0.0.0/8\\n1 D\\tether1".toList⟩] := by
    rw [parse, Segmenter.segment, hsorted]
    decide +kernel
  have hcount : (r.parse rows).frames.length = 2 := by
    rw [← List.length_map Frame.reportEntry, hframes]
    rfl
  obtain ⟨hlength, -, -, hread, -⟩ := report_lines r rows
  rw [hreport, hcount] at hlength
  refine ⟨hreport, hlength, ?_⟩
  have hsecond := congrArg (·[1]?) hframes
  rw [List.getElem?_map] at hsecond
  obtain ⟨f, hf, hentry⟩ := Option.map_eq_some_iff.1 hsecond
  obtain ⟨line, hline, hline'⟩ := hread 1 f hf
  rw [hreport] at hline
  rw [hline, Option.bind_some, hline', ← hentry]
  rfl

end ConsoleReplay
