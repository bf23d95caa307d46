import ConsoleReplay.Session.Fragments

/-!
# The text report of a session

A report has one line for every frame, with its time, direction, flags and text,
and a last line with the totals.

## Main definitions

* `Frame.reportLine f` — the line of a frame.
* `ParsedSession.report s` — the report of a session.
-/

namespace ConsoleReplay

/-- A text with blanks in front, up to a width. -/
def alignRight (width : Nat) (cs : List Char) : List Char :=
  List.replicate (width - cs.length) ' ' ++ cs

/-- A text with blanks behind, up to a width. -/
def alignLeft (width : Nat) (cs : List Char) : List Char :=
  cs ++ List.replicate (width - cs.length) ' '

namespace Frame

/-- The flags of a frame: command, completion, prompt, degraded, or a hyphen if
there is none. -/
def flags (f : Frame) : List Char :=
  let marks := (if f.isCommand then ['C'] else []) ++ (if f.isTabCompletion then ['T'] else [])
    ++ (if f.isPrompt then ['P'] else []) ++ (if f.degraded then ['!'] else [])
  if marks.isEmpty then ['-'] else marks

/-- A character on a line: line feeds and tabs are written as escapes, so that a frame never takes
more than one line. -/
def onOneLine (c : Char) : List Char :=
  match c with
  | '\n' => ['\\', 'n']
  | '\t' => ['\\', 't']
  | c => [c]

/-- What a report shows of a frame: its command, the size of a degraded frame, or
its plain text. -/
def reportText (f : Frame) : List Char :=
  match f.command? with
  | some command => command.toList
  | none =>
    if f.degraded then
      ("<" ++ toString f.rawContent.utf8ByteSize ++ " raw bytes>").toList
    else (Text.trimEnd f.plainText.toList).flatMap onOneLine

/-- The line of a frame.  Time, direction and flags stand in columns; a time that is too long for
its column shifts the others. -/
def reportLine (f : Frame) : List Char :=
  alignRight 8 (toString f.timestamp).toList ++ ['m', 's', ' ']
    ++ alignLeft 6 f.direction.name.toList ++ [' '] ++ alignLeft 4 f.flags ++ [' ']
    ++ f.reportText ++ ['\n']

end Frame

namespace ParsedSession

/-- The line of the totals. -/
def totalsLine (s : ParsedSession) : List Char :=
  ("-- " ++ toString s.frames.length ++ " frames, " ++ toString s.commandCount
    ++ " commands (" ++ toString s.dialectCommandCount ++ " dialect), "
    ++ toString s.totalDuration ++ "ms\n").toList

/-- The report of a session. -/
def report (s : ParsedSession) : String :=
  .ofList (s.frames.flatMap Frame.reportLine ++ s.totalsLine)

end ParsedSession

end ConsoleReplay
