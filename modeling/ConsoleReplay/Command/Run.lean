import ConsoleReplay.Command.Arguments
import ConsoleReplay.Json.Printer
import ConsoleReplay.Replayer
import ConsoleReplay.Session.Report
import ConsoleReplay.Settings.Reading
import ConsoleReplay.Source.Layout
import ConsoleReplay.Text.Quoted

/-!
# Running a command

What a command prints depends on its arguments and on what is found under the paths
it reads.  The settings are read first, and nothing is printed unless everything
went well.

## Main definitions

* `Entry`, `Surroundings` — what is found under a path, and all that a command can
  read.
* `Outcome` — what a command prints, or why it prints nothing.
* `Invocation.result`, `Invocation.output` — what a task comes to, and the text that it
  prints.
* `Invocation.run` — carrying out a command.
* `runArguments` — carrying out a command line.
-/

namespace ConsoleReplay

/-- What is found under a path. -/
inductive Entry
  | absent
  | directory
  | file (bytes : List UInt8)

/-- All that a command can read.  It is given as a function, so a command is a function as well. -/
structure Surroundings where
  lookUp : String → Entry
  /-- The path of the user's own settings. -/
  userSettings : Option String
  /-- The standard input. -/
  input : List UInt8

/-- The end of a command.  A command line that is not understood is told apart, since nothing was
tried then. -/
inductive Outcome
  | printed (output : String)
  | failed (fault : Fault)
  /-- The command line is not well-formed. -/
  | misused
  /-- A screen failed, which stopped the program before it printed anything. -/
  | stopped

namespace Surroundings

/-- The text of a file; `context` says what it is read for. -/
def readText (s : Surroundings) (context path : String) : Except Fault (List Char) :=
  let fault := Fault.below s!"{context}: {Text.quotedName path}" .storage
  match s.lookUp path with
  | .file bytes =>
    match Text.Utf8.decode? bytes with
    | some cs => .ok cs
    | none => .error fault
  | _ => .error fault

/-- The settings in a file. -/
def readSettings (s : Surroundings) (path : String) : Except Fault Settings := do
  let cs ← s.readText "Failed to read config file" path
  (Settings.parse cs).mapError (·.within s!"Invalid config file: {Text.quotedName path}")

/-- The settings in the file that was named, or else the user's own.  Without either all settings
have their defaults.  A file that was named has to be there; that of the user need not be. -/
def settings (s : Surroundings) (named : Option String) : Except Fault Settings :=
  match named, s.userSettings with
  | some path, _ => s.readSettings path
  | none, some path =>
    match s.lookUp path with
    | .absent => .ok {}
    | _ => s.readSettings path
  | none, none => .ok {}

/-- The log rows in a file. -/
def readRows (s : Surroundings) (path : String) : Except Fault (List LogRow) := do
  let cs ← s.readText "Failed to read file" path
  (LogRow.parseAll cs).mapError
    (·.fault.within s!"Invalid session log: {Text.quotedName path}")

/-- The bytes of an output, from a file or from the standard input. -/
def readOutput (s : Surroundings) : Option String → Except Fault (List UInt8)
  | none => .ok s.input
  | some path =>
    match s.lookUp path with
    | .file bytes => .ok bytes
    | .directory => .error (.below "Failed to read input" .storage)
    | .absent => .error (.below s!"Failed to open file: {Text.quotedName path}" .storage)

end Surroundings

/-- The text on a screen, without the empty rows at its end. -/
def screenText (screen : Screen) : String :=
  .ofList (screen.text.toList.reverse.dropWhile (· == '\n')).reverse

namespace Invocation

/-- What a task comes to. -/
structure Result where
  /-- The text to be printed. -/
  text : String
  /-- Whether a screen failed on the way, so that the text is not printed. -/
  failed : Bool

/-- What a task comes to.  Only the task that shows a screen can fail. -/
def result (s : Surroundings) (settings : Settings) : Task → Except Fault Result
  | .replay path format => do
    let session := (Replayer.ofSettings settings).parse (← s.readRows path)
    let text := match format with
      | .json => session.toJson.pretty ++ "\n"
      | .text => session.report
    return ⟨text, false⟩
  | .summary path => do
    let summary := (Replayer.ofSettings settings).summarize (← s.readRows path)
    return ⟨summary.toJson.pretty ++ "\n", false⟩
  | .screen path width height => do
    let bytes ← s.readOutput path
    let session := LiveSession.start (width.getD settings.screen.width)
      (height.getD settings.screen.height)
    match session.render (piecesOf readSize bytes) with
    | .ok session => return ⟨screenText session.screen ++ "\n", session.screen.failed⟩
    | .error e => throw (.of e.message)

/-- The text that a task prints. -/
def output (s : Surroundings) (settings : Settings) (task : Task) : Except Fault String :=
  (result s settings task).map Result.text

/-- Carry out a command.  Settings are read first, whatever the task is. -/
def run (invocation : Invocation) (s : Surroundings) : Outcome :=
  let result := do
    let settings ← s.settings invocation.settings
    result s settings invocation.task
  match result with
  | .ok ⟨text, failed⟩ => if failed then .stopped else .printed text
  | .error fault => .failed fault

end Invocation

/-- Carry out a command line. -/
def runArguments (args : List String) (s : Surroundings) : Outcome :=
  match Invocation.ofArguments? args with
  | some invocation => invocation.run s
  | none => .misused

end ConsoleReplay
