import ConsoleReplay.Dialect.Recognition

/-!
# Frames

A frame is one thing that a replay shows: a piece of a session with its time, its
text in three forms, and what is known about it.

## Main definitions

* `CommandContext` — what is known about the command line in a frame.
* `Frame` — one thing that a replay shows.
* `ParsedSession` — the frames of a session, its length and its counts.
* `ParsedSession.ofFrames frames` — the session that frames make up.
-/

namespace ConsoleReplay

/-- What is known about the command line in a frame.  An analysis sets at least one of the marks, or
gives no context at all. -/
structure CommandContext where
  isCommand : Bool := false
  command : Option String := none
  isTabCompletion : Bool := false
  isPrompt : Bool := false
  /-- What the dialect recognises in the command. -/
  recognition : Option Recognition := none
  deriving DecidableEq, Repr

/-- The direction of a piece of a session. -/
inductive Direction
  /-- Typed by the user. -/
  | input
  /-- Printed by the device. -/
  | output
  deriving DecidableEq, Repr

/-- The name of a direction. -/
def Direction.name : Direction → String
  | .input => "input"
  | .output => "output"

/-- One thing that a replay shows, with its content in three forms: as it was captured, without
anything but text and styles, and as markup. -/
structure Frame where
  /-- Milliseconds since the first row of the session. -/
  timestamp : Nat
  direction : Direction
  /-- The text as it was captured. -/
  rawContent : String
  /-- The text without the control sequences that are not styles. -/
  cleanedContent : String
  /-- The text as markup. -/
  styledContent : String
  context : Option CommandContext
  /-- The text could not be analysed: only its captured form means anything. -/
  degraded : Bool
  deriving DecidableEq, Repr

namespace Frame

def isInput (f : Frame) : Bool := f.direction == .input

def isOutput (f : Frame) : Bool := f.direction == .output

def isCommand (f : Frame) : Bool := f.context.any (·.isCommand)

def isPrompt (f : Frame) : Bool := f.context.any (·.isPrompt)

def isTabCompletion (f : Frame) : Bool := f.context.any (·.isTabCompletion)

/-- The text of the command. -/
def command? (f : Frame) : Option String := f.context.bind (·.command)

/-- What the dialect recognises in the command. -/
def recognition? (f : Frame) : Option Recognition := f.context.bind (·.recognition)

def isDialectCommand (f : Frame) : Bool := f.recognition?.any (·.isDialectCommand)

end Frame

/-- The largest timestamp among frames; without frames it is zero.  It is that of the last frame as
long as the times do not decrease. -/
def lastTimestamp (frames : List Frame) : Nat :=
  frames.foldl (fun n f => max n f.timestamp) 0

/-- A session as a replay shows it.  The totals are those of its frames. -/
structure ParsedSession where
  frames : List Frame
  /-- The largest timestamp of the frames, in milliseconds. -/
  totalDuration : Nat
  commandCount : Nat
  /-- The commands that belong to the dialect. -/
  dialectCommandCount : Nat
  deriving DecidableEq, Repr

namespace ParsedSession

/-- The session that frames make up. -/
def ofFrames (frames : List Frame) : ParsedSession where
  frames := frames
  totalDuration := lastTimestamp frames
  commandCount := frames.countP Frame.isCommand
  dialectCommandCount := frames.countP fun f => f.isCommand && f.isDialectCommand

/-- Whether there is nothing to show. -/
def isEmpty (s : ParsedSession) : Bool := s.frames.isEmpty

/-- The frames that are commands. -/
def commands (s : ParsedSession) : List Frame := s.frames.filter Frame.isCommand

end ParsedSession

end ConsoleReplay
