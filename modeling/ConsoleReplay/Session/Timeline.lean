import ConsoleReplay.Session.Frame

/-!
# The timeline of a session

A summary tells the commands of a session in order, each with the time until the
next frame, whatever that is, or until the end of the session.

## Main definitions

* `TimelineEntry` — a command of a session.
* `SessionSummary` — the commands of a session, its length and its counts.
* `summarize frames` — the summary of frames.
-/

namespace ConsoleReplay

/-- A command of a session, and how long it was until something else was shown. -/
structure TimelineEntry where
  command : String
  timestamp : Nat
  /-- Time to the next frame, or to the end of the session. -/
  durationUntilNextFrame : Nat
  isDialectCommand : Bool
  category : Option String
  deriving DecidableEq, Repr

/-- The summary of a session. -/
structure SessionSummary where
  totalDuration : Nat
  commandCount : Nat
  dialectCommandCount : Nat
  timeline : List TimelineEntry
  deriving DecidableEq, Repr

/-- The entry of a frame that is followed by a frame, or by the end of the session, at a time.
Frames that are not commands have none, and a following time that is earlier makes it last for no
time. -/
def Frame.timelineEntry? (f : Frame) (next : Nat) : Option TimelineEntry :=
  if f.isCommand then
    f.command?.map fun command =>
      { command := command
        timestamp := f.timestamp
        durationUntilNextFrame := next - f.timestamp
        isDialectCommand := f.isDialectCommand
        category := f.recognition?.bind Recognition.category }
  else none

/-- The entries of frames; the session ends at `last`. -/
def timelineOf (last : Nat) (frames : List Frame) : List TimelineEntry :=
  let nexts := frames.tail.map Frame.timestamp ++ [last]
  (frames.zip nexts).filterMap fun (f, next) => f.timelineEntry? next

/-- The summary of frames.  The counts are those of the entries, not of the frames. -/
def summarize (frames : List Frame) : SessionSummary :=
  let last := lastTimestamp frames
  let timeline := timelineOf last frames
  { totalDuration := last
    commandCount := timeline.length
    dialectCommandCount := timeline.countP TimelineEntry.isDialectCommand
    timeline := timeline }

end ConsoleReplay
