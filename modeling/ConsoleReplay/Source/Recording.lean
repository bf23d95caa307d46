import ConsoleReplay.Json.Reader
import ConsoleReplay.Json.Record
import ConsoleReplay.Number.Shortest
import ConsoleReplay.Session.Frame
import ConsoleReplay.Session.Row
import ConsoleReplay.Source.Fault
import ConsoleReplay.Text.Blank
import ConsoleReplay.Text.Lines
import ConsoleReplay.Text.Utf8
import ConsoleReplay.Time.Rfc3339

/-!
# Terminal recordings

A recording in the asciicast format, version 3, is a text of lines.  The first line
is a header; every other line that is not blank is an event, an array of the time
since the event before it, a type and data.  What was typed and what was printed is
kept; events of other types only let time pass.

## Main definitions

* `Recording.Header`, `Recording.Event`, `Recording` — a recording.
* `Recording.Entry.parse cs` — the event that a line tells.
* `Recording.parse bytes` — the recording in a file.
* `Recording.startTime`, `Recording.toRows` — the log rows of a recording.
-/

namespace ConsoleReplay

namespace Recording

/-! ### Headers -/

/-- The size of the terminal that was recorded. -/
structure TerminalSize where
  columns : Option Nat
  rows : Option Nat
  deriving DecidableEq, Repr

/-- The header of a recording. -/
structure Header where
  version : Nat
  terminal : Option TerminalSize
  /-- When the recording began, in seconds since the start of 1970. -/
  timestamp : Option Int
  title : Option String
  deriving DecidableEq, Repr

/-- The version that is read. -/
def supportedVersion : Nat := 3

/-- The first number of columns or rows that a header cannot give. -/
def sizeLimit : Nat := twoTo 32

/-- The terminal size of a record. -/
def TerminalSize.ofJson? (j : Json) : Option TerminalSize := do
  let fields ← j.fields? ["cols", "rows"]
  let size := Json.Fields.nullable (Json.natural? sizeLimit)
  return ⟨← fields.defaulted 0 none size, ← fields.defaulted 1 none size⟩

/-- The header of a record. -/
def Header.ofJson? (j : Json) : Option Header := do
  let fields ← j.fields? ["version", "term", "timestamp", "title"]
  let version ← fields.required 0 (Json.natural? 256)
  let terminal ← fields.defaulted 1 none (Json.Fields.nullable TerminalSize.ofJson?)
  let timestamp ← fields.defaulted 2 none
    (Json.Fields.nullable (Json.integer? leastSigned greatestSigned))
  let title ← fields.defaulted 3 none (Json.Fields.nullable Json.string?)
  return ⟨version, terminal, timestamp, title⟩

/-! ### Events -/

/-- Something that was typed or printed, at the sum of all times up to its line. -/
structure Event where
  /-- Seconds since the start of the recording. -/
  offset : Double
  /-- Seconds since the event before, of whatever type. -/
  interval : Double
  direction : Direction
  data : String
  deriving DecidableEq, Repr

/-- What one line tells: that time passed, and what was typed or printed then.  A line of another
type tells nothing else, but its time counts for those after it. -/
structure Entry where
  interval : Double
  content : Option (Direction × String)
  deriving DecidableEq, Repr

/-- Why a line is no event. -/
inductive EntryError
  | notJson
  | notArray
  | tooShort
  | timeNotNumber
  | negativeTime (time : Double)
  | longTime (time : Double)
  | typeNotString
  | dataNotString
  deriving DecidableEq, Repr

/-- The longest time between two events: one year, in seconds.  A line that tells of more is no
event. -/
def maxInterval : Double := .ofNat (365 * 24 * 60 * 60)

/-- The direction that an event type tells.  Other types, such as a mark or a change of the size,
are none. -/
def directionOfType? (type : String) : Option Direction :=
  if type = "o" then some .output else if type = "i" then some .input else none

/-- The time of an event. -/
def Entry.timeOf (j : Json) : Except EntryError Double :=
  match j.double? with
  | none => .error .timeNotNumber
  | some time =>
    if !time.isFinite || time.lt .zero then .error (.negativeTime time)
    else if maxInterval.lt time then .error (.longTime time)
    else .ok time

/-- The event that the items of an array tell.  The time comes first and is asked of every type; the
data of an event of another type can be anything. -/
def Entry.ofItems : List Json → Except EntryError Entry
  | time :: type :: data :: _ => do
    let interval ← timeOf time
    match type with
    | .string type =>
      match directionOfType? type with
      | none => return ⟨interval, none⟩
      | some direction =>
        match data with
        | .string data => return ⟨interval, some (direction, data)⟩
        | _ => throw .dataNotString
    | _ => throw .typeNotString
  | _ => .error .tooShort

/-- The event that a line tells. -/
def Entry.parse (cs : List Char) : Except EntryError Entry :=
  match Json.parse? cs with
  | none => .error .notJson
  | some j =>
    if j.isSound then
      match j with
      | .array items => ofItems items
      | _ => .error .notArray
    else .error .notJson

end Recording

/-! ### Recordings -/

/-- A recording. -/
structure Recording where
  header : Recording.Header
  events : List Recording.Event
  deriving DecidableEq, Repr

/-- Why a recording cannot be read, or cannot be made into log rows. -/
inductive RecordingError
  | empty
  | unreadableHeader
  | badHeader
  | unsupportedVersion (version : Nat)
  | unreadableLine (number : Nat)
  | badEvent (number : Nat) (cause : Recording.EntryError)
  | outOfRange (sequence : Nat) (offset : Double)
  deriving DecidableEq, Repr

namespace Recording

/-- The events that lines tell, the first of which has a number and follows after some time.  A line
is `none` where its bytes are no text; lines are read one by one, so such a line is only an error if
all before it are in order. -/
def eventsOf (number : Nat) (elapsed : Double) :
    List (Option (List Char)) → Except RecordingError (List Event)
  | [] => .ok []
  | none :: _ => .error (.unreadableLine number)
  | some line :: lines =>
    if Text.blankLine line then eventsOf (number + 1) elapsed lines
    else
      match Entry.parse line with
      | .error e => .error (.badEvent number e)
      | .ok entry =>
        let offset := elapsed.add entry.interval
        let event := entry.content.map fun (direction, data) =>
          Event.mk offset entry.interval direction data
        (eventsOf (number + 1) offset lines).map (event.toList ++ ·)

/-- The recording that lines make up. -/
def ofLines : List (Option (List Char)) → Except RecordingError Recording
  | [] => .error .empty
  | none :: _ => .error .unreadableHeader
  | some line :: lines =>
    match (Json.parse? line).bind Header.ofJson? with
    | none => .error .badHeader
    | some header =>
      if header.version = supportedVersion then
        (eventsOf 2 .zero lines).map (Recording.mk header)
      else .error (.unsupportedVersion header.version)

/-- The recording in a file, given as bytes.  A line is text where its own bytes
are, whatever the other lines hold. -/
def parse (bytes : List UInt8) : Except RecordingError Recording :=
  ofLines ((Text.linesBy 10 13 bytes).map Text.Utf8.decode?)

/-- When the recording began; without a timestamp, or with one that cannot be told,
at the start of 1970. -/
def startTime (r : Recording) : Instant :=
  (r.header.timestamp.bind Instant.ofSeconds?).getD .epoch

/-- The log row of an event, to the nearest millisecond.  Its time may lie past the years that can
be told. -/
def rowOf (start : Instant) (sequence : Nat) (event : Event) : Except RecordingError LogRow :=
  let ms := (event.offset.mul (.ofNat 1000)).roundToInt leastSigned greatestSigned
  match start.addMilliseconds? ms with
  | some timestamp => .ok ⟨sequence, timestamp, event.direction = .input, event.data⟩
  | none => .error (.outOfRange sequence event.offset)

/-- The log rows of events, numbered from a number on. -/
def rowsFrom (start : Instant) (sequence : Nat) : List Event → Except RecordingError (List LogRow)
  | [] => .ok []
  | event :: events => do
    let row ← rowOf start sequence event
    let rows ← rowsFrom start (sequence + 1) events
    return row :: rows

/-- The log rows of a recording, numbered from one in the order of its events. -/
def toRows (r : Recording) : Except RecordingError (List LogRow) :=
  rowsFrom r.startTime 1 r.events

end Recording

/-! ### Messages -/

/-- The fault of a line that is no event. -/
def Recording.EntryError.fault : Recording.EntryError → Fault
  | .notJson => .below "Failed to parse event JSON" .json
  | .notArray => .of "Event must be a JSON array"
  | .tooShort => .of "Event array must have at least 3 elements"
  | .timeNotNumber => .of "Event time must be a number"
  | .negativeTime time => .of s!"Event time must be a non-negative number (got {time.text})"
  | .longTime time =>
    .of (s!"Event time {time.text} exceeds the {Recording.maxInterval.text} "
      ++ "second limit between events")
  | .typeNotString => .of "Event type must be a string"
  | .dataNotString => .of "Event data must be a string"

/-- The fault of a recording that cannot be read. -/
def RecordingError.fault : RecordingError → Fault
  | .empty => .of "File is empty"
  | .unreadableHeader => .below "Failed to read header line" .storage
  | .badHeader => .below "Failed to parse header" .json
  | .unsupportedVersion version =>
    .of s!"Only asciicast v3 format is supported (got version {version})"
  | .unreadableLine number => .below s!"Failed to read line {number}" .storage
  | .badEvent number cause => cause.fault.within s!"Failed to parse event on line {number}"
  | .outOfRange sequence offset =>
    .of s!"Event {sequence} at offset {offset.text}s is out of range"

end ConsoleReplay
