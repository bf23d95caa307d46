import ConsoleReplay.Json.Record
import ConsoleReplay.Session.Frame
import ConsoleReplay.Session.Row
import ConsoleReplay.Session.Timeline
import ConsoleReplay.Time.Rfc3339

/-!
# Rows and sessions in JSON

Log rows, frames, sessions and summaries as JSON records.  A field without a value
is left out when it is written, and may be missing or null when it is read.

## Main definitions

* `LogRow.ofJson?`, `LogRow.toJson` — log rows.
* `Recognition.ofJson?`, `CommandContext.ofJson?`, `Frame.ofJson?` and their
  counterparts `toJson` — frames and their parts.
* `ParsedSession.toJson`, `SessionSummary.toJson` — sessions and summaries.
* `listOfJson? read j` — an array of records.
-/

namespace ConsoleReplay

/-- A list of values, each read alike; one that cannot be read spoils the list. -/
def listOfJson? (read : Json → Option α) (j : Json) : Option (List α) :=
  j.items?.bind fun items => items.mapM read

/-- A member with a value, if there is one.  Without a value the member is left out and not written
as null. -/
def member? (name : String) (value : Option Json) : List (String × Json) :=
  (value.map fun v => (name, v)).toList

namespace LogRow

/-- The log row of a record. -/
def ofJson? (j : Json) : Option LogRow := do
  let fields ← j.fields? ["sequenceNumber", "timestamp", "isInput", "content"]
  let sequence ← fields.required 0 (Json.integer? leastSigned greatestSigned)
  let timestamp ← fields.required 1 fun v => v.string?.bind fun s => Instant.parse? s.toList
  let isInput ← fields.required 2 Json.bool?
  let content ← fields.required 3 Json.string?
  return ⟨sequence, timestamp, isInput, content⟩

/-- The record of a log row. -/
def toJson (row : LogRow) : Json :=
  .object [("sequenceNumber", .integer row.sequence),
    ("timestamp", .string row.timestamp.textZ), ("isInput", .bool row.isInput),
    ("content", .string row.content)]

end LogRow

namespace Recognition

/-- The recognition of a record. -/
def ofJson? (j : Json) : Option Recognition := do
  let fields ← j.fields? ["isDialectCommand", "category", "commandName", "parameters"]
  let isDialectCommand ← fields.required 0 Json.bool?
  let category ← fields.optional 1 Json.string?
  let commandName ← fields.optional 2 Json.string?
  let parameters ← fields.required 3 (listOfJson? Json.string?)
  return ⟨isDialectCommand, category, commandName, parameters⟩

/-- The record of a recognition. -/
def toJson (r : Recognition) : Json :=
  .object ([("isDialectCommand", .bool r.isDialectCommand)]
    ++ member? "category" (r.category.map .string)
    ++ member? "commandName" (r.commandName.map .string)
    ++ [("parameters", .array (r.parameters.map .string))])

end Recognition

namespace CommandContext

/-- The command context of a record. -/
def ofJson? (j : Json) : Option CommandContext := do
  let fields ← j.fields? ["isCommand", "command", "isTabCompletion", "isPrompt", "dialect"]
  let isCommand ← fields.required 0 Json.bool?
  let command ← fields.optional 1 Json.string?
  let isTabCompletion ← fields.required 2 Json.bool?
  let isPrompt ← fields.required 3 Json.bool?
  let recognition ← fields.optional 4 Recognition.ofJson?
  return ⟨isCommand, command, isTabCompletion, isPrompt, recognition⟩

/-- The record of a command context. -/
def toJson (c : CommandContext) : Json :=
  .object ([("isCommand", .bool c.isCommand)]
    ++ member? "command" (c.command.map .string)
    ++ [("isTabCompletion", .bool c.isTabCompletion), ("isPrompt", .bool c.isPrompt)]
    ++ member? "dialect" (c.recognition.map Recognition.toJson))

end CommandContext

namespace Direction

/-- The direction of a given name. -/
def ofName? (name : String) : Option Direction :=
  if name = "input" then some .input else if name = "output" then some .output else none

/-- The direction that a value names.  A name may also be the only member of an
object, with nothing as its value. -/
def ofJson? : Json → Option Direction
  | .string s => ofName? s
  | .object [(s, .null)] => ofName? s
  | _ => none

end Direction

namespace Frame

/-- The frame of a record. -/
def ofJson? (j : Json) : Option Frame := do
  let fields ← j.fields? ["timestamp", "type", "rawContent", "cleanedContent",
    "styledContent", "commandContext", "degraded"]
  let timestamp ← fields.required 0 (Json.natural? wordLimit)
  let direction ← fields.required 1 Direction.ofJson?
  let rawContent ← fields.required 2 Json.string?
  let cleanedContent ← fields.required 3 Json.string?
  let styledContent ← fields.required 4 Json.string?
  let context ← fields.defaulted 5 none (Json.Fields.nullable CommandContext.ofJson?)
  let degraded ← fields.defaulted 6 false Json.bool?
  return ⟨timestamp, direction, rawContent, cleanedContent, styledContent, context, degraded⟩

/-- The record of a frame. -/
def toJson (f : Frame) : Json :=
  .object ([("timestamp", .integer f.timestamp), ("type", .string f.direction.name),
      ("rawContent", .string f.rawContent), ("cleanedContent", .string f.cleanedContent),
      ("styledContent", .string f.styledContent)]
    ++ member? "commandContext" (f.context.map CommandContext.toJson)
    ++ member? "degraded" (if f.degraded then some (.bool true) else none))

end Frame

/-- The record of a session. -/
def ParsedSession.toJson (s : ParsedSession) : Json :=
  .object [("frames", .array (s.frames.map Frame.toJson)),
    ("totalDuration", .integer s.totalDuration), ("commandCount", .integer s.commandCount),
    ("dialectCommandCount", .integer s.dialectCommandCount)]

/-- The record of a timeline entry. -/
def TimelineEntry.toJson (e : TimelineEntry) : Json :=
  .object ([("command", .string e.command), ("timestamp", .integer e.timestamp),
      ("durationUntilNextFrame", .integer e.durationUntilNextFrame),
      ("isDialectCommand", .bool e.isDialectCommand)]
    ++ member? "category" (e.category.map .string))

/-- The record of a summary. -/
def SessionSummary.toJson (s : SessionSummary) : Json :=
  .object [("totalDuration", .integer s.totalDuration),
    ("commandCount", .integer s.commandCount),
    ("dialectCommandCount", .integer s.dialectCommandCount),
    ("timeline", .array (s.timeline.map TimelineEntry.toJson))]

end ConsoleReplay
