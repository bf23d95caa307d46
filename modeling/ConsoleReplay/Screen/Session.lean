import ConsoleReplay.Screen.Decoder
import ConsoleReplay.Text.Utf8

/-!
# Live sessions

A live session follows the output of one console session on a screen.  Once it is
finished it takes no more output.

## Main definitions

* `LiveSession` — a terminal, and whether the session is finished.
* `LiveSession.feed`, `LiveSession.finish`, `LiveSession.resize` — what happens
  to a session.
* `LiveSession.takeDirty` — the rows to paint again, each with its text.
* `LiveSession.render` — a whole output read in pieces, and the text on the screen
  at its end.
-/

namespace ConsoleReplay

/-- A console session in progress.  After its end it takes no more output, so that what is shown
stays what was printed. -/
structure LiveSession where
  terminal : Terminal
  /-- Whether the end of the session has been signalled. -/
  finished : Bool
  deriving DecidableEq, Repr

/-- A misuse of a live session. -/
inductive SessionError
  /-- Output arrived after the end of the session. -/
  | finished
  deriving DecidableEq, Repr

/-- The wording of a misuse. -/
def SessionError.message : SessionError → String
  | .finished => "Session already finished; no more output can be applied"

namespace LiveSession

/-- A session that has received nothing. -/
def start (width height : Nat) : LiveSession := ⟨.start width height, false⟩

/-- The screen of a session. -/
def screen (session : LiveSession) : Screen := session.terminal.screen

/-- The session after its next piece of output. -/
def feed (session : LiveSession) (cs : List Char) : Except SessionError LiveSession :=
  if session.finished then .error .finished
  else .ok { session with terminal := session.terminal.feed cs }

/-- The session at its end.  A sequence in progress is given up; what it would have done was never
asked for. -/
def finish (session : LiveSession) : LiveSession := ⟨session.terminal.reset, true⟩

/-- The session after a change of the screen's size. -/
def resize (session : LiveSession) (width height : Nat) : LiveSession :=
  { session with terminal.screen := session.screen.resize width height }

/-- The rows that changed since the last call, with their texts, and the session with all rows
painted.  A viewer that repaints these rows each time shows what the screen shows. -/
def takeDirty (session : LiveSession) : List (Nat × String) × LiveSession :=
  let screen := session.screen
  (screen.dirtyRows.filterMap fun y => (screen.row? y).map fun row => (y, row.text),
    { session with terminal.screen := screen.markClean })

/-- A finished session takes no more output, not even an empty one. -/
@[simp] theorem feed_finish (session : LiveSession) (cs : List Char) :
    session.finish.feed cs = .error .finished := rfl

/-- Two pieces of output do what they would do as one. -/
theorem feed_append (session : LiveSession) (cs ds : List Char) :
    session.feed (cs ++ ds) = (session.feed cs).bind (·.feed ds) := by
  unfold feed
  split
  · rfl
  · rename_i h
    simp [Except.bind, h, Terminal.feed_append]

/-! ### Output that is read in pieces -/

/-- A session and the bytes held back from it: the beginning of a character whose end has not been
read.  Output is read in pieces of bytes, and a piece may end inside a character. -/
structure Intake where
  session : LiveSession
  held : List UInt8

/-- Take one more piece of output.  The session is fed what is complete. -/
def Intake.take (intake : Intake) (piece : List UInt8) : Except SessionError Intake := do
  let bytes := intake.held ++ piece
  let n := Text.Utf8.completeLength bytes
  let session ← intake.session.feed (Text.Utf8.decodeLossy (bytes.take n))
  return ⟨session, bytes.drop n⟩

/-- The end of the output.  What is still held back will not be completed, and is shown as
broken. -/
def Intake.close (intake : Intake) : Except SessionError LiveSession :=
  if intake.held.isEmpty then .ok intake.session
  else intake.session.feed (Text.Utf8.decodeLossy intake.held)

/-- Feed a session an output that is read in pieces, up to the first empty one,
and finish it. -/
def render (session : LiveSession) (reads : List (List UInt8)) :
    Except SessionError LiveSession := do
  let intake ← (reads.takeWhile (!·.isEmpty)).foldlM Intake.take ⟨session, []⟩
  return (← intake.close).finish

end LiveSession

/-- Most bytes of an output that are read at once, the size of the buffer that is read into. -/
def readSize : Nat := 4096

/-- Bytes cut into pieces of a size; the last one may be shorter. -/
def piecesOf (size : Nat) (bytes : List UInt8) : List (List UInt8) :=
  if size = 0 || bytes.isEmpty then [] else bytes.take size :: piecesOf size (bytes.drop size)
termination_by bytes.length
decreasing_by
  rename_i h
  have : bytes ≠ [] := by grind
  have := List.length_pos_iff.2 this
  grind

end ConsoleReplay
