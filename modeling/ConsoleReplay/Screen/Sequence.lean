import ConsoleReplay.Screen.Erase
import ConsoleReplay.Style.Sgr

/-!
# Control sequences on a screen

A control sequence is a final character and numeric parameters.  The final
character names the operation: a cursor move, an erase or a change of the pen.
An operation that a screen does not know leaves it alone, and says so.

## Main definitions

* `Screen.moveCursor? s final params` — cursor moves; positions count from one.
* `Screen.erase? s final params` — erases of the row or the screen.
* `Screen.sequence? s final params` — all operations together.
* `Instruction` — what one decoded character asks of a screen.
* `Screen.perform s instruction` — the screen after an instruction.
-/

namespace ConsoleReplay

/-- A parameter, or a default where it is missing or zero: an empty parameter reads as zero and asks
for the default as well. -/
def paramOr (params : List Nat) (i default : Nat) : Nat :=
  match params[i]? with
  | none | some 0 => default
  | some n => n

namespace Screen

/-- Move the cursor as a control sequence asks: up, down, right and left, to the
start of a row below or above, to a column, to a row, to a position.  Moves are
one step and positions the first one unless a parameter says otherwise. -/
def moveCursor? (s : Screen) (final : Char) (params : List Nat) : Option Screen :=
  let n := paramOr params 0 1
  match final with
  | 'A' => some (s.moveBy 0 (-n))
  | 'B' => some (s.moveBy 0 n)
  | 'C' => some (s.moveBy n 0)
  | 'D' => some (s.moveBy (-n) 0)
  | 'E' => some (s.carriageReturn.moveBy 0 n)
  | 'F' => some (s.carriageReturn.moveBy 0 (-n))
  | 'G' => some (s.moveTo (n - 1) s.line)
  | 'd' => some (s.moveTo s.column (n - 1))
  | 'H' | 'f' => some (s.moveTo (paramOr params 1 1 - 1) (n - 1))
  | _ => none

/-- Erase as a control sequence asks: `J` on the screen, `K` in the cursor's row.
An unknown extent is refused before the final character is looked at. -/
def erase? (s : Screen) (final : Char) (params : List Nat) : Option Screen :=
  match Extent.ofParam? (params.head?.getD 0), final with
  | some extent, 'J' => some (s.eraseDisplay extent)
  | some extent, 'K' => some (s.eraseLine s.line extent)
  | _, _ => none

/-- The effect of a control sequence, if a screen knows it.  An unknown one is no error; it is read
to its end and dropped. -/
def sequence? (s : Screen) (final : Char) (params : List Nat) : Option Screen :=
  match final with
  | 'A' | 'B' | 'C' | 'D' | 'E' | 'F' | 'G' | 'H' | 'f' | 'd' => s.moveCursor? final params
  | 'J' | 'K' => s.erase? final params
  | 'm' => some { s with pen := s.pen.applySgr params }
  | _ => none

end Screen

/-- What one decoded character asks of a screen. -/
inductive Instruction
  /-- Write a character at the cursor. -/
  | write (c : Char)
  | carriageReturn
  | lineFeed
  | backspace
  | tab
  /-- Carry out a control sequence. -/
  | sequence (final : Char) (params : List Nat)
  deriving DecidableEq, Repr

namespace Screen

/-- The screen after an instruction.  An unknown control sequence changes
nothing. -/
def perform (s : Screen) : Instruction → Screen
  | .write c => s.write c
  | .carriageReturn => s.carriageReturn
  | .lineFeed => s.lineFeed
  | .backspace => s.backspace
  | .tab => s.tab
  | .sequence final params => (s.sequence? final params).getD s

end Screen

end ConsoleReplay
