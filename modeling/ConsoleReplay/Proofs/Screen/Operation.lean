import ConsoleReplay.Proofs.Screen.WellFormed
import ConsoleReplay.Screen.Decoder

/-!
# Operations on a terminal

A terminal changes by the operations of its screen, called directly with any
arguments, by control sequences handed to it as a whole, and by text that its
decoder reads.  A run is any sequence of them.

The screen is well formed in every terminal that a run reaches, whatever the arguments
of the operations are and whatever the decoder makes of the text.

## Main definitions

* `Terminal.Operation`, `Terminal.apply`, `Terminal.run` — the operations, and the
  terminal after one and after several of them.
* `Terminal.WellFormed t` — the invariant of a terminal.

## Main results

* `WellFormed.feed`, `WellFormed.apply`, `WellFormed.run` — text, an operation and a
  run keep a terminal well formed.
-/

namespace ConsoleReplay

namespace Terminal

/-- Something that can be done to a terminal: to its screen directly, by a control sequence of any
final character and parameters, or by a text. -/
inductive Operation
  | put (x y : Nat) (c : Char)
  | write (c : Char)
  | tab
  | carriageReturn
  | lineFeed
  | backspace
  | moveTo (x y : Nat)
  | moveBy (dx dy : Int)
  | eraseLine (y : Nat) (extent : Extent)
  | eraseDisplay (extent : Extent)
  | scrollUp
  | resize (width height : Nat)
  | markClean
  /-- A control sequence of any kind. -/
  | sequence (final : Char) (params : List Nat)
  /-- A control sequence, taken for a cursor move. -/
  | moveCursor (final : Char) (params : List Nat)
  /-- A control sequence, taken for an erase. -/
  | erase (final : Char) (params : List Nat)
  /-- A text for the decoder. -/
  | feed (cs : List Char)
  /-- Giving the sequence in progress up. -/
  | reset
  deriving DecidableEq, Repr

/-- The terminal with another screen. -/
def withScreen (t : Terminal) (s : Screen) : Terminal := { t with screen := s }

/-- The terminal after an operation.  A control sequence that is not known changes
nothing. -/
def apply (t : Terminal) : Operation → Terminal
  | .put x y c => t.withScreen (t.screen.put x y c)
  | .write c => t.withScreen (t.screen.write c)
  | .tab => t.withScreen t.screen.tab
  | .carriageReturn => t.withScreen t.screen.carriageReturn
  | .lineFeed => t.withScreen t.screen.lineFeed
  | .backspace => t.withScreen t.screen.backspace
  | .moveTo x y => t.withScreen (t.screen.moveTo x y)
  | .moveBy dx dy => t.withScreen (t.screen.moveBy dx dy)
  | .eraseLine y extent => t.withScreen (t.screen.eraseLine y extent)
  | .eraseDisplay extent => t.withScreen (t.screen.eraseDisplay extent)
  | .scrollUp => t.withScreen t.screen.scrollUp
  | .resize width height => t.withScreen (t.screen.resize width height)
  | .markClean => t.withScreen t.screen.markClean
  | .sequence final params => t.withScreen ((t.screen.sequence? final params).getD t.screen)
  | .moveCursor final params => t.withScreen ((t.screen.moveCursor? final params).getD t.screen)
  | .erase final params => t.withScreen ((t.screen.erase? final params).getD t.screen)
  | .feed cs => t.feed cs
  | .reset => t.reset

/-- The terminal after several operations. -/
def run (t : Terminal) (ops : List Operation) : Terminal := ops.foldl apply t

@[simp] theorem run_nil (t : Terminal) : t.run [] = t := rfl

@[simp] theorem run_cons (t : Terminal) (op : Operation) (ops : List Operation) :
    t.run (op :: ops) = (t.apply op).run ops := rfl

/-! ### The invariant of a terminal -/

/-- A terminal in good order: its screen is.  Any state of the decoder is as good as any
other, since an operation asks nothing of it. -/
structure WellFormed (t : Terminal) : Prop where
  screen : t.screen.WellFormed

/-- A new terminal is well formed, whatever size was asked for. -/
theorem wellFormed_start (width height : Nat) : (start width height).WellFormed :=
  ⟨Screen.wellFormed_blank width height⟩

namespace WellFormed

variable {t : Terminal}

/-- One more character keeps a terminal well formed. -/
theorem step (h : t.WellFormed) (c : Char) : (t.step c).WellFormed := by
  simp only [Terminal.step]
  cases (t.decoder.step c).2 with
  | none => exact ⟨h.screen⟩
  | some instruction => exact ⟨h.screen.perform instruction⟩

/-- A text keeps a terminal well formed, at every character of it. -/
theorem feed (h : t.WellFormed) (cs : List Char) : (t.feed cs).WellFormed := by
  induction cs generalizing t with
  | nil => exact h
  | cons c cs ih => exact ih (h.step c)

/-- Every operation keeps a terminal well formed, whatever its arguments are. -/
theorem apply (h : t.WellFormed) (op : Operation) : (t.apply op).WellFormed := by
  cases op with
  | put x y c => exact ⟨h.screen.put x y c⟩
  | write c => exact ⟨h.screen.write c⟩
  | tab => exact ⟨h.screen.tab⟩
  | carriageReturn => exact ⟨h.screen.carriageReturn⟩
  | lineFeed => exact ⟨h.screen.lineFeed⟩
  | backspace => exact ⟨h.screen.backspace⟩
  | moveTo x y => exact ⟨h.screen.moveTo x y⟩
  | moveBy dx dy => exact ⟨h.screen.moveBy dx dy⟩
  | eraseLine y extent => exact ⟨h.screen.eraseLine y extent⟩
  | eraseDisplay extent => exact ⟨h.screen.eraseDisplay extent⟩
  | scrollUp => exact ⟨h.screen.scrollUp⟩
  | resize width height => exact ⟨Screen.wellFormed_resize _ width height⟩
  | markClean => exact ⟨h.screen.markClean⟩
  | sequence final params => exact ⟨h.screen.getD fun s hs => h.screen.sequence? hs⟩
  | moveCursor final params => exact ⟨h.screen.getD fun s hs => h.screen.moveCursor? hs⟩
  | erase final params => exact ⟨h.screen.getD fun s hs => h.screen.erase? hs⟩
  | feed cs => exact h.feed cs
  | reset => exact ⟨h.screen⟩

/-- A run keeps a terminal well formed. -/
theorem run (h : t.WellFormed) (ops : List Operation) : (t.run ops).WellFormed := by
  induction ops generalizing t with
  | nil => exact h
  | cons op ops ih => exact ih (h.apply op)

end WellFormed

end Terminal

end ConsoleReplay
