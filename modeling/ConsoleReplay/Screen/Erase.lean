import ConsoleReplay.Screen.Basic

/-!
# Erasing

An erase clears a part of a row or of the screen that is told by the cursor.  It
moves neither the cursor nor the pen, and calls a deferred wrap off.

## Main definitions

* `Extent` — the part that is erased: to the end, to the start, or all.
* `Extent.ofParam?` — the extent that a sequence asks for.
* `Screen.eraseLine s y extent` — erase a part of one row.
* `Screen.eraseDisplay s extent` — erase a part of the screen.
-/

namespace ConsoleReplay

/-- The part that an erase clears; the cursor's own cell is in every one. -/
inductive Extent
  /-- From the cursor to the end. -/
  | toEnd
  /-- From the start to the cursor. -/
  | toStart
  /-- Everything. -/
  | all
  deriving DecidableEq, Repr

/-- The extent that a parameter asks for.  Three asks for the lines that scrolled
away as well; none are kept, so it is a full erase. -/
def Extent.ofParam? : Nat → Option Extent
  | 0 => some .toEnd
  | 1 => some .toStart
  | 2 => some .all
  | 3 => some .all
  | _ => none

namespace Row

/-- The row with the part told by a column erased.  The column itself is always in that part. -/
def erase (row : Row) (x : Nat) : Extent → Row
  | .toEnd => row.eraseFrom x
  | .toStart => row.eraseThrough x
  | .all => row.eraseAll

end Row

namespace Screen

/-- Erase a part of a row, told by the cursor's column even if the row is not the cursor's.  The
cursor stays, and a deferred wrap is called off. -/
def eraseLine (s : Screen) (y : Nat) (extent : Extent) : Screen :=
  { s with wrapPending := false }.updateRow (s.clampLine y) (·.erase s.column extent)

/-- Erase whole rows, one after the other. -/
def eraseRows (s : Screen) (ys : List Nat) : Screen :=
  ys.foldl (fun s y => s.eraseLine y .all) s

/-- Erase a part of the screen, told by the cursor.  In the cursor's row that is the part on one
side of its column, and on the same side of the row all others are erased as a whole. -/
def eraseDisplay (s : Screen) : Extent → Screen
  | .toEnd =>
    (s.eraseLine s.line .toEnd).eraseRows (List.range' (s.line + 1) (s.height - (s.line + 1)))
  | .toStart => (s.eraseRows (List.range s.line)).eraseLine s.line .toStart
  | .all => s.eraseRows (List.range s.height)

end Screen

end ConsoleReplay
