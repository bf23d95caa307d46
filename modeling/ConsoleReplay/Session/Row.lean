import ConsoleReplay.Time.Instant

/-!
# Log rows

A log row is one piece of a console session as it was captured: when, in which
direction, and what.  Rows are put in order by time, and rows of one time by their
sequence numbers.

## Main definitions

* `LogRow` — a captured piece of a session.
* `LogRow.notAfter` — the order of rows.
* `LogRow.inOrder rows` — the rows in order; rows that the order does not tell
  apart stay as they were.
-/

namespace ConsoleReplay

/-- A captured piece of a console session. -/
structure LogRow where
  sequence : Int
  timestamp : Instant
  /-- Whether the piece was typed, and not printed by the device. -/
  isInput : Bool
  content : String
  deriving DecidableEq, Repr

namespace LogRow

/-- Whether a row may stand before another one: it is earlier, or of the same time
and its sequence number is not larger. -/
def notAfter (a b : LogRow) : Bool :=
  a.timestamp.before b.timestamp
    || (a.timestamp == b.timestamp && a.sequence ≤ b.sequence)

/-- The rows in order.  The sort is stable: rows with equal keys stay in the order in which they
were supplied. -/
def inOrder (rows : List LogRow) : List LogRow := rows.mergeSort notAfter

/-- Putting rows in order neither loses nor makes any. -/
theorem inOrder_perm (rows : List LogRow) : (inOrder rows).Perm rows := List.mergeSort_perm ..

@[simp] theorem length_inOrder (rows : List LogRow) : (inOrder rows).length = rows.length :=
  List.length_mergeSort ..

end LogRow

end ConsoleReplay
