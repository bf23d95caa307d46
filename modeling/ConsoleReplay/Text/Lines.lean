/-!
# Lines

A line ends with a line feed, and a carriage return right before it belongs to
the line end.  A last line without a line feed is a line too, unless it is empty;
it keeps a carriage return at its end.

## Main definitions

* `linesBy lf cr xs` — the lines of a sequence in which `lf` and `cr` are the line
  feed and the carriage return, without their ends.
* `lines cs` — the lines of a text.
-/

namespace ConsoleReplay.Text

/-- Take one more item: a line feed ends the line in progress.  Both the finished lines and the line
in progress are held in reverse.  A carriage return belongs to the end of a line only right before a
line feed. -/
def lineStep [BEq α] (lf cr : α) : List (List α) × List α → α → List (List α) × List α
  | (done, line), x =>
    if x == lf then
      let line := match line with
        | y :: rest => if y == cr then rest else y :: rest
        | [] => []
      (line.reverse :: done, [])
    else (done, x :: line)

/-- The lines of a sequence, without their ends.  It is told of items of any kind, since lines are
looked for in texts and in bytes. -/
def linesBy [BEq α] (lf cr : α) (xs : List α) : List (List α) :=
  let (done, line) := xs.foldl (lineStep lf cr) ([], [])
  (if line.isEmpty then done else line.reverse :: done).reverse

/-- The lines of a text, without their ends. -/
def lines (cs : List Char) : List (List Char) := linesBy '\n' '\r' cs

end ConsoleReplay.Text
