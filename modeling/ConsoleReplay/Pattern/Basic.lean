import ConsoleReplay.Text.Blank
import ConsoleReplay.Text.Word

/-!
# Patterns

A pattern describes pieces of text.  Of the ways in which a piece can begin at a
place, the first one counts: an alternative tries its left side first, and a
repetition takes as much as it can and gives back one by one.

## Main definitions

* `Place` — a place in a text: what stands before it and what follows.
* `Pattern` — characters of a class, sequences, alternatives, repetitions and
  assertions about a place.
* `Pattern.run p next place` — the first way to go on from a place through the
  pattern and then through `next`.
* `Pattern.length? p place` — the length of the piece at a place.
* `Pattern.split p cs` — a text cut into the pieces that a pattern finds in it and
  the stretches between them.
-/

namespace ConsoleReplay

/-- A place in a text.  The character before it is kept, for the assertions that look back. -/
structure Place where
  /-- Number of characters taken to get here. -/
  taken : Nat
  /-- The character before the place. -/
  before : Option Char
  /-- The text from the place on. -/
  rest : List Char
  deriving DecidableEq, Repr

namespace Place

/-- The start of a text. -/
def start (cs : List Char) : Place := ⟨0, none, cs⟩

/-- The place after the next character. -/
def next? (place : Place) : Option (Char × Place) :=
  match place.rest with
  | c :: rest => some (c, ⟨place.taken + 1, some c, rest⟩)
  | [] => none

end Place

/-- A description of pieces of text. -/
inductive Pattern
  /-- Nothing, anywhere. -/
  | empty
  /-- One character of a class. -/
  | one (test : Char → Bool)
  /-- Any number of characters of a class, as many as possible. -/
  | many (test : Char → Bool)
  /-- One pattern and then another. -/
  | seq (first second : Pattern)
  /-- One pattern or else another. -/
  | alt (first second : Pattern)
  /-- Any number of repetitions, each of at least one character, as many as
  possible. -/
  | star (body : Pattern)
  /-- Nothing, at a place whose neighbours pass a test. -/
  | look (test : Option Char → Option Char → Bool)

namespace Pattern

/-- Give characters back one by one until it is possible to go on.  The characters that can be given
back are held in reverse, `first` stands before them, and `n` characters have been taken in all. -/
def giveBack (next : Place → Option α) (first : Option Char) :
    List Char → Nat → List Char → Option α
  | [], n, rest => next ⟨n, first, rest⟩
  | c :: taken, n, rest =>
    match next ⟨n, some c, rest⟩ with
    | some a => some a
    | none => giveBack next first taken (n - 1) (c :: rest)

/-- Repeat a step as often as possible and then go on.  Each repetition uses up a character of
`fuel`, which ends the repetition of a step that takes nothing. -/
def repeatStep (step : (Place → Option α) → Place → Option α) (next : Place → Option α) :
    List Char → Place → Option α
  | [], place => next place
  | _ :: fuel, place =>
    match step (repeatStep step next fuel) place with
    | some a => some a
    | none => next place

/-- The first way to go on from a place through a pattern and then through `next`. Ways are tried in
the order of a backtracking matcher: alternatives from the left, repetitions with as many as
possible first. -/
def run : Pattern → (Place → Option α) → Place → Option α
  | .empty, next, place => next place
  | .one test, next, place =>
    match place.next? with
    | some (c, after) => if test c then next after else none
    | none => none
  | .many test, next, place =>
    let taken := place.rest.takeWhile test
    giveBack next place.before taken.reverse (place.taken + taken.length)
      (place.rest.dropWhile test)
  | .seq first second, next, place => first.run (second.run next) place
  | .alt first second, next, place =>
    match first.run next place with
    | some a => some a
    | none => second.run next place
  | .star body, next, place => repeatStep body.run next place.rest place
  | .look test, next, place =>
    if test place.before place.rest.head? then next place else none

/-- The length of the piece at a place, if there is one. -/
def length? (p : Pattern) (before : Option Char) (cs : List Char) : Option Nat :=
  p.run (fun place => some place.taken) ⟨0, before, cs⟩

/-- Whether a text begins with a piece. -/
def matchesStart (p : Pattern) (cs : List Char) : Bool := (p.length? none cs).isSome

/-! ### Finding pieces -/

/-- A stretch of a text, and whether a pattern found it. -/
structure Stretch where
  found : Bool
  chars : List Char
  deriving DecidableEq, Repr

/-- The state of a search, which goes on character by character also inside a piece that was found,
so that every character is met once. -/
structure Search where
  /-- The stretches that are complete, in reverse. -/
  done : List Stretch
  /-- The stretch in progress, in reverse. -/
  current : List Char
  /-- How many characters the piece in progress still has; zero between pieces. -/
  left : Nat
  /-- The character before the place reached. -/
  before : Option Char

namespace Search

/-- The stretches with the one in progress completed, in reverse.  No stretch is
empty. -/
def close (s : Search) (found : Bool) : List Stretch :=
  if s.current.isEmpty then s.done else ⟨found, s.current.reverse⟩ :: s.done

/-- Take the next character.  Inside a piece it belongs to the piece; otherwise a piece may begin
with it. -/
def take (p : Pattern) (s : Search) (c : Char) (rest : List Char) : Search :=
  match s.left with
  | left + 1 =>
    let s := { s with current := c :: s.current, left := left, before := some c }
    if left = 0 then { s with done := s.close true, current := [] } else s
  | 0 =>
    match p.length? s.before (c :: rest) with
    | none | some 0 => { s with current := c :: s.current, before := some c }
    | some 1 => { s with done := ⟨true, [c]⟩ :: s.close false, current := [], before := some c }
    | some (n + 2) =>
      { s with done := s.close false, current := [c], left := n + 1, before := some c }

/-- The search through a text. -/
def through (p : Pattern) (s : Search) : List Char → Search
  | [] => s
  | c :: rest => through p (s.take p c rest) rest

end Search

/-- A text cut into the pieces that a pattern finds in it, from the front and
without overlap, and the stretches between them.  Empty pieces are passed over. -/
def split (p : Pattern) (cs : List Char) : List Stretch :=
  (((Search.mk [] [] 0 none).through p cs).close false).reverse

/-! ### Building patterns -/

/-- Patterns one after the other. -/
def all (ps : List Pattern) : Pattern := ps.foldr seq empty

/-- The first of several patterns that can go on. -/
def any (ps : List Pattern) : Pattern := ps.foldr alt (look fun _ _ => false)

/-- A pattern or, failing that, nothing. -/
def optional (p : Pattern) : Pattern := alt p empty

/-- At least one character of a class. -/
def many1 (test : Char → Bool) : Pattern := seq (one test) (many test)

/-- A pattern a number of times. -/
def times (n : Nat) (p : Pattern) : Pattern := all (List.replicate n p)

/-- A given character. -/
def char (c : Char) : Pattern := one (· == c)

/-- The characters of a string, in order. -/
def literal (s : String) : Pattern := all (s.toList.map char)

/-- One of the characters of a string. -/
def oneOf (s : String) : Pattern := one fun c => s.toList.contains c

/-- Whether a character may stand for a letter of ASCII when case is ignored.  The Kelvin sign and
the long s are a K and an S there, too. -/
def sameLetter (letter c : Char) : Bool :=
  c.toLower == letter || (letter == 'k' && c == '\u212a') || (letter == 's' && c == '\u017f')

/-- The characters of a string in lower case, in order, whatever their case. -/
def literalAnyCase (s : String) : Pattern := all (s.toList.map fun c => one (sameLetter c))

/-- The start of the text. -/
def atStart : Pattern := look fun before _ => before.isNone

/-- The end of the text. -/
def atEnd : Pattern := look fun _ after => after.isNone

/-- A place between a word character and something else.  The ends of a text count as something
else. -/
def wordBoundary : Pattern :=
  look fun before after => before.any Text.isWord != after.any Text.isWord

/-- A pattern that begins and ends at word boundaries. -/
def word (p : Pattern) : Pattern := all [wordBoundary, p, wordBoundary]

end Pattern

end ConsoleReplay
