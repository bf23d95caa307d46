/-!
# Reading UTF-8

Bytes are read one at a time by a machine that remembers the sequence in
progress.  A sequence that cannot go on is malformed as far as it was read, and
the byte that broke it is read anew, so that a malformed stretch is as short as
the standard recommends.

## Main definitions

* `Utf8.Progress` — what has been read of the sequence in progress.
* `Utf8.step p b` — the progress after a byte, and the pieces it completes.
* `Utf8.pieces bytes` — the characters of a text, with `none` for each malformed
  stretch.
* `Utf8.decodeLossy bytes` — the text with the replacement character for each
  malformed stretch.
* `Utf8.decode? bytes` — the text, if nothing in it is malformed.
* `Utf8.completeLength bytes` — how many bytes there are before an unfinished
  sequence at the end.
-/

namespace ConsoleReplay.Text.Utf8

/-- What has been read of the sequence in progress.  A malformed stretch is as long as the longest
beginning of a character that it could have been. -/
inductive Progress
  /-- No sequence is in progress. -/
  | start
  /-- So many bytes are still to come, the next one between `lo` and `hi`; `acc`
  is the part of the code point that has been read. -/
  | partway (missing lo hi acc : Nat)
  deriving DecidableEq, Repr

/-- The progress after a byte that begins a sequence, and what the byte completes.
The bounds on the second byte leave out overlong forms, surrogates and code
points that are too large. -/
def stepStart (b : Nat) : Progress × List (Option Char) :=
  if b < 0x80 then (.start, [some (.ofNat b)])
  else if b < 0xc2 then (.start, [none])
  else if b < 0xe0 then (.partway 1 0x80 0xbf (b - 0xc0), [])
  else if b = 0xe0 then (.partway 2 0xa0 0xbf 0, [])
  else if b = 0xed then (.partway 2 0x80 0x9f 0xd, [])
  else if b < 0xf0 then (.partway 2 0x80 0xbf (b - 0xe0), [])
  else if b = 0xf0 then (.partway 3 0x90 0xbf 0, [])
  else if b < 0xf4 then (.partway 3 0x80 0xbf (b - 0xf0), [])
  else if b = 0xf4 then (.partway 3 0x80 0x8f 4, [])
  else (.start, [none])

/-- The progress after a byte, and the pieces that the byte completes.  A byte that cannot go on
with a sequence ends it, and is then looked at as a first one. -/
def step : Progress → UInt8 → Progress × List (Option Char)
  | .start, b => stepStart b.toNat
  | .partway missing lo hi acc, b =>
    let n := b.toNat
    if lo ≤ n && n ≤ hi then
      let acc := acc * 64 + (n - 0x80)
      if missing ≤ 1 then (.start, [some (.ofNat acc)])
      else (.partway (missing - 1) 0x80 0xbf acc, [])
    else
      let (p, out) := stepStart n
      (p, none :: out)

/-- The progress after bytes, and the pieces they complete in reverse order. -/
def run (p : Progress) (bytes : List UInt8) : Progress × List (Option Char) :=
  bytes.foldl (fun (p, out) b => let (p, new) := step p b; (p, new.reverse ++ out)) (p, [])

/-- What follows is read from the progress that the bytes before it leave. -/
theorem run_append (p : Progress) (xs ys : List UInt8) :
    run p (xs ++ ys) = ((run (run p xs).1 ys).1, (run (run p xs).1 ys).2 ++ (run p xs).2) := by
  have fold (r : Progress × List (Option Char)) :
      ys.foldl (fun (p, out) b => let (p, new) := step p b; (p, new.reverse ++ out)) r
        = ((run r.1 ys).1, (run r.1 ys).2 ++ r.2) := by
    induction ys generalizing r with
    | nil => rfl
    | cons y ys ih =>
      rw [run, List.foldl_cons, List.foldl_cons, ih, ih]
      simp
  rw [run, List.foldl_append, fold]
  rfl

/-- The malformed piece that an unfinished sequence leaves at the end. -/
def Progress.flush : Progress → List (Option Char)
  | .start => []
  | .partway .. => [none]

/-- The characters of a text in order, with `none` for each malformed stretch. -/
def pieces (bytes : List UInt8) : List (Option Char) :=
  let (p, out) := run .start bytes
  out.reverse ++ p.flush

/-- The text with the replacement character for each malformed stretch.  No text is refused,
whatever its bytes are. -/
def decodeLossy (bytes : List UInt8) : List Char :=
  (pieces bytes).map (·.getD '\ufffd')

/-- The text, if nothing in it is malformed. -/
def decode? (bytes : List UInt8) : Option (List Char) :=
  let ps := pieces bytes
  if ps.all Option.isSome then some (ps.filterMap id) else none

/-- Whether bytes are one sequence that has begun and not ended.  Nothing is malformed in them so
far: whatever is missing may still come. -/
def isUnfinished (bytes : List UInt8) : Bool :=
  match run .start bytes with
  | (.partway .., []) => true
  | _ => false

/-- How many bytes there are before an unfinished sequence at the end.  Such a
sequence is at most three bytes long. -/
def completeLength (bytes : List UInt8) : Nat :=
  let n := bytes.length
  ((List.range' (n - 3) (n - (n - 3))).find? fun i => isUnfinished (bytes.drop i)).getD n

/-- The bytes of a text. -/
def encode (cs : List Char) : List UInt8 := (String.ofList cs).toUTF8.toList

end ConsoleReplay.Text.Utf8
