import ConsoleReplay.Proofs.Pattern.Language
import Mathlib.Data.List.Chain

/-!
# How a pattern cuts a text

A pattern goes over a piece of the text, however it repeats and gives back, so no piece is longer
than the text it begins.  Hence a search ends between pieces.
The stretches that it leaves are the text, none of them is empty, and two that were not found never
stand side by side: a text is cut where pieces are found and nowhere else.

## Main definitions

* `Pattern.Separate stretches` — stretches, none of them empty, and of two neighbours one found.
* `Search.Holds s cs` — what a search has after a text.
* `Pattern.Overlooks p test behind` — no piece begins with a character of a class.
* `Match`, `InOrder` — where something is found in a text, in order and without overlap.
* `Pattern.findAll p cs` — where the pieces of a pattern are.

## Main results

* `Pattern.length?_le` — a piece is not longer than the text.
* `Search.Holds.take`, `Search.Holds.through` — what a character and a text do to a search.
* `Pattern.flatMap_chars_split`, `Pattern.separate_split` — **the stretches of a text**.
* `Pattern.Overlooks.split_eq`, `Pattern.Overlooks.split_around` — what is found among characters
  that are overlooked: nothing, or the one piece that stands among them.
* `Pattern.inOrder_findAll` — pieces are found in order, without overlap and inside the text.
-/

namespace ConsoleReplay

namespace Pattern

/-- A piece is not longer than the text it begins. -/
theorem length?_le {p : Pattern} {before : Option Char} {cs : List Char} {n : Nat}
    (h : p.length? before cs = some n) : n ≤ cs.length := by
  obtain ⟨piece, after, -, ⟨hrest, htaken⟩, hafter⟩ := exists_of_run h
  have hcs : cs = piece ++ after.rest := hrest
  rw [← Option.some.inj hafter, htaken, hcs, List.length_append, Nat.zero_add]
  exact Nat.le_add_right _ _

/-! ### Stretches -/

/-- Stretches of which none is empty, and of two neighbours one was found.  Two found ones may be
neighbours; two others would have been one. -/
structure Separate (stretches : List Stretch) : Prop where
  ne_nil : ∀ stretch ∈ stretches, stretch.chars ≠ []
  apart : stretches.IsChain fun stretch next => stretch.found = true ∨ next.found = true

theorem separate_nil : Separate [] := ⟨List.forall_mem_nil _, .nil⟩

/-- A stretch that was found may follow any other, and one that was not may follow one that was. -/
theorem Separate.concat {stretches : List Stretch} (h : Separate stretches) {stretch : Stretch}
    (hne : stretch.chars ≠ [])
    (hlast : stretch.found = true ∨ ∀ last ∈ stretches.getLast?, last.found = true) :
    Separate (stretches ++ [stretch]) := by
  refine ⟨List.forall_mem_append.2 ⟨h.ne_nil, List.forall_mem_singleton.2 hne⟩, ?_⟩
  refine List.isChain_append.2 ⟨h.apart, .singleton _, ?_⟩
  rintro last hmem _ ⟨⟩
  exact hlast.symm.imp_left fun hfound => hfound last hmem

namespace Search

/-- What a search has after a text: the complete stretches and the one in progress are the text, and
between pieces the last complete stretch is a piece. -/
structure Holds (s : Search) (cs : List Char) : Prop where
  chars_eq : s.done.reverse.flatMap Stretch.chars ++ s.current.reverse = cs
  separate : Separate s.done.reverse
  found_of_left : s.left = 0 → ∀ stretch ∈ s.done.head?, stretch.found = true

variable {s : Search} {cs : List Char}

/-- With the stretch in progress the stretches are the text. -/
theorem separate_close (found : Bool) (hseparate : Separate s.done.reverse)
    (hfound : found = true ∨ ∀ stretch ∈ s.done.head?, stretch.found = true) :
    (s.close found).reverse.flatMap Stretch.chars
        = s.done.reverse.flatMap Stretch.chars ++ s.current.reverse
      ∧ Separate (s.close found).reverse := by
  rw [Search.close]
  split
  · next hempty => simp [List.isEmpty_iff.1 hempty, hseparate]
  · next hempty =>
    rw [List.isEmpty_iff] at hempty
    refine ⟨by simp, ?_⟩
    rw [List.reverse_cons]
    refine hseparate.concat (by simpa using hempty) ?_
    rwa [List.getLast?_reverse]

/-- A character is one more of the text.  Inside a piece the character belongs to it; outside,
either a piece begins or the stretch in progress grows. -/
theorem Holds.take (h : Holds s cs) (p : Pattern) (c : Char) (rest : List Char) :
    Holds (s.take p c rest) (cs ++ [c]) := by
  obtain ⟨done, current, left, before⟩ := s
  obtain ⟨rfl, hseparate, hleft⟩ := h
  cases left with
  | succ left =>
    simp only [Search.take]
    split
    · -- The character completes a piece.
      obtain ⟨hchars, hclosed⟩ := separate_close true (s := ⟨done, c :: current, left, some c⟩)
        hseparate (Or.inl rfl)
      refine ⟨by simp [hchars], hclosed, fun _ stretch hmem => ?_⟩
      rw [Search.close, if_neg (by simp)] at hmem
      rw [← Option.some.inj hmem]
    · next hmore =>
      exact ⟨by simp, hseparate, fun hzero => absurd hzero hmore⟩
  | zero =>
    obtain ⟨hchars, hclosed⟩ := separate_close false hseparate (Or.inr (hleft rfl))
    simp only [Search.take]
    split
    · exact ⟨by simp, hseparate, hleft⟩
    · exact ⟨by simp, hseparate, hleft⟩
    · refine ⟨by simp [hchars], ?_, ?_⟩
      · rw [List.reverse_cons]
        exact hclosed.concat (List.cons_ne_nil c []) (Or.inl rfl)
      · rintro _ _ ⟨⟩
        rfl
    · exact ⟨by simp [hchars], hclosed, fun hzero => nomatch hzero⟩

/-- What a piece still has is in the text that is left. -/
theorem left_take_le {c : Char} {rest : List Char} (hleft : s.left ≤ rest.length + 1)
    (p : Pattern) : (s.take p c rest).left ≤ rest.length := by
  obtain ⟨done, current, left, before⟩ := s
  cases left with
  | succ left =>
    simp only [Search.take]
    split <;> exact Nat.le_of_succ_le_succ hleft
  | zero =>
    simp only [Search.take]
    split
    · exact Nat.zero_le _
    · exact Nat.zero_le _
    · exact Nat.zero_le _
    · next hpiece => exact Nat.le_of_succ_le_succ (length?_le hpiece)

/-- A text is read to its end, and the search ends between pieces. -/
theorem Holds.through (h : Holds s cs) (p : Pattern) {rest : List Char}
    (hleft : s.left ≤ rest.length) :
    Holds (s.through p rest) (cs ++ rest) ∧ (s.through p rest).left = 0 := by
  induction rest generalizing s cs with
  | nil => exact ⟨by rwa [List.append_nil], Nat.le_zero.1 hleft⟩
  | cons c rest ih =>
    rw [Search.through, List.append_cons]
    exact ih (h.take p c rest) (left_take_le hleft p)

end Search

theorem split_spec (p : Pattern) (cs : List Char) :
    (p.split cs).flatMap Stretch.chars = cs ∧ Separate (p.split cs) := by
  have hstart : Search.Holds ⟨[], [], 0, none⟩ [] :=
    ⟨rfl, separate_nil, fun _ _ hmem => nomatch hmem⟩
  obtain ⟨hend, hleft⟩ := hstart.through p (Nat.zero_le cs.length)
  obtain ⟨hchars, hseparate⟩ :=
    Search.separate_close false hend.separate (Or.inr (hend.found_of_left hleft))
  exact ⟨hchars.trans hend.chars_eq, hseparate⟩

/-- The stretches of a text are the text. -/
theorem flatMap_chars_split (p : Pattern) (cs : List Char) :
    (p.split cs).flatMap Stretch.chars = cs := (split_spec p cs).1

/-- A text is cut where pieces are found and nowhere else. -/
theorem separate_split (p : Pattern) (cs : List Char) : Separate (p.split cs) := (split_spec p cs).2

/-! ### A piece among characters where none begins

The search meets every character once, so a text of three parts is gone through in three steps:
characters that are overlooked, the piece, and characters that are overlooked again. -/

/-- No piece begins with a character of a class behind what passes a test, and the characters of the
class pass it. -/
structure Overlooks (p : Pattern) (test : Char → Bool) (behind : Option Char → Prop) : Prop where
  none_of_test : ∀ before c rest, behind before → test c = true →
    p.length? before (c :: rest) = none
  behind_test : ∀ c, test c = true → behind (some c)

/-- A stretch in which nothing was found, if there is one. -/
def unfound (cs : List Char) : List Stretch := if cs.isEmpty then [] else [⟨false, cs⟩]

section Search

variable {p : Pattern} {test : Char → Bool} {behind : Option Char → Prop}

/-- A search goes through what is overlooked without a piece.  No piece begins there, wherever the
search comes from. -/
theorem Overlooks.through (h : Overlooks p test behind) {cs : List Char}
    (hcs : ∀ c ∈ cs, test c = true) {before : Option Char} (hbefore : behind before)
    (done : List Stretch) (current rest : List Char) :
    ∃ last, behind last ∧ (Search.mk done current 0 before).through p (cs ++ rest)
      = (Search.mk done (cs.reverse ++ current) 0 last).through p rest := by
  induction cs generalizing current before with
  | nil => exact ⟨before, hbefore, rfl⟩
  | cons c cs ih =>
    obtain ⟨hc, hcs⟩ := List.forall_mem_cons.1 hcs
    obtain ⟨last, hlast, hrest⟩ := ih hcs (h.behind_test c hc) (c :: current)
    refine ⟨last, hlast, ?_⟩
    rw [List.reverse_cons, List.append_assoc, List.singleton_append, ← hrest, List.cons_append,
      Search.through, Search.take]
    simp only [h.none_of_test before c _ hbefore hc]

/-- A search goes through what a piece still has. -/
theorem Search.through_left (p : Pattern) {piece : List Char} {left : Nat}
    (hleft : piece.length = left + 1) (done : List Stretch) (current rest : List Char)
    (before : Option Char) :
    ∃ last, (Search.mk done current (left + 1) before).through p (piece ++ rest)
      = (Search.mk (⟨true, current.reverse ++ piece⟩ :: done) [] 0 last).through p rest := by
  -- What the search still owes is as long as the piece, so the induction takes a character off
  -- both; the piece is closed with its last one.
  induction piece generalizing left current before with
  | nil => cases hleft
  | cons c piece ih =>
    rw [List.length_cons, Nat.add_right_cancel_iff] at hleft
    rw [List.cons_append, Search.through, Search.take]
    cases left with
    | zero =>
      rw [List.length_eq_zero_iff] at hleft
      refine ⟨some c, ?_⟩
      simp [hleft, Search.close]
    | succ left =>
      obtain ⟨last, hrest⟩ := ih hleft (c :: current) (some c)
      refine ⟨last, ?_⟩
      simpa using hrest

/-- A search goes through a piece that is found. -/
theorem Search.through_piece {piece rest : List Char} {before : Option Char}
    (hpiece : p.length? before (piece ++ rest) = some piece.length) (hne : piece ≠ [])
    (done : List Stretch) (current : List Char) :
    ∃ last, (Search.mk done current 0 before).through p (piece ++ rest)
      = (Search.mk (⟨true, piece⟩ :: (Search.mk done current 0 before).close false) [] 0
          last).through p rest := by
  -- A piece of one character is complete at once; of a longer one some is left.
  obtain ⟨c, piece, rfl⟩ := List.exists_cons_of_ne_nil hne
  rw [List.cons_append] at hpiece
  rw [List.cons_append, Search.through, Search.take]
  cases piece with
  | nil =>
    refine ⟨some c, ?_⟩
    simp only [hpiece, List.length_singleton]
    rfl
  | cons c' piece =>
    have hleft : (c' :: piece).length = piece.length + 1 := List.length_cons
    obtain ⟨last, hrest⟩ := Search.through_left p hleft
      ((Search.mk done current 0 before).close false) [c] rest (some c)
    refine ⟨last, ?_⟩
    simp only [hpiece, List.length_cons]
    exact hrest

theorem Search.close_unfound (done : List Stretch) (cs : List Char) (left : Nat)
    (before : Option Char) :
    (Search.mk done cs.reverse left before).close false = (unfound cs).reverse ++ done := by
  rw [Search.close, unfound, List.isEmpty_reverse]
  split <;> simp

/-- Nothing is found in what is overlooked. -/
theorem Overlooks.split_eq (h : Overlooks p test behind) (hstart : behind none) {cs : List Char}
    (hcs : ∀ c ∈ cs, test c = true) : p.split cs = unfound cs := by
  obtain ⟨last, -, hthrough⟩ := h.through hcs hstart [] [] []
  rw [List.append_nil, List.append_nil] at hthrough
  rw [Pattern.split, hthrough, Search.through, Search.close_unfound, List.append_nil,
    List.reverse_reverse]

/-- **A piece is found among characters that are overlooked.** -/
theorem Overlooks.split_around (h : Overlooks p test fun _ => True) {lead piece trail : List Char}
    (hlead : ∀ c ∈ lead, test c = true) (htrail : ∀ c ∈ trail, test c = true) (hne : piece ≠ [])
    (hpiece : ∀ before, p.length? before (piece ++ trail) = some piece.length) :
    p.split (lead ++ (piece ++ trail)) = unfound lead ++ ⟨true, piece⟩ :: unfound trail := by
  have hbehind (before : Option Char) : (fun _ : Option Char => True) before := trivial
  obtain ⟨last, -, hthroughLead⟩ := h.through hlead (hbehind none) [] [] (piece ++ trail)
  obtain ⟨last', hthroughPiece⟩ := Search.through_piece (hpiece last) hne [] lead.reverse
  obtain ⟨last'', -, hthroughTrail⟩ := h.through htrail (hbehind last')
    (⟨true, piece⟩ :: (Search.mk [] lead.reverse 0 last).close false) [] []
  rw [List.append_nil] at hthroughLead
  rw [List.append_nil, List.append_nil] at hthroughTrail
  rw [Pattern.split, hthroughLead, hthroughPiece, hthroughTrail, Search.through,
    Search.close_unfound, Search.close_unfound]
  simp

end Search

end Pattern

/-! ### Where something is found -/

/-- Something found in a text: the place where it begins and the place after its end. -/
structure Match where
  start : Nat
  stop : Nat
  deriving DecidableEq, Repr

/-- Matches in order and without overlap, from a place on and up to the end of a text.  A match may
be empty. -/
inductive InOrder (length : Nat) : Nat → List Match → Prop
  | nil (last : Nat) : InOrder length last []
  | cons {last : Nat} {m : Match} {ms : List Match} (hlast : last ≤ m.start)
      (hstart : m.start ≤ m.stop) (hstop : m.stop ≤ length) (h : InOrder length m.stop ms) :
      InOrder length last (m :: ms)

theorem InOrder.mono {length last : Nat} {ms : List Match} (h : InOrder length last ms)
    {first : Nat} (hfirst : first ≤ last) : InOrder length first ms := by
  cases h with
  | nil => exact .nil first
  | cons hlast hstart hstop h => exact .cons (Nat.le_trans hfirst hlast) hstart hstop h

namespace Pattern

/-- Where those stretches are that were found, if the first one begins at a place. -/
def matchesFrom (place : Nat) : List Stretch → List Match
  | [] => []
  | stretch :: stretches =>
    let stop := place + stretch.chars.length
    if stretch.found then ⟨place, stop⟩ :: matchesFrom stop stretches
    else matchesFrom stop stretches

/-- Where the pieces of a pattern are in a text. -/
def findAll (p : Pattern) (cs : List Char) : List Match := matchesFrom 0 (p.split cs)

theorem inOrder_matchesFrom {length place : Nat} {stretches : List Stretch}
    (h : place + (stretches.flatMap Stretch.chars).length ≤ length) :
    InOrder length place (matchesFrom place stretches) := by
  induction stretches generalizing place with
  | nil => exact .nil place
  | cons stretch stretches ih =>
    rw [List.flatMap_cons, List.length_append, ← Nat.add_assoc] at h
    have hstop := Nat.le_trans (Nat.le_add_right _ _) h
    rw [matchesFrom]
    split
    · exact .cons (Nat.le_refl place) (Nat.le_add_right _ _) hstop (ih h)
    · exact (ih h).mono (Nat.le_add_right _ _)

/-- Pieces are found in order, without overlap and inside the text. -/
theorem inOrder_findAll (p : Pattern) (cs : List Char) : InOrder cs.length 0 (p.findAll cs) := by
  refine inOrder_matchesFrom ?_
  rw [flatMap_chars_split, Nat.zero_add]

end Pattern

end ConsoleReplay
