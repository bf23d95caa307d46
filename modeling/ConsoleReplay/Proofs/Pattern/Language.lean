import ConsoleReplay.Pattern.Basic

/-!
# The texts of a pattern, and the one that it takes

Its assertions left out, a pattern stands for a set of texts, and whatever way a pattern goes from
one place to another, what lies between them is a text of the set.  In front of a text that stops
its repetitions a pattern takes one piece before it tries any other.  What it takes is told part by
part, as what stands behind a part is the rest of the piece and the text behind that.

## Main definitions

* `Place.Over piece place after` — a piece lies between two places of a text.
* `Pattern.Fits p cs` — a text of a pattern, whatever its assertions.
* `Pattern.Stops test rest` — no character of a class at the front of a text.
* `Pattern.Takes p piece rest` — in front of a text a pattern tries a piece first.

## Main results

* `Pattern.exists_of_run` — **a pattern goes over texts that fit it**.
* `Pattern.Takes.length?_eq` — what a pattern takes is the piece that it finds.
* `Pattern.Takes.seq`, `Pattern.takes_many`, `Pattern.takes_many_one`, ... — what the parts take.
* `Pattern.matchesStart_any`, `Pattern.fits_of_whole` — texts that fit as a whole.
-/

namespace ConsoleReplay

/-- A piece lies between two places of a text. -/
structure Place.Over (piece : List Char) (place after : Place) : Prop where
  rest_eq : place.rest = piece ++ after.rest
  taken_eq : after.taken = place.taken + piece.length

theorem Place.Over.nil (place : Place) : Over [] place place := ⟨rfl, rfl⟩

theorem Place.Over.append {front back : List Char} {place middle after : Place}
    (hfront : Over front place middle) (hback : Over back middle after) :
    Over (front ++ back) place after := by
  refine ⟨?_, ?_⟩
  · rw [hfront.rest_eq, hback.rest_eq, List.append_assoc]
  · rw [hback.taken_eq, hfront.taken_eq, List.length_append, Nat.add_assoc]

namespace Pattern

universe u

variable {α : Type u} {next : Place → Option α} {a : α}

/-! ### The way through a pattern, part by part -/

theorem run_one (test : Char → Bool) (place : Place) :
    (one test).run next place = match place.next? with
      | some (c, after) => if test c then next after else none
      | none => none :=
  rfl

theorem run_many (test : Char → Bool) (place : Place) :
    (many test).run next place = giveBack next place.before (place.rest.takeWhile test).reverse
      (place.taken + (place.rest.takeWhile test).length) (place.rest.dropWhile test) :=
  rfl

theorem run_seq (first second : Pattern) (place : Place) :
    (first.seq second).run next place = first.run (second.run next) place :=
  rfl

theorem run_alt (first second : Pattern) (place : Place) :
    (first.alt second).run next place = match first.run next place with
      | some a => some a
      | none => second.run next place :=
  rfl

theorem run_look (test : Option Char → Option Char → Bool) (place : Place) :
    (look test).run next place
      = if test place.before place.rest.head? then next place else none :=
  rfl

/-! ### The texts of a pattern -/

/-- A text that a pattern describes, its assertions left out.  A matcher takes only such texts,
though not all of them: it also looks at what is around them. -/
def Fits : Pattern → List Char → Prop
  | .empty, cs => cs = []
  | .one test, cs => ∃ c, test c = true ∧ cs = [c]
  | .many test, cs => ∀ c ∈ cs, test c = true
  | .seq first second, cs =>
    ∃ front back, first.Fits front ∧ second.Fits back ∧ cs = front ++ back
  | .alt first second, cs => first.Fits cs ∨ second.Fits cs
  | .star body, cs =>
    ∃ parts : List (List Char), (∀ part ∈ parts, body.Fits part) ∧ cs = parts.flatten
  | .look _, cs => cs = []

theorem fits_char {c : Char} {cs : List Char} : (char c).Fits cs ↔ cs = [c] := by
  simp [char, Fits]

/-- Wherever characters are given back, those that stay are the first ones. -/
theorem exists_of_giveBack {first : Option Char} {taken : List Char} {n : Nat} {rest : List Char}
    (h : giveBack next first taken n rest = some a) :
    ∃ front back before, taken.reverse = front ++ back
      ∧ next ⟨n - back.length, before, back ++ rest⟩ = some a := by
  -- The taken characters are kept last first, so the induction gives them back in the order the
  -- engine does.
  induction taken generalizing n rest with
  | nil => exact ⟨[], [], first, rfl, h⟩
  | cons c taken ih =>
    rw [giveBack] at h
    split at h
    · next hnext => exact ⟨taken.reverse ++ [c], [], c, by simp, hnext.trans h⟩
    · obtain ⟨front, back, before, htaken, hafter⟩ := ih h
      refine ⟨front, back ++ [c], before, by simp [htaken], ?_⟩
      rw [List.length_append, List.length_singleton, Nat.add_comm, ← Nat.sub_sub,
        List.append_assoc]
      exact hafter

/-- Repetitions of a step that goes over texts of a kind go over several of them.  They end where
the fuel does, or where a step is no longer possible. -/
theorem exists_of_repeatStep {step : (Place → Option α) → Place → Option α}
    {P : List Char → Prop}
    (hstep : ∀ {next : Place → Option α} {place : Place} {a : α}, step next place = some a →
      ∃ piece after, P piece ∧ place.Over piece after ∧ next after = some a)
    {fuel : List Char} {place : Place} (h : repeatStep step next fuel place = some a) :
    ∃ pieces after, (∀ piece ∈ pieces, P piece) ∧ place.Over (List.flatten pieces) after
      ∧ next after = some a := by
  -- A round uses up a character of fuel whether it takes one or not, so the induction is on the
  -- fuel and not on the text.
  induction fuel generalizing place a with
  | nil => exact ⟨[], place, List.forall_mem_nil _, .nil place, h⟩
  | cons _ fuel ih =>
    rw [repeatStep] at h
    split at h
    · next hfound =>
      obtain ⟨piece, middle, hpiece, hover, hmiddle⟩ := hstep (hfound.trans h)
      obtain ⟨pieces, after, hpieces, hovers, hafter⟩ := ih hmiddle
      exact ⟨piece :: pieces, after, List.forall_mem_cons.2 ⟨hpiece, hpieces⟩,
        hover.append hovers, hafter⟩
    · exact ⟨[], place, List.forall_mem_nil _, .nil place, h⟩

/-- **A pattern goes over texts that fit it.** -/
theorem exists_of_run {p : Pattern} {place : Place} (h : p.run next place = some a) :
    ∃ piece after, p.Fits piece ∧ place.Over piece after ∧ next after = some a := by
  -- What comes next is part of the statement, since a sequence runs its second half as what
  -- comes next of the first.
  induction p generalizing next place a with
  | empty => exact ⟨[], place, rfl, .nil place, h⟩
  | one test =>
    obtain ⟨taken, before, rest⟩ := place
    cases rest with
    | nil => cases h
    | cons c rest =>
      simp only [run_one, Place.next?, Option.ite_none_right_eq_some] at h
      exact ⟨[c], _, ⟨c, h.1, rfl⟩, ⟨rfl, rfl⟩, h.2⟩
  | many test =>
    obtain ⟨front, back, before, htaken, hafter⟩ := exists_of_giveBack h
    rw [List.reverse_reverse] at htaken
    refine ⟨front, _, fun c hc => ?_, ⟨?_, ?_⟩, hafter⟩
    · refine List.all_eq_true.1 (List.all_takeWhile (l := place.rest)) c ?_
      rw [htaken]
      exact List.mem_append_left back hc
    · rw [← List.append_assoc, ← htaken, List.takeWhile_append_dropWhile]
    · simp only [htaken, List.length_append]
      omega
  | seq first second hfirst hsecond =>
    obtain ⟨front, middle, hfront, hover, hmiddle⟩ := hfirst h
    obtain ⟨back, after, hback, hovers, hafter⟩ := hsecond hmiddle
    exact ⟨front ++ back, after, ⟨front, back, hfront, hback, rfl⟩, hover.append hovers, hafter⟩
  | alt first second hfirst hsecond =>
    rw [run_alt] at h
    split at h
    · next hfound =>
      obtain ⟨piece, after, hpiece, hover⟩ := hfirst (hfound.trans h)
      exact ⟨piece, after, Or.inl hpiece, hover⟩
    · obtain ⟨piece, after, hpiece, hover⟩ := hsecond h
      exact ⟨piece, after, Or.inr hpiece, hover⟩
  | star body hbody =>
    obtain ⟨pieces, after, hpieces, hover⟩ := exists_of_repeatStep hbody h
    exact ⟨pieces.flatten, after, ⟨pieces, hpieces, rfl⟩, hover⟩
  | look test =>
    rw [run_look, Option.ite_none_right_eq_some] at h
    exact ⟨[], place, rfl, .nil place, h.2⟩

/-- Where no text fits, a pattern does not go on. -/
theorem run_eq_none {p : Pattern} {place : Place}
    (h : ∀ piece rest, p.Fits piece → place.rest ≠ piece ++ rest) : p.run next place = none := by
  rw [Option.eq_none_iff_forall_ne_some]
  intro a hrun
  obtain ⟨piece, after, hpiece, hover, -⟩ := exists_of_run hrun
  exact h piece after.rest hpiece hover.rest_eq

/-! ### What a pattern takes

That a text fits a pattern says what may be taken; which of several such texts is taken depends on
the order of the tries and on what comes behind.  `Takes` says that the first try is the whole
piece. -/

/-- No character of a class stands at the front of a text, so a repetition of the class ends
there. -/
def Stops (test : Char → Bool) (rest : List Char) : Prop := ∀ c ∈ rest.head?, test c = false

theorem stops_cons {test : Char → Bool} {c : Char} (h : test c = false) (rest : List Char) :
    Stops test (c :: rest) := by
  rintro _ ⟨⟩
  exact h

/-- In front of a text a pattern tries a piece first: if there is a way to go on behind the piece,
the pattern goes that way. -/
def Takes (p : Pattern) (piece rest : List Char) : Prop :=
  ∀ ⦃α : Type⦄ ⦃next : Place → Option α⦄ ⦃a : α⦄ ⦃n : Nat⦄,
    (∀ before, next ⟨n + piece.length, before, rest⟩ = some a) →
      ∀ before, p.run next ⟨n, before, piece ++ rest⟩ = some a

variable {p q : Pattern} {test : Char → Bool} {piece front back cs rest : List Char}

/-- What a pattern takes is the piece that it finds. -/
theorem Takes.length?_eq (h : p.Takes piece rest) (before : Option Char) :
    p.length? before (piece ++ rest) = some piece.length :=
  h (fun _ => by rw [Nat.zero_add]) before

theorem takes_empty : Takes empty [] rest := fun _ _ _ _ hnext => hnext

theorem Takes.seq (hfirst : p.Takes front (back ++ rest)) (hsecond : q.Takes back rest) :
    (p.seq q).Takes (front ++ back) rest := by
  intro α next a n hnext before
  rw [run_seq, List.append_assoc]
  refine hfirst (fun middle => hsecond (fun after => ?_) middle) before
  rw [Nat.add_assoc, ← List.length_append]
  exact hnext after

theorem Takes.alt_left (h : p.Takes piece rest) : (p.alt q).Takes piece rest := by
  intro α next a n hnext before
  rw [run_alt, h hnext before]

/-- Where no text of the first alternative fits, the second one counts. -/
theorem Takes.alt_right (h : q.Takes piece rest)
    (hp : ∀ cs back, p.Fits cs → piece ++ rest ≠ cs ++ back) : (p.alt q).Takes piece rest := by
  intro α next a n hnext before
  rw [run_alt, run_eq_none hp]
  exact h hnext before

theorem takes_one (h : (one test).Fits cs) : (one test).Takes cs rest := by
  obtain ⟨c, hc, rfl⟩ := h
  intro α next a n hnext before
  simp only [run_one, Place.next?, List.singleton_append, if_pos hc]
  exact hnext _

/-- Characters are given back only if there is no way to go on. -/
theorem giveBack_eq_some {first : Option Char} {n : Nat}
    (h : ∀ before, next ⟨n, before, rest⟩ = some a) (taken : List Char) :
    giveBack next first taken n rest = some a := by
  cases taken with
  | nil => exact h first
  | cons c taken => rw [giveBack, h]

/-- In front of a text that stops it a repetition has all its characters to give back.  It takes all
of them first, and gives back as few as it can. -/
theorem Stops.run_many (hstop : Stops test rest) (hcs : ∀ c ∈ cs, test c = true)
    (next : Place → Option α) (n : Nat) (before : Option Char) :
    (many test).run next ⟨n, before, cs ++ rest⟩
      = giveBack next before cs.reverse (n + cs.length) rest := by
  have hsplit : (cs ++ rest).takeWhile test = cs ∧ (cs ++ rest).dropWhile test = rest := by
    rw [List.takeWhile_append_of_pos hcs, List.dropWhile_append_of_pos hcs]
    cases rest with
    | nil => exact ⟨List.append_nil cs, rfl⟩
    | cons c rest =>
      have hc : ¬test c = true := Bool.eq_false_iff.1 (hstop c rfl)
      rw [List.takeWhile_cons_of_neg hc, List.dropWhile_cons_of_neg hc, List.append_nil]
      exact ⟨rfl, rfl⟩
  rw [Pattern.run_many]
  simp only [hsplit.1, hsplit.2]

theorem takes_many (h : (many test).Fits cs) (hstop : Stops test rest) :
    (many test).Takes cs rest := by
  intro α next a n hnext before
  rw [hstop.run_many h]
  exact giveBack_eq_some hnext _

theorem takes_many1 (h : (many1 test).Fits cs) (hstop : Stops test rest) :
    (many1 test).Takes cs rest := by
  obtain ⟨front, back, hfront, hback, rfl⟩ := h
  exact (takes_one hfront).seq (takes_many hback hstop)

/-- A repetition that could take the last character of a piece gives that one back. -/
theorem takes_many_one {last : Char → Bool} (hfront : (many test).Fits front)
    (hback : (one last).Fits back) (hall : (many test).Fits back) (hstop : Stops test rest)
    (hlast : Stops last rest) : (all [many test, one last]).Takes (front ++ back) rest := by
  obtain ⟨c, hc, rfl⟩ := hback
  intro α next a n hnext before
  -- The repetition takes all of the piece first, and then nothing is left for the last
  -- character; so one is given back.
  have hnone (place : Place) (hplace : place.rest = rest) : (one last).run next place = none := by
    refine run_eq_none fun piece after hpiece hrest => ?_
    obtain ⟨c', hc', rfl⟩ := hpiece
    have hhead := hlast c' (by rw [← hplace, hrest]; rfl)
    rw [hc'] at hhead
    cases hhead
  have hrun : (all [many test, one last]).run next = (many test).run ((one last).run next) := rfl
  rw [hrun, hstop.run_many (List.forall_mem_append.2 ⟨hfront, hall⟩), List.reverse_concat, giveBack,
    hnone _ rfl]
  refine giveBack_eq_some (fun middle => ?_) _
  rw [List.length_append, List.length_singleton, ← Nat.add_assoc, Nat.add_sub_cancel]
  have hone : (one last).Takes [c] rest := takes_one ⟨c, hc, rfl⟩
  refine hone (fun after => ?_) middle
  rw [List.length_append, ← Nat.add_assoc] at hnext
  exact hnext after

/-! ### Texts that fit as a whole -/

/-- One of several patterns fits at the start of a text. -/
theorem matchesStart_any (ps : List Pattern) (cs : List Char) :
    (any ps).matchesStart cs = ps.any (·.matchesStart cs) := by
  induction ps with
  | nil => rfl
  | cons p ps ih =>
    rw [List.any_cons, ← ih]
    simp only [matchesStart, length?, any, List.foldr_cons, run_alt]
    split
    · next hfound => simp [hfound]
    · next hnone => simp [hnone]

/-- What fits between the start of a text and its end is the text. -/
theorem fits_of_whole (h : (all [atStart, p, atEnd]).matchesStart cs = true) : p.Fits cs := by
  obtain ⟨n, hrun⟩ := Option.isSome_iff_exists.1 h
  have hrun : p.run (atEnd.run (run empty fun place => some place.taken)) ⟨0, none, cs⟩ = some n :=
    hrun
  obtain ⟨piece, after, hpiece, hover, hafter⟩ := exists_of_run hrun
  rw [atEnd, run_look, Option.ite_none_right_eq_some, Option.isNone_iff_eq_none,
    List.head?_eq_none_iff] at hafter
  have hcs : cs = piece := by
    have hrest := hover.rest_eq
    rwa [hafter.1, List.append_nil] at hrest
  exact hcs ▸ hpiece

end Pattern

end ConsoleReplay
