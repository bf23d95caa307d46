import ConsoleReplay.Style.Sgr

/-!
# Parts of a select-graphic-rendition sequence

The codes of a sequence are read one by one, but 38 and 48 look ahead: with a palette index they
take two more codes along, with red, green and blue four.  Any of these may be a 0, a 38 or the code
of an attribute.  Read from its front such a list comes apart in one way, into single codes and
extended colours, and only the single codes do something to a style.

A place inside a list may lie inside an extended colour.  Where it does not, what comes before the
place can be carried out by itself, and what comes after it follows.

## Main definitions

* `Part` — a single code or an extended colour; `codesOf parts` — the codes of parts.
* `Style.overhang rest skip front` — how many codes of `rest` belong to a colour that begins in
  front of them.

## Main results

* `Style.applyCodes_codesOf_append` — parts do what their single codes do, whatever follows.
* `Style.applyAfter_append` — codes come apart at any place, less what a colour reaches over.
* `Style.applyCodes_append_leader` — what one more 38 or 48 does where no colour reaches over.
* `Style.applyCodes_append_leader_reached` — what it does where one reaches over.
* `Style.applySgr_codesOf` — **extended colours do not leak into attributes**.
-/

namespace ConsoleReplay

/-- What an extended colour colours. -/
inductive Ground
  | foreground
  | background
  deriving DecidableEq, Repr

/-- The code that begins an extended colour. -/
def Ground.leader : Ground → Nat
  | .foreground => 38
  | .background => 48

/-- A part of the codes of a sequence: a single code that begins no extended colour, or an extended
colour with a palette index or with red, green and blue. -/
inductive Part
  | single (code : Nat) (hcode : Style.beginsExtended code = false)
  | palette (ground : Ground) (index : Nat)
  | direct (ground : Ground) (red green blue : Nat)

/-- The codes of a part. -/
def Part.codes : Part → List Nat
  | .single code _ => [code]
  | .palette ground index => [ground.leader, 5, index]
  | .direct ground red green blue => [ground.leader, 2, red, green, blue]

/-- The code of a part that is a single code. -/
def Part.single? : Part → Option Nat
  | .single code _ => some code
  | .palette .. | .direct .. => none

/-- The codes of parts, one after the other. -/
def codesOf (parts : List Part) : List Nat := parts.flatMap Part.codes

theorem codesOf_append (parts others : List Part) :
    codesOf (parts ++ others) = codesOf parts ++ codesOf others := List.flatMap_append

theorem codesOf_ne_nil {parts : List Part} (h : parts ≠ []) : codesOf parts ≠ [] := by
  obtain ⟨part, parts, rfl⟩ := List.exists_cons_of_ne_nil h
  cases part <;> simp [codesOf, Part.codes]

namespace Style

theorem beginsExtended_leader (ground : Ground) : beginsExtended ground.leader = true := by
  cases ground <;> rfl

theorem applySgr_of_ne_nil (s : Style) {codes : List Nat} (h : codes ≠ []) :
    s.applySgr codes = s.applyCodes codes := if_neg (by simpa using h)

/-- Codes that belong to a colour are passed over. -/
theorem applyAfter_eq_applyCodes_drop (skip : Nat) (s : Style) (codes : List Nat) :
    applyAfter skip s codes = s.applyCodes (codes.drop skip) := by
  induction codes generalizing skip with
  | nil => simp [applyAfter]
  | cons code rest ih =>
    cases skip with
    | zero => rfl
    | succ n => exact ih n

/-- A code that begins a colour does nothing but pass over what belongs to it. -/
theorem applyCodes_of_beginsExtended (s : Style) {code : Nat} (h : beginsExtended code = true)
    (rest : List Nat) :
    s.applyCodes (code :: rest) = s.applyCodes (rest.drop (extendedLength rest)) := by
  rw [applyCodes_cons, if_pos h, applyAfter_eq_applyCodes_drop]

theorem applyCodes_of_not_beginsExtended (s : Style) {code : Nat} (h : beginsExtended code = false)
    (rest : List Nat) : s.applyCodes (code :: rest) = (s.applyCode code).applyCodes rest := by
  rw [applyCodes_cons, h, if_neg Bool.false_ne_true]

/-! ### Parts -/

/-- What a part does to a style: only a single code does something. -/
def applyPart (s : Style) (part : Part) : Style :=
  match part.single? with
  | some code => s.applySgr [code]
  | none => s

/-- A part keeps to itself, whatever follows. -/
theorem applyCodes_codes_append (s : Style) (part : Part) (rest : List Nat) :
    s.applyCodes (part.codes ++ rest) = (s.applyPart part).applyCodes rest := by
  cases part with
  | single code hcode =>
    have hsingle : s.applyPart (.single code hcode) = s.applyCode code :=
      applyCodes_of_not_beginsExtended s hcode []
    rw [hsingle]
    exact applyCodes_of_not_beginsExtended s hcode rest
  | palette ground index => exact applyCodes_of_beginsExtended s (beginsExtended_leader ground) _
  | direct ground red green blue =>
    exact applyCodes_of_beginsExtended s (beginsExtended_leader ground) _

/-- **Parts do what their single codes do**, whatever follows. -/
theorem applyCodes_codesOf_append (s : Style) (parts : List Part) (rest : List Nat) :
    s.applyCodes (codesOf parts ++ rest) = (parts.foldl applyPart s).applyCodes rest := by
  induction parts generalizing s with
  | nil => rfl
  | cons part parts ih =>
    have hsplit : codesOf (part :: parts) = part.codes ++ codesOf parts := List.flatMap_cons
    rw [hsplit, List.append_assoc, applyCodes_codes_append, ih, List.foldl_cons]

theorem applySgr_codesOf_eq_foldl (s : Style) {parts : List Part} (h : parts ≠ []) :
    s.applySgr (codesOf parts) = parts.foldl applyPart s := by
  have hread := s.applyCodes_codesOf_append parts []
  rwa [List.append_nil, applyCodes_nil, ← applySgr_of_ne_nil s (codesOf_ne_nil h)] at hread

theorem applySgr_codesOf_append (s : Style) {parts : List Part} (h : parts ≠ []) {rest : List Nat}
    (hrest : rest ≠ []) :
    s.applySgr (codesOf parts ++ rest) = (s.applySgr (codesOf parts)).applySgr rest := by
  rw [applySgr_of_ne_nil s (List.append_ne_nil_of_right_ne_nil _ hrest), applySgr_of_ne_nil _ hrest,
    applyCodes_codesOf_append, applySgr_codesOf_eq_foldl s h]

/-- **Extended colours do not leak into attributes.**  A list of parts does to a pen what its single
codes do, each as a sequence of its own, and its extended colours do nothing, whatever their
arguments are.  So a sequence comes to the same as two where a part ends, and where parts follow
parts. -/
theorem applySgr_codesOf (pen : Style) {parts : List Part} (hparts : parts ≠ []) :
    pen.applySgr (codesOf parts)
        = (parts.filterMap Part.single?).foldl (fun s code => s.applySgr [code]) pen
      ∧ (∀ rest, rest ≠ [] →
          pen.applySgr (codesOf parts ++ rest) = (pen.applySgr (codesOf parts)).applySgr rest)
      ∧ ∀ others, others ≠ [] →
          pen.applySgr (codesOf (parts ++ others))
            = (pen.applySgr (codesOf parts)).applySgr (codesOf others) := by
  refine ⟨?_, ?_, ?_⟩
  · -- A part without a single code is an extended colour, and both folds leave it out.
    rw [applySgr_codesOf_eq_foldl pen hparts, List.foldl_filterMap]
    congr 1
    funext s part
    cases part <;> rfl
  · intro rest hrest
    exact applySgr_codesOf_append pen hparts hrest
  · intro others hothers
    rw [codesOf_append]
    exact applySgr_codesOf_append pen hparts (codesOf_ne_nil hothers)

/-- Colours whose arguments are a reset, attributes and the beginnings of colours. -/
theorem applySgr_codesOf_underlined :
    let parts : List Part := [.single 1 rfl, .palette .foreground 0, .direct .background 38 48 3,
      .single 4 rfl, .palette .background 38]
    let pen : Style := { Style.plain with italic := true }
    parts ≠ []
      ∧ codesOf parts = [1, 38, 5, 0, 48, 2, 38, 48, 3, 4, 48, 5, 38]
      ∧ pen.applySgr (codesOf parts) = ⟨.default, .default, true, true, true⟩
      ∧ pen.applySgr (codesOf parts ++ [22, 31]) = ⟨.normal .red, .default, false, true, true⟩ := by
  intro parts pen
  have hparts : parts ≠ [] := List.cons_ne_nil _ _
  obtain ⟨hsingle, happend, -⟩ := applySgr_codesOf pen hparts
  refine ⟨hparts, rfl, hsingle.trans rfl, ?_⟩
  rw [happend [22, 31] (List.cons_ne_nil _ _), hsingle]
  rfl

/-! ### Places between colours

Where a list of codes is cut, a colour in front of the cut may count codes behind it among its
arguments.  How many it takes is all that the front has to say about the rest. -/

/-- How many codes of `rest` belong to an extended colour that begins in the codes in front of it,
of which the first `skip` belong to a colour already. -/
def overhang (rest : List Nat) (skip : Nat) : List Nat → Nat
  | [] => skip
  | code :: front =>
    match skip with
    | n + 1 => overhang rest n front
    | 0 =>
      if beginsExtended code then overhang rest (extendedLength (front ++ rest)) front
      else overhang rest 0 front

/-- The length of a colour is told by the first code after its beginning. -/
theorem extendedLength_append {front : List Nat} (h : front ≠ []) (rest : List Nat) :
    extendedLength (front ++ rest) = extendedLength front := by
  obtain ⟨code, front, rfl⟩ := List.exists_cons_of_ne_nil h
  rw [List.cons_append]
  unfold extendedLength
  split <;> simp_all

/-- **Codes come apart at any place**: those behind it that belong to a colour in front of it are
lost, and the others follow on the style that the codes in front have made. -/
theorem applyAfter_append (rest : List Nat) (skip : Nat) (s : Style) (front : List Nat) :
    applyAfter skip s (front ++ rest)
      = (applyAfter skip s front).applyCodes (rest.drop (overhang rest skip front)) := by
  induction front generalizing skip s with
  | nil => exact applyAfter_eq_applyCodes_drop skip s rest
  | cons code front ih =>
    cases skip with
    | succ n => exact ih n s
    | zero =>
      rw [List.cons_append, applyAfter, applyAfter, overhang]
      cases hcode : beginsExtended code with
      | false =>
        rw [if_neg Bool.false_ne_true, if_neg Bool.false_ne_true, if_neg Bool.false_ne_true]
        exact ih 0 _
      | true =>
        -- The colour counts its arguments in all that follows; with a code in front of the place
        -- the first of them is there, and it alone tells how many there are.
        rw [if_pos rfl, if_pos rfl, if_pos rfl, ih]
        cases front with
        | nil => rfl
        | cons next front => rw [extendedLength_append (List.cons_ne_nil next front)]

theorem applyCodes_append (s : Style) {front rest : List Nat} (h : overhang rest 0 front = 0) :
    s.applyCodes (front ++ rest) = (s.applyCodes front).applyCodes rest := by
  have hapart := applyAfter_append rest 0 s front
  rwa [h, List.drop_zero] at hapart

/-- How far a colour reaches over is told by the codes in front of the place, as soon as one of
its arguments is among them. -/
theorem overhang_eq_of_pos {skip : Nat} {front : List Nat} (h : 0 < overhang [] skip front)
    (rest : List Nat) : overhang rest skip front = overhang [] skip front := by
  induction front generalizing skip with
  | nil => rfl
  | cons code front ih =>
    cases skip with
    | succ n => exact ih h
    | zero =>
      rw [overhang] at h ⊢
      rw [overhang]
      cases hcode : beginsExtended code with
      | false =>
        rw [hcode, if_neg Bool.false_ne_true] at h
        exact ih h
      | true =>
        rw [hcode, if_pos rfl] at h
        rw [if_pos rfl, if_pos rfl]
        cases front with
        -- A colour that stands last in front of the place reaches nowhere while nothing follows,
        -- which the hypothesis excludes.
        | nil => exact absurd h (Nat.lt_irrefl 0)
        | cons next front =>
          rw [extendedLength_append (List.cons_ne_nil next front)] at h ⊢
          rw [extendedLength_append (List.cons_ne_nil next front)]
          exact ih h

/-- At a place that no colour reaches over none does if another colour begins there. -/
theorem overhang_leader {rest : List Nat} {skip : Nat} {front : List Nat} (ground : Ground)
    (h : overhang rest skip front = 0) : overhang (ground.leader :: rest) skip front = 0 := by
  induction front generalizing skip with
  | nil => exact h
  | cons code front ih =>
    cases skip with
    | succ n => exact ih h
    | zero =>
      rw [overhang] at h ⊢
      cases hcode : beginsExtended code with
      | false =>
        rw [hcode, if_neg Bool.false_ne_true] at h
        exact ih h
      | true =>
        rw [hcode, if_pos rfl] at h
        rw [if_pos rfl]
        cases front with
        -- The colour in front stands last, and a leader is neither 5 nor 2, so it takes no
        -- argument.
        | nil => cases ground <;> rfl
        | cons next front =>
          rw [extendedLength_append (List.cons_ne_nil next front)] at h ⊢
          exact ih h

/-- **One more 38 or 48** at a place that no colour reaches over takes along what looks like its
arguments, and does nothing else. -/
theorem applyCodes_append_leader (s : Style) {front rest : List Nat} (ground : Ground)
    (h : overhang rest 0 front = 0) :
    s.applyCodes (front ++ ground.leader :: rest)
      = (s.applyCodes front).applyCodes (rest.drop (extendedLength rest)) := by
  rw [applyCodes_append s (overhang_leader ground h),
    applyCodes_of_beginsExtended _ (beginsExtended_leader ground)]

/-- **One more 38 or 48 among the arguments of a colour** is taken for one of them, so that the last
of those that were taken before is a code again. -/
theorem applyCodes_append_leader_reached (s : Style) {front : List Nat} (rest : List Nat)
    (ground : Ground) {k : Nat} (h : overhang [] 0 front = k + 1) :
    s.applyCodes (front ++ rest) = (s.applyCodes front).applyCodes (rest.drop (k + 1))
      ∧ s.applyCodes (front ++ ground.leader :: rest)
        = (s.applyCodes front).applyCodes (rest.drop k) := by
  have hpos : 0 < overhang [] 0 front := h ▸ Nat.succ_pos k
  have hapart (rest : List Nat) :
      s.applyCodes (front ++ rest) = (s.applyCodes front).applyCodes (rest.drop (k + 1)) := by
    have hany := applyAfter_append rest 0 s front
    rwa [overhang_eq_of_pos hpos, h] at hany
  exact ⟨hapart rest, hapart (ground.leader :: rest)⟩

end Style

end ConsoleReplay
