import ConsoleReplay.Style.Basic

/-!
# Select graphic rendition

A select-graphic-rendition sequence carries a list of codes, each of which sets
or resets one colour or attribute.  The codes 38 and 48 begin an extended colour
of two or four more codes; it is stepped over as a whole, so that its arguments
are never read as attributes.

## Main definitions

* `Style.applyCode s code` — the effect of one code.
* `Style.extendedLength rest` — how many codes after 38 or 48 belong to it.
* `Style.applyCodes s codes` — the effect of a list of codes, in order.
* `Style.applySgr s codes` — the same, where the empty list resets the style.
-/

namespace ConsoleReplay.Style

/-- The effect of one code on a style.  Codes that stand for nothing here leave
it alone. -/
def applyCode (s : Style) (code : Nat) : Style :=
  if code = 0 then plain
  else if code = 1 then { s with bold := true }
  else if code = 3 then { s with italic := true }
  else if code = 4 then { s with underline := true }
  else if code = 22 then { s with bold := false }
  else if code = 23 then { s with italic := false }
  else if code = 24 then { s with underline := false }
  else if 30 ≤ code ∧ code ≤ 37 then { s with foreground := .ofOffset (code - 30) false }
  else if code = 39 then { s with foreground := .default }
  else if 40 ≤ code ∧ code ≤ 47 then { s with background := .ofOffset (code - 40) false }
  else if code = 49 then { s with background := .default }
  else if 90 ≤ code ∧ code ≤ 97 then { s with foreground := .ofOffset (code - 90) true }
  else if 100 ≤ code ∧ code ≤ 107 then { s with background := .ofOffset (code - 100) true }
  else s

/-- Whether a code begins an extended colour. -/
def beginsExtended (code : Nat) : Bool := code == 38 || code == 48

/-- The number of codes that belong to an extended colour after its first one: a
palette index is two codes, red, green and blue are four, and anything else is
not an extended colour. -/
def extendedLength : List Nat → Nat
  | 5 :: _ => 2
  | 2 :: _ => 4
  | _ => 0

/-- The effect of a list of codes when its first `skip` codes still belong to an
extended colour. -/
def applyAfter (skip : Nat) (s : Style) : List Nat → Style
  | [] => s
  | code :: rest =>
    match skip with
    | n + 1 => applyAfter n s rest
    | 0 =>
      if beginsExtended code then applyAfter (extendedLength rest) s rest
      else applyAfter 0 (s.applyCode code) rest

/-- The effect of a list of codes, in order. -/
def applyCodes (s : Style) (codes : List Nat) : Style := applyAfter 0 s codes

/-- The effect of a whole sequence.  Without any code it resets the style. -/
def applySgr (s : Style) (codes : List Nat) : Style :=
  if codes.isEmpty then plain else s.applyCodes codes

@[simp] theorem applyCodes_nil (s : Style) : s.applyCodes [] = s := rfl

theorem applyCodes_cons (s : Style) (code : Nat) (rest : List Nat) :
    s.applyCodes (code :: rest) =
      if beginsExtended code then applyAfter (extendedLength rest) s rest
      else (s.applyCode code).applyCodes rest := rfl

@[simp] theorem applySgr_nil (s : Style) : s.applySgr [] = plain := rfl

@[simp] theorem applySgr_cons (s : Style) (code : Nat) (rest : List Nat) :
    s.applySgr (code :: rest) = s.applyCodes (code :: rest) := rfl

end ConsoleReplay.Style
