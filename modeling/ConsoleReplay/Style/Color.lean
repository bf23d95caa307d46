/-!
# Terminal colours

The eight basic colours of a console, each in a normal and a bright shade, and
the default colour that a style has when no colour was asked for.

## Main definitions

* `Hue` — the eight basic colours.
* `Color` — the default colour, or a hue in a normal or a bright shade.
* `Color.ofOffset offset bright` — the colour `offset` places after the first
  code of its range of select-graphic-rendition codes.
* `Color.css?` — the hexadecimal colour used in markup; the default has none.
-/

namespace ConsoleReplay

/-- The basic colours in the order of their codes. -/
inductive Hue
  | black
  | red
  | green
  | yellow
  | blue
  | magenta
  | cyan
  | white
  deriving DecidableEq, Repr

/-- A foreground or background colour: one of the sixteen basic ones, or what the reader's screen
has by default. -/
inductive Color
  | default
  | normal (hue : Hue)
  | bright (hue : Hue)
  deriving DecidableEq, Repr

instance : Inhabited Color := ⟨.default⟩

/-- The hue at a place in the order of the codes. -/
def Hue.ofIndex? : Nat → Option Hue
  | 0 => some .black
  | 1 => some .red
  | 2 => some .green
  | 3 => some .yellow
  | 4 => some .blue
  | 5 => some .magenta
  | 6 => some .cyan
  | 7 => some .white
  | _ => none

namespace Color

/-- The colour `offset` places after the first code of a range of eight; past
the range it is the default colour. -/
def ofOffset (offset : Nat) (isBright : Bool) : Color :=
  match Hue.ofIndex? offset with
  | some hue => if isBright then .bright hue else .normal hue
  | none => .default

/-- The hexadecimal colour of markup.  The default colour leaves the choice to
the reader and has none. -/
def css? : Color → Option String
  | .default => none
  | .normal .black => some "#000000"
  | .normal .red => some "#cd3131"
  | .normal .green => some "#0dbc79"
  | .normal .yellow => some "#e5e510"
  | .normal .blue => some "#2472c8"
  | .normal .magenta => some "#bc3fbc"
  | .normal .cyan => some "#11a8cd"
  | .normal .white => some "#e5e5e5"
  | .bright .black => some "#666666"
  | .bright .red => some "#f14c4c"
  | .bright .green => some "#23d18b"
  | .bright .yellow => some "#f5f543"
  | .bright .blue => some "#3b8eea"
  | .bright .magenta => some "#d670d6"
  | .bright .cyan => some "#29b8db"
  | .bright .white => some "#ffffff"

/-- Only the default colour has no hexadecimal form. -/
theorem css?_eq_none_iff {c : Color} : c.css? = none ↔ c = .default := by
  cases c with
  | default => simp [css?]
  | normal h => cases h <;> simp [css?]
  | bright h => cases h <;> simp [css?]

end Color

end ConsoleReplay
