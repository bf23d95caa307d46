import ConsoleReplay.Style.Color

/-!
# Styles

A style is what the pen of a screen carries: two colours and three attributes.
The plain style has none of them.

## Main definitions

* `Style` — colours and attributes of a character.
* `Style.plain` — the style before any was asked for.
* `Style.css` — the style as inline rules for markup, empty for the plain style.
-/

namespace ConsoleReplay

/-- The colours and attributes that a character is shown in.  Other attributes, such as blinking,
are read and not kept. -/
structure Style where
  /-- Colour of the character. -/
  foreground : Color
  /-- Colour behind the character. -/
  background : Color
  bold : Bool
  italic : Bool
  underline : Bool
  deriving DecidableEq, Repr

namespace Style

/-- The style before any colour or attribute was asked for. -/
def plain : Style := ⟨.default, .default, false, false, false⟩

instance : Inhabited Style := ⟨plain⟩

/-- Whether nothing differs from the plain style. -/
def isPlain (s : Style) : Bool := s == plain

theorem isPlain_iff {s : Style} : s.isPlain = true ↔ s = plain := by
  simp [isPlain]

/-- The inline rules of a style, in a fixed order: foreground, background,
weight, slant, line. -/
def cssRules (s : Style) : List String :=
  (s.foreground.css?.map ("color:" ++ ·)).toList
    ++ (s.background.css?.map ("background-color:" ++ ·)).toList
    ++ (if s.bold then ["font-weight:bold"] else [])
    ++ (if s.italic then ["font-style:italic"] else [])
    ++ (if s.underline then ["text-decoration:underline"] else [])

/-- The inline rules of a style, joined by semicolons. -/
def css (s : Style) : String := ";".intercalate s.cssRules

/-- Only the plain style has no rules. -/
theorem cssRules_eq_nil_iff {s : Style} : s.cssRules = [] ↔ s = plain := by
  obtain ⟨fg, bg, bold, italic, underline⟩ := s
  simp only [cssRules, plain, List.append_eq_nil_iff, Option.toList_eq_nil_iff,
    Option.map_eq_none_iff, Color.css?_eq_none_iff, ite_eq_right_iff, reduceCtorEq, imp_false,
    Bool.not_eq_true, mk.injEq, and_assoc]

end Style

end ConsoleReplay
