import ConsoleReplay.Settings.Basic
import ConsoleReplay.Source.Fault
import ConsoleReplay.Toml.Document

/-!
# Settings in TOML

Settings are written as two tables, one for the screen and one for the thresholds.
What is not set has its default, and names that mean nothing are passed over.  A
table may also be written as an array of its values in order.

## Main definitions

* `Toml.fields?` — the values found for the fields of a record.
* `ScreenSize.ofToml?`, `Thresholds.ofToml?`, `Settings.ofMembers?` — settings.
* `Settings.parse cs` — the settings that a text holds.
-/

namespace ConsoleReplay

namespace Toml

/-- A number of 64 bits without a sign.  Whole numbers of a document have a sign, so
only half of them can be written. -/
def natural? : Toml → Option Nat
  | .integer n => if 0 ≤ n then some n.toNat else none
  | _ => none

/-- A double; whole numbers are rounded to the nearest one. -/
def double? : Toml → Option Double
  | .integer n => some (.ofInt n)
  | .float x => some x
  | _ => none

/-- A truth value. -/
def bool? : Toml → Option Bool
  | .bool b => some b
  | _ => none

/-- The values found for the fields of a record, by name in a table and by place in an array.  A
date or time has none of them.  Names that are not those of fields are passed over. -/
def fields? (names : List String) : Toml → Option (List (Option Toml))
  | .table _ ms => some (names.map fun name => Members.get? ms name)
  | .array items => some (items.map some)
  | .tables elements => some (elements.map fun ms => some (.table .header ms))
  | .moment => some []
  | _ => none

/-- The value of a field, or its default if none was found.  A value that is there and cannot be
read is an error all the same. -/
def field (found : List (Option Toml)) (i : Nat) (read : Toml → Option α) (default : α) :
    Option α :=
  match found[i]?.join with
  | some v => read v
  | none => some default

end Toml

/-- The screen size of a record. -/
def ScreenSize.ofToml? (v : Toml) : Option ScreenSize := do
  let found ← v.fields? ["width", "height"]
  let base : ScreenSize := {}
  return {
    width := ← Toml.field found 0 Toml.natural? base.width
    height := ← Toml.field found 1 Toml.natural? base.height }

/-- The thresholds of a record. -/
def Thresholds.ofToml? (v : Toml) : Option Thresholds := do
  let found ← v.fields? ["merge_window_ms", "fragment_max_len", "min_length",
    "drop_ascii_art", "ascii_art_min_len", "ascii_art_ratio", "max_row_bytes"]
  let base : Thresholds := {}
  return {
    mergeWindow := ← Toml.field found 0 Toml.natural? base.mergeWindow
    fragmentLength := ← Toml.field found 1 Toml.natural? base.fragmentLength
    minLength := ← Toml.field found 2 Toml.natural? base.minLength
    dropDrawings := ← Toml.field found 3 Toml.bool? base.dropDrawings
    drawingLength := ← Toml.field found 4 Toml.natural? base.drawingLength
    drawingShare := ← Toml.field found 5 Toml.double? base.drawingShare
    rowBytes := ← Toml.field found 6 Toml.natural? base.rowBytes }

namespace Settings

/-- The settings of a document. -/
def ofMembers? (ms : Toml.Members) : Option Settings := do
  return {
    screen := ← Toml.field [ms.get? "screen"] 0 ScreenSize.ofToml? {}
    thresholds := ← Toml.field [ms.get? "segmenter"] 0 Thresholds.ofToml? {} }

/-- The settings that a text holds. -/
def parse (cs : List Char) : Except Fault Settings :=
  match (Toml.parse? cs).bind ofMembers? with
  | some settings => .ok settings
  | none => .error (.below "Failed to parse config" .toml)

end Settings

end ConsoleReplay
