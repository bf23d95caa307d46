import ConsoleReplay.Number.Shortest

/-!
# JSON values

The values of a JSON text.  A number is a whole number of at most 64 bits or a
double.  Text that is written correctly but stands for nothing (half a surrogate
pair, a number out of range) is kept as a value of its own, since it matters only
to a reader that asks for it.

## Main definitions

* `Json` — JSON values; objects keep the order of their members.
* `Json.nesting` — how deep arrays and objects are nested.
* `Json.isSound` — everything in the value stands for something, and it is not
  nested too deeply to be read as a whole.
* `Json.get?` — the last member with a name.
-/

namespace ConsoleReplay

/-- A JSON value.  A string that is written correctly and stands for nothing, since it has half a
surrogate pair in it, is a value of its own: it can be passed over and not be read. -/
inductive Json
  | null
  | bool (b : Bool)
  | integer (n : Int)
  | float (x : Double)
  | string (s : String)
  | array (items : List Json)
  | object (members : List (String × Json))
  /-- Text that is written correctly and stands for nothing. -/
  | malformed

instance : Inhabited Json := ⟨.null⟩

namespace Json

mutual

/-- How deep arrays and objects are nested in a value. -/
def nesting : Json → Nat
  | .array items => nestingOfItems items + 1
  | .object members => nestingOfMembers members + 1
  | _ => 0

/-- The deepest nesting in the items of an array. -/
def nestingOfItems : List Json → Nat
  | [] => 0
  | item :: items => max item.nesting (nestingOfItems items)

/-- The deepest nesting in the members of an object. -/
def nestingOfMembers : List (String × Json) → Nat
  | [] => 0
  | (_, value) :: members => max value.nesting (nestingOfMembers members)

end

mutual

/-- Whether everything in a value stands for something. -/
def isMeaningful : Json → Bool
  | .array items => areMeaningful items
  | .object members => membersAreMeaningful members
  | .malformed => false
  | _ => true

/-- Whether everything in the items of an array stands for something. -/
def areMeaningful : List Json → Bool
  | [] => true
  | item :: items => item.isMeaningful && areMeaningful items

/-- Whether everything in the members of an object stands for something. -/
def membersAreMeaningful : List (String × Json) → Bool
  | [] => true
  | (_, value) :: members => value.isMeaningful && membersAreMeaningful members

end

/-- The deepest nesting that a value read as a whole may have.  What is only passed over may be
nested as deeply as it likes. -/
def maxNesting : Nat := 127

/-- Whether a value can be read as a whole. -/
def isSound (j : Json) : Bool := j.isMeaningful && j.nesting ≤ maxNesting

/-- The last member of an object with a name.  A name may occur twice, and the later member then
wins. -/
def get? (j : Json) (name : String) : Option Json :=
  match j with
  | .object members => (members.reverse.find? (·.1 == name)).map Prod.snd
  | _ => none

/-- The value as a double: whole numbers are rounded to the nearest one. -/
def double? : Json → Option Double
  | .integer n => some (.ofInt n)
  | .float x => some x
  | _ => none

/-- The value as a string. -/
def string? : Json → Option String
  | .string s => some s
  | _ => none

/-- The value as a truth value. -/
def bool? : Json → Option Bool
  | .bool b => some b
  | _ => none

/-- The value as a whole number between two bounds. -/
def integer? (lo hi : Int) : Json → Option Int
  | .integer n => if lo ≤ n ∧ n ≤ hi then some n else none
  | _ => none

/-- The value as a natural number below a bound. -/
def natural? (limit : Nat) : Json → Option Nat
  | .integer n => if 0 ≤ n ∧ n < limit then some n.toNat else none
  | _ => none

/-- The items of an array. -/
def items? : Json → Option (List Json)
  | .array items => some items
  | _ => none

end Json

end ConsoleReplay
