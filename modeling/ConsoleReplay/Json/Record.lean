import ConsoleReplay.Json.Basic

/-!
# Records in JSON

A record is written as an object whose members are its fields, or as an array of
its fields in order.  Unknown members are passed over; a field that occurs twice is
an error.

## Main definitions

* `Json.Fields` — the values found for the fields of a record.
* `Json.fields? names j` — the fields of a record with given names.
* `Json.Fields.required`, `Json.Fields.optional`, `Json.Fields.defaulted` — the
  value of a field that must be there, may be missing in an object, or has a
  default.
-/

namespace ConsoleReplay.Json

/-- The values found for the fields of a record, in order. -/
structure Fields where
  /-- The record is an array, in which only fields with a default may be missing. -/
  isArray : Bool
  values : List (Option Json)

/-- The members of an object with a name. -/
def membersNamed (members : List (String × Json)) (name : String) : List Json :=
  (members.filter (·.1 == name)).map Prod.snd

/-- The fields of a record with given names.  An object may have others, which are passed over, but
none of these twice; an array has at most as many items and gives them in order. -/
def fields? (names : List String) : Json → Option Fields
  | .object members =>
    let found := names.map (membersNamed members)
    if found.all (·.length ≤ 1) then some ⟨false, found.map List.head?⟩ else none
  | .array items =>
    if items.length ≤ names.length then
      some ⟨true, items.map some ++ List.replicate (names.length - items.length) none⟩
    else none
  | _ => none

namespace Fields

/-- The value found for a field. -/
def get? (fields : Fields) (i : Nat) : Option Json := fields.values[i]?.join

/-- A field that must be there. -/
def required (fields : Fields) (i : Nat) (read : Json → Option α) : Option α :=
  (fields.get? i).bind read

/-- A value that may be null. -/
def nullable (read : Json → Option α) : Json → Option (Option α)
  | .null => some none
  | j => (read j).map some

/-- A field that may be null, or missing from an object.  An array has to have an item for it. -/
def optional (fields : Fields) (i : Nat) (read : Json → Option α) : Option (Option α) :=
  match fields.get? i with
  | some j => nullable read j
  | none => if fields.isArray then none else some none

/-- A field with a default. -/
def defaulted (fields : Fields) (i : Nat) (default : α) (read : Json → Option α) : Option α :=
  match fields.get? i with
  | some j => read j
  | none => some default

end Fields

end ConsoleReplay.Json
