import ConsoleReplay.Number.Double

/-!
# TOML values

The values of a TOML document.  A table remembers how it came about, since that
decides what may still be added to it: a table is written in one place only, but
the tables on the way to it need not be.

## Main definitions

* `Toml.Origin`, `Toml` — TOML values.
* `Toml.Members` — the members of a table.
* `Toml.Members.assign ms path v` — a value put under a dotted key.
* `Toml.Members.within ms path f` — a change to the table that a header names.
* `Toml.Members.openTable`, `Toml.Members.openElement` — what a header begins.
-/

namespace ConsoleReplay

/-- How a table came about. -/
inductive Toml.Origin
  /-- It has a header of its own. -/
  | header
  /-- A header names a table inside it. -/
  | implied
  /-- A dotted key goes through it. -/
  | dotted
  /-- It is written in braces, all at once. -/
  | braces
  deriving DecidableEq, Repr

/-- A TOML value. -/
inductive Toml
  | string (s : String)
  | integer (n : Int)
  | float (x : Double)
  | bool (b : Bool)
  /-- A date, a time, or both. -/
  | moment
  | array (items : List Toml)
  | table (origin : Toml.Origin) (members : List (String × Toml))
  /-- Tables with headers of one name, each given by its members. -/
  | tables (elements : List (List (String × Toml)))

namespace Toml

instance : Inhabited Toml := ⟨.bool false⟩

/-- The members of a table. -/
abbrev Members := List (String × Toml)

namespace Members

/-- The member with a name. -/
def get? (ms : Members) (name : String) : Option Toml := List.lookup name ms

/-- The members with one more, or with one replaced. -/
def put (ms : Members) (name : String) (v : Toml) : Members :=
  (name, v) :: ms.filter (·.1 != name)

/-- Change the last of several elements. -/
def onLast (f : Members → Option Members) : List Members → Option (List Members)
  | [] => none
  | [ms] => (f ms).map ([·])
  | ms :: rest => (onLast f rest).map (ms :: ·)

mutual

/-- Put a value under a dotted key.  A key that has a value keeps it.  The tables
that the key goes through are made where they are missing; those that have a header
or stand in braces are closed to it, and only a table made by dotted keys takes the
value itself. -/
def assign (ms : Members) : List String → Toml → Option Members
  | [], _ => none
  | [name], v => if (ms.get? name).isSome then none else some (ms.put name v)
  | name :: key :: path, v =>
    match ms.get? name with
    | none => (assign [] (key :: path) v).map fun inner => ms.put name (.table .dotted inner)
    | some (.table .dotted inner) =>
      (assign inner (key :: path) v).map fun inner => ms.put name (.table .dotted inner)
    | some (.table .implied inner) =>
      (assignDeeper inner (key :: path) v).map fun inner => ms.put name (.table .implied inner)
    | some (.tables elements) =>
      (onLast (fun inner => assignDeeper inner (key :: path) v) elements).map fun elements =>
        ms.put name (.tables elements)
    | some _ => none

/-- The same from a table that dotted keys did not make: at least one table must
lie between it and the value. -/
def assignDeeper (ms : Members) : List String → Toml → Option Members
  | [], _ | [_], _ => none
  | name :: key :: path, v => assign ms (name :: key :: path) v

end

/-- Change the table that a path of names leads to.  The tables on the way are made where they are
missing; of tables with one name the last is meant.  What is done there is given as a function,
which may refuse. -/
def within (ms : Members) : List String → (Members → Option Members) → Option Members
  | [], f => f ms
  | name :: path, f =>
    match ms.get? name with
    | none => (within [] path f).map fun inner => ms.put name (.table .implied inner)
    | some (.table .braces _) => none
    | some (.table origin inner) =>
      (within inner path f).map fun inner => ms.put name (.table origin inner)
    | some (.tables elements) =>
      (onLast (fun inner => within inner path f) elements).map fun elements =>
        ms.put name (.tables elements)
    | some _ => none

/-- Begin a table with a header.  Only a table that a deeper header implied may be
there already. -/
def openTable (ms : Members) (name : String) : Option Members :=
  match ms.get? name with
  | none => some (ms.put name (.table .header []))
  | some (.table .implied inner) => some (ms.put name (.table .header inner))
  | some _ => none

/-- Begin one more of several tables with one name. -/
def openElement (ms : Members) (name : String) : Option Members :=
  match ms.get? name with
  | none => some (ms.put name (.tables [[]]))
  | some (.tables elements) => some (ms.put name (.tables (elements ++ [[]])))
  | some _ => none

end Members

end Toml

end ConsoleReplay
