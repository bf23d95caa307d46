import ConsoleReplay.Toml.Reader

/-!
# TOML documents

The statements of a document are carried out in order: a header chooses the table
that the keys after it belong to.

## Main definitions

* `Toml.Document` — the tables of a document so far, and the one in progress.
* `Toml.Document.perform` — what a statement does.
* `Toml.parse? cs` — the members of the outermost table of a document.
-/

namespace ConsoleReplay.Toml

/-- The tables of a document so far. -/
structure Document where
  members : Members
  /-- The path to the table in progress. -/
  path : List String

namespace Document

/-- Nothing has been read. -/
def empty : Document := ⟨[], []⟩

/-- Begin a table, where `begin_` says how. -/
def openAt (d : Document) (path : List String)
    (start : Members → String → Option Members) : Option Document :=
  match path.getLast? with
  | some name =>
    (d.members.within path.dropLast fun ms => start ms name).map fun ms => ⟨ms, path⟩
  | none => none

/-- What a statement does.  A statement that contradicts an earlier one has no result. -/
def perform (d : Document) : Statement → Option Document
  | .header path => d.openAt path Members.openTable
  | .element path => d.openAt path Members.openElement
  | .assign path v =>
    (d.members.within d.path fun ms => ms.assign path v).map fun ms => { d with members := ms }

end Document

/-- The members of the outermost table of a document. -/
def parse? (cs : List Char) : Option Members := do
  let statements ← statements? cs
  let document ← statements.foldlM Document.perform .empty
  return document.members

end ConsoleReplay.Toml
