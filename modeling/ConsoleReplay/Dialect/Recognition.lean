import ConsoleReplay.Dialect.Basic
import ConsoleReplay.Text.Blank

/-!
# Recognising commands

A command line is recognised by its first word: a category, with the verb and the
parameters after it, or a command that stands alone.  The menu path may be typed
with blanks or with slashes between its parts, and with a slash in front or
without.  A verb that is not in the vocabulary is reported like any other.

## Main definitions

* `Recognition` — what is recognised in a command line.
* `commandWords command` — the words of a command line, the parts of a leading menu
  path among them.
* `Dialect.recognize d command` — what a dialect recognises in a command line.
-/

namespace ConsoleReplay

/-- What is recognised in a command line.  That nothing is recognised is no error. -/
structure Recognition where
  /-- Whether the command belongs to the dialect. -/
  isDialectCommand : Bool
  category : Option String
  commandName : Option String
  parameters : List String
  deriving DecidableEq, Repr

/-- Nothing is recognised. -/
def Recognition.none : Recognition := ⟨false, .none, .none, []⟩

/-- The category reported for commands that stand alone, which are in no menu. -/
def standaloneCategory : String := "standalone"

/-- The parts of a path between its slashes, empty ones left out, so that slashes in a row or at the
end make no difference. -/
def pathParts (cs : List Char) : List (List Char) :=
  (cs.splitOn '/').filter (!·.isEmpty)

/-- The words of a command line.  A first word that begins with a slash is a menu
path and gives its parts. -/
def commandWords (command : String) : List String :=
  match Text.words command.toList with
  | [] => []
  | first :: rest =>
    let head := if first.head? = some '/' then pathParts first else [first]
    (head ++ rest).map String.ofList

/-- What a dialect recognises in a list of words.  Only the first word has to be known: a verb that
is not in the vocabulary is reported like any other. -/
def Dialect.recognizeWords (d : Dialect) : List String → Recognition
  | [] => .none
  | first :: rest =>
    match d.category? first with
    | some category =>
      ⟨true, some first, some (rest.head?.getD category.defaultVerb), rest.tail⟩
    | none =>
      if d.isStandalone first then ⟨true, some standaloneCategory, some first, rest⟩
      else .none

/-- What a dialect recognises in a command line. -/
def Dialect.recognize (d : Dialect) (command : String) : Recognition :=
  d.recognizeWords (commandWords command)

end ConsoleReplay
