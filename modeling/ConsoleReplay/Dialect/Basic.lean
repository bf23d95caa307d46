/-!
# Dialects

A dialect is the vocabulary of a device's command line: the categories, which are
its menus, with the verbs known in each, and the commands that stand alone.  Words
are kept in the order of their characters.

## Main definitions

* `Vocabulary` — a set of words in order.
* `Category` — the verbs of a menu, and the one assumed when none is typed.
* `Dialect` — the vocabulary of a command line.
* `Dialect.named`, `Dialect.withCategory`, `Dialect.withStandalone` — building one.
* `Dialect.category?`, `Dialect.isStandalone`, `Dialect.isKnownVerb` — looking a
  word up.
* `Dialect.keywords` — the words of a dialect.
-/

namespace ConsoleReplay

/-- Insert an entry into a list in the order of its keys; an entry with the same key is replaced.
So a list is the same whatever the order of its insertions, as long as no key comes twice. -/
def insertByKey (key : α → String) (x : α) : List α → List α
  | [] => [x]
  | y :: ys =>
    if key x = key y then x :: ys
    else if key x < key y then x :: y :: ys
    else y :: insertByKey key x ys

/-- A set of words in order. -/
abbrev Vocabulary := List String

/-- A vocabulary with a word added. -/
def Vocabulary.insert (words : Vocabulary) (word : String) : Vocabulary :=
  insertByKey id word words

/-- The vocabulary of a list of words. -/
def Vocabulary.ofList (words : List String) : Vocabulary := words.foldl insert []

/-- A menu of a command line, with the verbs that can follow its name. -/
structure Category where
  name : String
  /-- The verb assumed when the category is typed alone. -/
  defaultVerb : String
  /-- The verbs and submenus known to follow the category. -/
  verbs : Vocabulary
  deriving DecidableEq, Repr

/-- The vocabulary of a command line.  What a device would do with a command is no part of it. -/
structure Dialect where
  name : String
  /-- The categories in the order of their names. -/
  categories : List Category
  /-- The commands that are not menus. -/
  standalone : Vocabulary
  deriving DecidableEq, Repr

namespace Dialect

/-- A dialect without words. -/
def named (name : String) : Dialect := ⟨name, [], []⟩

/-- The dialect with a category; one of the same name is replaced. -/
def withCategory (d : Dialect) (name defaultVerb : String) (verbs : List String) : Dialect :=
  let category := ⟨name, defaultVerb, .ofList verbs⟩
  { d with categories := insertByKey Category.name category d.categories }

/-- The dialect with more commands that stand alone. -/
def withStandalone (d : Dialect) (commands : List String) : Dialect :=
  { d with standalone := commands.foldl Vocabulary.insert d.standalone }

/-- The category of a name. -/
def category? (d : Dialect) (name : String) : Option Category :=
  d.categories.find? (·.name == name)

/-- Whether a word is a command that stands alone. -/
def isStandalone (d : Dialect) (command : String) : Bool := d.standalone.contains command

/-- Whether a verb is known in a category. -/
def isKnownVerb (d : Dialect) (category verb : String) : Bool :=
  (d.category? category).any (·.verbs.contains verb)

/-- The names of the categories and then the commands that stand alone.  Verbs are not among
them. -/
def keywords (d : Dialect) : List String := d.categories.map Category.name ++ d.standalone

end Dialect

end ConsoleReplay
