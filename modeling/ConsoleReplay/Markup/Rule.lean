import ConsoleReplay.Capture.PlainText
import ConsoleReplay.Dialect.Basic
import ConsoleReplay.Markup.Styled
import ConsoleReplay.Pattern.Console

/-!
# Markup by rules

Text without styles of its own is marked up by rules.  A rule gives a class to the
pieces that its pattern finds.  Rules are applied one after the other, and each
looks only into the stretches that no rule before it has claimed, so that an
address in the value of a parameter is marked as an address.

## Main definitions

* `Rule` — a class and the pattern of what belongs to it.
* `Rule.apply rule pieces` — the pieces after one more rule.
* `highlightPieces rules cs` — the pieces of a text after all rules.
* `Dialect.rules d` — the rules for the output of a device with a dialect.
* `Highlighter` — the rules of a dialect, ready for use; `Highlighter.render`
  prefers a text's own styles.
-/

namespace ConsoleReplay

namespace Markup

/-- A class of texts and the pattern that finds them. -/
structure Rule where
  name : String
  pattern : Pattern

/-- A stretch as a piece: in the class of a rule if the rule found it. -/
def Rule.pieceOf (rule : Rule) (stretch : Pattern.Stretch) : Piece :=
  if stretch.found then .marked rule.name stretch.chars else .text stretch.chars

/-- The pieces after one more rule.  Pieces in an element are left alone: an earlier rule has
claimed them, and is the more telling one. -/
def Rule.apply (rule : Rule) (pieces : List Piece) : List Piece :=
  pieces.flatMap fun piece =>
    match piece with
    | .text cs => (rule.pattern.split cs).map rule.pieceOf
    | piece => [piece]

/-- The pieces of a text after all rules. -/
def highlightPieces (rules : List Rule) (cs : List Char) : List Piece :=
  rules.foldl (fun pieces rule => rule.apply pieces) [.text cs]

end Markup

open Markup

namespace Dialect

/-- The order in which keywords are tried: longer ones first, so that a keyword does not hide one
that it begins, and those of one length in the order of their characters. -/
def keywordBefore (a b : String) : Bool :=
  if a.utf8ByteSize = b.utf8ByteSize then a ≤ b else b.utf8ByteSize < a.utf8ByteSize

/-- The pattern of a dialect's keywords.  Without keywords there is none, and no rule for them
either. -/
def keywordPattern? (d : Dialect) : Option Pattern :=
  if d.keywords.isEmpty then none
  else some (.word (.any ((d.keywords.mergeSort keywordBefore).map Pattern.literal)))

/-- The rules for the output of a device with a dialect, the most telling first. -/
def rules (d : Dialect) : List Rule :=
  [⟨"prompt", .prompt⟩, ⟨"ip", .ipv4⟩, ⟨"mac", .mac⟩, ⟨"version", .version⟩,
    ⟨"magnitude", .magnitude⟩]
    ++ (d.keywordPattern?.map fun pattern => ⟨"keyword", pattern⟩).toList
    ++ [⟨"param", .parameter⟩, ⟨"state", .state⟩, ⟨"error", .failure⟩]

end Dialect

/-- The rules of a dialect, ready for use. -/
structure Highlighter where
  rules : List Rule

namespace Highlighter

/-- The highlighter of a dialect. -/
def ofDialect (d : Dialect) : Highlighter := ⟨d.rules⟩

/-- The pieces of a plain text, marked by the rules. -/
def heuristicPieces (h : Highlighter) (cs : List Char) : List Piece :=
  highlightPieces h.rules cs

/-- The markup of a plain text, marked by the rules. -/
def heuristic (h : Highlighter) (text : String) : String :=
  write (h.heuristicPieces text.toList)

/-- The pieces of a captured text: its own styles if it shows any, and otherwise the rules on its
plain text.  What a device coloured itself is never marked on top of that. -/
def pieces (h : Highlighter) (cs : List Char) : List Piece :=
  (styledPieces? cs).getD (h.heuristicPieces (Capture.plainChars cs))

/-- The markup of a captured text. -/
def render (h : Highlighter) (text : String) : String := write (h.pieces text.toList)

end Highlighter

end ConsoleReplay
