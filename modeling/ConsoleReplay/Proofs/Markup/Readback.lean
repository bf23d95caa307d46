import ConsoleReplay.Proofs.Markup.Grammar

/-!
# Reading markup back

What markup shows is found by leaving its tags out and putting the five characters that are written
as entities back in their places.  Whatever pieces were written, this gives back their texts one
after the other.  Only carriage returns are lost, which are not written.

## Main definitions

* `Markup.untag cs` — markup without its tags.
* `Markup.decode cs` — a text with characters in the places of their entities.
* `Markup.textOf cs` — the text that markup shows.
* `Piece.IsClosed` — the attribute of a piece does not end its tag.

## Main results

* `Markup.untag_flatMap_write`, `Markup.decode_escape` — what the two steps do to written pieces.
* `Markup.textOf_write` — **the text of written pieces**.
-/

namespace ConsoleReplay.Markup

/-! ### Tags

Reading markup back knows only angle brackets and entities.  It is told character by character,
with one bit for whether a tag is open. -/

/-- Markup without its tags, read from outside a tag or from inside.  A tag goes from a less-than
sign to the next greater-than sign. -/
def untagFrom : Bool → List Char → List Char
  | _, [] => []
  | true, c :: cs => untagFrom (c != '>') cs
  | false, c :: cs => if c = '<' then untagFrom true cs else c :: untagFrom false cs

/-- Markup without its tags.  It knows nothing of how the markup was written: a tag is what stands
between two angle brackets. -/
def untag (cs : List Char) : List Char := untagFrom false cs

/-- What stands in a tag is left out. -/
theorem untagFrom_tag {cs : List Char} (h : '>' ∉ cs) (rest : List Char) :
    untagFrom true (cs ++ '>' :: rest) = untag rest := by
  induction cs with
  | nil => rfl
  | cons c cs ih =>
    have hc : (c != '>') = true := bne_iff_ne.2 fun hc => h (hc ▸ List.mem_cons_self)
    rw [List.cons_append, untagFrom, hc, ih fun hcs => h (List.mem_cons_of_mem c hcs)]

theorem untag_tag {cs : List Char} (h : '>' ∉ cs) (rest : List Char) :
    untag ('<' :: (cs ++ '>' :: rest)) = untag rest := untagFrom_tag h rest

/-- A text in which no tag begins is kept. -/
theorem untag_text {cs : List Char} (h : '<' ∉ cs) (rest : List Char) :
    untag (cs ++ rest) = cs ++ untag rest := by
  induction cs with
  | nil => rfl
  | cons c cs ih =>
    have hc : ¬ c = '<' := fun hc => h (hc ▸ List.mem_cons_self)
    rw [List.cons_append, untag, untagFrom, if_neg hc, ← untag,
      ih fun hcs => h (List.mem_cons_of_mem c hcs), List.cons_append]

theorem untag_escape (cs rest : List Char) : untag (escape cs ++ rest) = escape cs ++ untag rest :=
  untag_text (fun hmem => Bool.false_ne_true ((escaped_escape cs).reserved '<' hmem).symm) rest

/-- Of an element its text is left.  Its tags begin and end with angle brackets, and neither its
attribute nor its escaped text holds any. -/
theorem untag_element {name value : String} (hname : '>' ∉ name.toList)
    (hvalue : '>' ∉ value.toList) (cs rest : List Char) :
    untag (Piece.element name value cs ++ rest) = escape cs ++ untag rest := by
  -- A tag ends at its first closing bracket, so neither the name nor the value of the attribute
  -- may have one.
  obtain ⟨inner, hinner, hopen⟩ : ∃ inner, '>' ∉ inner ∧
      ("<span " ++ name ++ "=\"" ++ value ++ "\">").toList = '<' :: (inner ++ ['>']) := by
    refine ⟨"span ".toList ++ name.toList ++ "=\"".toList ++ value.toList ++ ['"'], ?_, ?_⟩
    · simp [hname, hvalue]
    · simp
  have hspan : '>' ∉ "/span".toList := by decide
  have hclose : untag ("</span>".toList ++ rest) = untag rest := untag_tag hspan rest
  have hparts : Piece.element name value cs ++ rest
      = '<' :: (inner ++ '>' :: (escape cs ++ ("</span>".toList ++ rest))) := by
    rw [Piece.element, hopen]
    simp
  rw [hparts, untag_tag hinner, untag_escape, hclose]

/-- The attribute of a piece, if it has one, does not end its tag. -/
def Piece.IsClosed : Piece → Prop
  | .marked name _ => '>' ∉ name.toList
  | _ => True

/-- Nothing that may stand in an attribute ends a tag. -/
theorem AttributeText.notMem {cs : List Char} (h : AttributeText cs) : '>' ∉ cs :=
  fun hmem => Bool.false_ne_true (h '>' hmem)

/-- Without their tags pieces are their escaped texts. -/
theorem untag_flatMap_write {pieces : List Piece} (h : ∀ piece ∈ pieces, piece.IsClosed) :
    untag (pieces.flatMap Piece.write) = escape (pieces.flatMap Piece.chars) := by
  induction pieces with
  | nil => rfl
  | cons piece pieces ih =>
    obtain ⟨hpiece, hpieces⟩ := List.forall_mem_cons.1 h
    have hrest := ih hpieces
    rw [List.flatMap_cons, List.flatMap_cons, escape_append, ← hrest]
    -- The declarations of a style are written from a fixed alphabet; a class is whatever the
    -- dialect names it, which is where the hypothesis is needed.
    cases piece with
    | text cs => exact untag_escape cs _
    | styled style cs => exact untag_element (by decide) (attributeText_css style).notMem cs _
    | marked name cs =>
      have hclass : '>' ∉ ("hl-" ++ name).toList := by
        rw [String.toList_append, List.mem_append]
        exact fun hmem => hmem.elim (by decide) hpiece
      exact untag_element (by decide) hclass cs _

/-! ### Entities -/

/-- The entities, and the characters they stand for. -/
def entityChars : List (List Char × Char) :=
  [("&amp;".toList, '&'), ("&lt;".toList, '<'), ("&gt;".toList, '>'), ("&quot;".toList, '"'),
    ("&#39;".toList, '\'')]

/-- The entity that a text begins with, and its character. -/
def entity? (cs : List Char) : Option (List Char × Char) :=
  entityChars.find? fun entity => entity.1.isPrefixOf cs

/-- A text with characters in the places of their entities, after as many characters of an entity
as are still to come. -/
def decodeAfter : Nat → List Char → List Char
  | _, [] => []
  | n + 1, _ :: cs => decodeAfter n cs
  | 0, c :: cs =>
    match entity? (c :: cs) with
    | some entity => entity.2 :: decodeAfter (entity.1.length - 1) cs
    | none => c :: decodeAfter 0 cs

/-- A text with characters in the places of their entities. -/
def decode (cs : List Char) : List Char := decodeAfter 0 cs

/-- The text that markup shows. -/
def textOf (cs : List Char) : List Char := decode (untag cs)

theorem entity?_of_ne {c : Char} (h : c ≠ '&') (cs : List Char) : entity? (c :: cs) = none := by
  have hne : ('&' == c) = false := beq_eq_false_iff_ne.2 h.symm
  simp [entity?, entityChars, List.isPrefixOf, hne]

theorem decode_cons_of_ne {c : Char} (h : c ≠ '&') (cs : List Char) :
    decode (c :: cs) = c :: decode cs := by
  rw [decode, decodeAfter, entity?_of_ne h]
  rfl

/-- A character is read back from where it is written, if it is. -/
theorem decode_escapeChar_append (c : Char) (cs : List Char) :
    decode (escapeChar c ++ cs) = [c].filter (· != '\r') ++ decode cs := by
  unfold escapeChar
  split
  case h_7 hamp hlt hgt hquot hapos hreturn =>
    have hkept : [c].filter (· != '\r') = [c] := by simpa using hreturn
    rw [hkept]
    exact decode_cons_of_ne hamp cs
  all_goals rfl

/-- **A text is read back from its escaped form**, its carriage returns apart. -/
theorem decode_escape (cs : List Char) : decode (escape cs) = cs.filter (· != '\r') := by
  induction cs with
  | nil => rfl
  | cons c cs ih =>
    have hfront : escape (c :: cs) = escapeChar c ++ escape cs := List.flatMap_cons
    rw [hfront, decode_escapeChar_append, ih, ← List.filter_append]
    rfl

/-- **The text of written pieces** is their texts one after the other, without carriage returns. -/
theorem textOf_write {pieces : List Piece} (h : ∀ piece ∈ pieces, piece.IsClosed) :
    textOf (write pieces).toList = (pieces.flatMap Piece.chars).filter (· != '\r') := by
  rw [textOf, write, String.toList_ofList, untag_flatMap_write h, decode_escape]

end ConsoleReplay.Markup
