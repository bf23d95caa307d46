import ConsoleReplay.Markup.Piece

/-!
# The language of markup

Markup is a sequence of escaped texts, some of them in an element that gives them a
style or a class.  No element stands in another one, and what is written into an
attribute has no character that could end it.

## Main definitions

* `Markup.Escaped cs` — a text without characters that markup is made of.
* `Markup.AttributeText cs` — a text that may stand in an attribute.
* `Markup.WellFormed cs` — the language of markup.

## Main results

* `Markup.escaped_escape` — every text is escaped where it is written.
* `Markup.attributeText_css` — every style gives a text for an attribute.
* `Markup.WellFormed.append` — pieces of markup one after the other are markup.
* `Markup.wellFormed_write` — what pieces are written as is markup.
-/

namespace ConsoleReplay.Markup

/-! ### Escaped text

An entity has no reserved character in it and no second ampersand, so a text stays escaped when
characters and entities are put in front of it. -/

/-- What an ampersand in escaped text begins. -/
def entities : List String := ["&amp;", "&lt;", "&gt;", "&quot;", "&#39;"]

/-- Whether a character never stands in escaped text. -/
def isReserved (c : Char) : Bool :=
  c == '<' || c == '>' || c == '"' || c == '\'' || c == '\r'

/-- A text without reserved characters, in which every ampersand begins an entity.  Whatever a
reader of markup is looking for, it finds no tag in such a text. -/
structure Escaped (cs : List Char) : Prop where
  reserved : ∀ c ∈ cs, isReserved c = false
  entity : ∀ rest, '&' :: rest <:+ cs → ∃ e ∈ entities, e.toList <+: '&' :: rest

/-- A text without ampersands and reserved characters is escaped. -/
theorem escaped_of_plain {cs : List Char} (h : ∀ c ∈ cs, isReserved c = false ∧ c ≠ '&') :
    Escaped cs where
  reserved := fun c hc => (h c hc).1
  entity := fun _ hrest => absurd rfl (h '&' (hrest.subset (List.mem_cons_self ..))).2

theorem escaped_nil : Escaped [] := escaped_of_plain fun _ hc => absurd hc List.not_mem_nil

/-- A character in front of escaped text. -/
theorem Escaped.cons {c : Char} {cs : List Char} (hc : isReserved c = false)
    (hamp : c = '&' → ∃ e ∈ entities, e.toList <+: c :: cs) (h : Escaped cs) :
    Escaped (c :: cs) where
  reserved := fun d hd => by
    rcases List.mem_cons.1 hd with rfl | hd
    · exact hc
    · exact h.reserved d hd
  entity := fun rest hrest => by
    rcases List.suffix_cons_iff.1 hrest with heq | hrest
    · obtain ⟨rfl, rfl⟩ := List.cons.inj heq
      exact hamp rfl
    · exact h.entity rest hrest

theorem Escaped.tail {c : Char} {cs : List Char} (h : Escaped (c :: cs)) : Escaped cs where
  reserved := fun d hd => h.reserved d (List.mem_cons_of_mem c hd)
  entity := fun rest hrest => h.entity rest (hrest.trans (List.suffix_cons c cs))

/-- Escaped texts one after the other are escaped text. -/
theorem Escaped.append {cs ds : List Char} (hcs : Escaped cs) (hds : Escaped ds) :
    Escaped (cs ++ ds) := by
  induction cs with
  | nil => exact hds
  | cons c cs ih =>
    -- An entity of the first text ends before the second one begins.
    refine (ih hcs.tail).cons (hcs.reserved c (List.mem_cons_self ..)) fun hc => ?_
    subst hc
    obtain ⟨e, he, hprefix⟩ := hcs.entity cs (List.suffix_refl _)
    exact ⟨e, he, hprefix.trans (List.prefix_append _ ds)⟩

/-- An entity is escaped text. -/
theorem escaped_entity {e : String} (he : e ∈ entities) : Escaped e.toList := by
  -- Of an entity only the first character is an ampersand.
  have hplain : ∀ e ∈ entities, e.toList = '&' :: e.toList.tail ∧
      e.toList.tail.all (fun c => !isReserved c && c != '&') = true := by
    decide
  obtain ⟨hcons, htail⟩ := hplain e he
  rw [hcons]
  refine Escaped.cons rfl (fun _ => ⟨e, he, hcons ▸ List.prefix_refl _⟩)
    (escaped_of_plain fun c hc => ?_)
  have hplainChar := List.all_eq_true.1 htail c hc
  rw [Bool.and_eq_true, Bool.not_eq_true', bne_iff_ne] at hplainChar
  exact hplainChar

/-- Every character is escaped where it is written. -/
theorem escaped_escapeChar (c : Char) : Escaped (escapeChar c) := by
  unfold escapeChar
  split
  case h_1 => exact escaped_entity (e := "&amp;") (by decide)
  case h_2 => exact escaped_entity (e := "&lt;") (by decide)
  case h_3 => exact escaped_entity (e := "&gt;") (by decide)
  case h_4 => exact escaped_entity (e := "&quot;") (by decide)
  case h_5 => exact escaped_entity (e := "&#39;") (by decide)
  case h_6 => exact escaped_nil
  -- The default branch knows that the character is none of the reserved ones, which is all the
  -- grammar asks of a plain character.
  case h_7 hamp hlt hgt hquot hapos hcr =>
    refine escaped_of_plain fun d hd => ?_
    rw [List.mem_singleton.1 hd]
    refine ⟨?_, hamp⟩
    simp only [isReserved, Bool.or_eq_false_iff, beq_eq_false_iff_ne]
    exact ⟨⟨⟨⟨hlt, hgt⟩, hquot⟩, hapos⟩, hcr⟩

/-- Every text is escaped where it is written. -/
theorem escaped_escape (cs : List Char) : Escaped (escape cs) := by
  induction cs with
  | nil => exact escaped_nil
  | cons c cs ih => exact (escaped_escapeChar c).append ih

/-! ### Attributes -/

/-- Whether a character may stand in an attribute: a small letter, a digit, or one of
those that join them in the rules of a style. -/
def isAttributeChar (c : Char) : Bool := c.isLower || c.isDigit || "#:;-".toList.contains c

/-- A text that may stand in an attribute. -/
def AttributeText (cs : List Char) : Prop := ∀ c ∈ cs, isAttributeChar c = true

instance (cs : List Char) : Decidable (AttributeText cs) :=
  decidable_of_iff (cs.all isAttributeChar = true) List.all_eq_true

theorem AttributeText.append {cs ds : List Char} (hcs : AttributeText cs)
    (hds : AttributeText ds) : AttributeText (cs ++ ds) := fun c hc =>
  (List.mem_append.1 hc).elim (hcs c) (hds c)

theorem attributeText_color {color : Color} {css : String} (h : color.css? = some css) :
    AttributeText css.toList := by
  cases color with
  | default => exact absurd h (Option.some_ne_none css).symm
  | normal hue => cases hue <;> (rw [← Option.some.inj h]; decide)
  | bright hue => cases hue <;> (rw [← Option.some.inj h]; decide)

/-- A colour may stand in an attribute after the name of its rule. -/
theorem attributeText_colorRule {name rule : String} {color : Color}
    (hname : AttributeText name.toList) (h : rule ∈ (color.css?.map (name ++ ·)).toList) :
    AttributeText rule.toList := by
  obtain ⟨css, hcss, rfl⟩ := Option.map_eq_some_iff.1 (Option.mem_toList.1 h)
  rw [String.toList_append]
  exact hname.append (attributeText_color hcss)

theorem attributeText_cssRules (s : Style) : ∀ rule ∈ s.cssRules, AttributeText rule.toList := by
  intro rule h
  simp only [Style.cssRules, List.mem_append] at h
  rcases h with (((h | h) | h) | h) | h
  case inl.inl.inl.inl => exact attributeText_colorRule (by decide) h
  case inl.inl.inl.inr => exact attributeText_colorRule (by decide) h
  all_goals
    split at h
    · rw [List.mem_singleton.1 h]
      decide
    · exact absurd h List.not_mem_nil

/-- Every style gives a text for an attribute.  The declarations are made of a few fixed texts and
hexadecimal colours. -/
theorem attributeText_css (s : Style) : AttributeText s.css.toList := by
  rw [Style.css]
  -- Which rules there are does not matter, as long as each may stand in an attribute.
  generalize hrules : s.cssRules = rules
  have h := hrules ▸ attributeText_cssRules s
  clear hrules
  induction rules with
  | nil => exact fun c hc => absurd hc List.not_mem_nil
  | cons rule rules ih =>
    have hrule := h rule (List.mem_cons_self ..)
    have hrules := ih fun r hr => h r (List.mem_cons_of_mem rule hr)
    cases rules with
    | nil => exact hrule
    | cons r rules =>
      rw [String.intercalate_cons_cons, String.toList_append, String.toList_append]
      exact (hrule.append (by decide)).append hrules

/-! ### Markup -/

/-- The language of markup: escaped texts, and elements around escaped texts that have
one attribute, a style or a class. -/
inductive WellFormed : List Char → Prop
  | nil : WellFormed []
  | text {cs rest : List Char} (hcs : Escaped cs) (hrest : WellFormed rest) :
      WellFormed (cs ++ rest)
  | styled {css cs rest : List Char} (hcss : AttributeText css) (hcs : Escaped cs)
      (hrest : WellFormed rest) :
      WellFormed ("<span style=\"".toList ++ css ++ "\">".toList ++ cs ++ "</span>".toList ++ rest)
  | marked {name cs rest : List Char} (hname : AttributeText name) (hcs : Escaped cs)
      (hrest : WellFormed rest) :
      WellFormed
        ("<span class=\"hl-".toList ++ name ++ "\">".toList ++ cs ++ "</span>".toList ++ rest)

/-- Pieces of markup one after the other are markup. -/
theorem WellFormed.append {cs ds : List Char} (hcs : WellFormed cs) (hds : WellFormed ds) :
    WellFormed (cs ++ ds) := by
  induction hcs with
  | nil => exact hds
  | text hcs _ ih =>
    rw [List.append_assoc]
    exact .text hcs ih
  | styled hcss hcs _ ih =>
    rw [List.append_assoc]
    exact .styled hcss hcs ih
  | marked hname hcs _ ih =>
    rw [List.append_assoc]
    exact .marked hname hcs ih

/-- Whether the class of a piece, if it has one, may stand in an attribute.  Classes are the only
text of a tag that comes from elsewhere. -/
def Piece.IsNamed : Piece → Prop
  | .marked name _ => AttributeText name.toList
  | _ => True

theorem wellFormed_writePiece {piece : Piece} (h : piece.IsNamed) : WellFormed piece.write := by
  rw [← List.append_nil piece.write]
  cases piece with
  | text cs => exact .text (escaped_escape cs) .nil
  | styled style cs =>
    rw [Piece.write, Piece.element]
    simp only [String.toList_append]
    exact .styled (attributeText_css style) (escaped_escape cs) .nil
  | marked name cs =>
    rw [Piece.write, Piece.element]
    simp only [String.toList_append]
    exact .marked h (escaped_escape cs) .nil

/-- What pieces are written as is markup. -/
theorem wellFormed_write {pieces : List Piece} (h : ∀ piece ∈ pieces, piece.IsNamed) :
    WellFormed (write pieces).toList := by
  rw [write, String.toList_ofList]
  induction pieces with
  | nil => exact .nil
  | cons piece pieces ih =>
    rw [List.flatMap_cons]
    exact (wellFormed_writePiece (h piece (List.mem_cons_self ..))).append
      (ih fun p hp => h p (List.mem_cons_of_mem piece hp))

end ConsoleReplay.Markup
