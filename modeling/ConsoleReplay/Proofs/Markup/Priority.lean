import ConsoleReplay.Markup.Rule
import ConsoleReplay.Proofs.Markup.Readback
import ConsoleReplay.Proofs.Markup.Safety
import ConsoleReplay.Proofs.Pattern.Cutting

/-!
# The first rule to claim a text keeps it

Rules mark up a text one after the other.  What a rule needs is a class and a way to find matches,
in order and without overlap, in any text; how it finds them is its own affair.  A rule cuts every
piece that is not yet in a class at its matches, and leaves the others alone.  So what rules do to a
text is what the first of them do, and then what the others do to each piece that is left, as if it
were a text of its own: a piece in a class stays what it is and where it is.

## Main definitions

* `Markup.slice name cs last ms` — a text from a place on, cut at matches.
* `Markup.Marker` — a class and a way to find matches; `Rule.marker` is that of a rule.
* `Piece.refine f piece` — pieces in the place of one that is in no element.
* `Markup.markPieces markers cs` — the pieces of a text after all markers.

## Main results

* `Markup.flatMap_chars_slice`, `Markup.mem_slice` — the pieces of a text that is cut.
* `Markup.markPieces_append` — more markers look into what the ones before them left.
* `Markup.highlightPieces_eq` — the rules of a highlighter are such markers.
* `Markup.markPieces_keeps` — **markers keep a text, and a later one keeps the pieces of an earlier
  one**.
* `Highlighter.textOf_heuristic` — the markup of every dialect reads back as the text.
-/

namespace ConsoleReplay

namespace Markup

/-! ### Cutting a text at matches -/

/-- A text from one place up to another, if there is something between them. -/
def gap (cs : List Char) (start stop : Nat) : List Piece :=
  if start < stop then [.text (cs.extract start stop)] else []

/-- A text from a place on, cut at matches: each in a class, and between them the text that they
leave.  Empty matches are passed over. -/
def slice (name : String) (cs : List Char) (last : Nat) : List Match → List Piece
  | [] => if last < cs.length then [.text (cs.drop last)] else []
  | m :: ms =>
    if m.start = m.stop then slice name cs last ms
    else gap cs last m.start ++ .marked name (cs.extract m.start m.stop) :: slice name cs m.stop ms

variable {name : String} {cs : List Char} {last : Nat} {ms : List Match}

theorem extract_append_drop {start stop : Nat} (h : start ≤ stop) :
    cs.extract start stop ++ cs.drop stop = cs.drop start := by
  obtain ⟨n, rfl⟩ := Nat.exists_eq_add_of_le h
  rw [List.extract_eq_take_drop, Nat.add_sub_cancel_left, ← List.drop_drop, List.take_append_drop]

theorem extract_ne_nil {start stop : Nat} (h : start < stop) (hstop : stop ≤ cs.length) :
    cs.extract start stop ≠ [] := by
  intro hnil
  have hlength := congrArg List.length hnil
  simp only [List.extract_eq_take_drop, List.length_take, List.length_drop, List.length_nil]
    at hlength
  omega

theorem flatMap_chars_gap {start stop : Nat} (h : start ≤ stop) :
    (gap cs start stop).flatMap Piece.chars ++ cs.drop stop = cs.drop start := by
  rw [gap]
  split
  · rw [List.flatMap_singleton]
    exact extract_append_drop h
  · next hempty =>
    rw [Nat.le_antisymm h (Nat.le_of_not_lt hempty)]
    rfl

/-- Nothing of a text is lost where it is cut, and nothing repeated. -/
theorem flatMap_chars_slice (h : InOrder cs.length last ms) :
    (slice name cs last ms).flatMap Piece.chars = cs.drop last := by
  induction ms generalizing last with
  | nil =>
    rw [slice]
    -- An empty mark is skipped, and the cut goes on from the same place.
    split
    · exact List.flatMap_singleton ..
    · next hend => exact (List.drop_eq_nil_of_le (Nat.le_of_not_lt hend)).symm
  | cons m ms ih =>
    cases h with
    | cons hlast hstart hstop h =>
      rw [slice]
      split
      · exact ih (h.mono (Nat.le_trans hlast hstart))
      · rw [List.flatMap_append, List.flatMap_cons, ih h, Piece.chars, extract_append_drop hstart,
          flatMap_chars_gap hlast]

/-- The pieces of a text that is cut are parts of it, none of them empty. -/
theorem mem_slice (h : InOrder cs.length last ms) : ∀ piece ∈ slice name cs last ms,
    ∃ part, part ≠ [] ∧ (piece = .text part ∨ piece = .marked name part) := by
  induction ms generalizing last with
  | nil =>
    rw [slice]
    split
    · next hlast =>
      refine List.forall_mem_singleton.2 ⟨_, ?_, Or.inl rfl⟩
      exact List.drop_eq_nil_iff.not.2 (Nat.not_le_of_lt hlast)
    · exact List.forall_mem_nil _
  | cons m ms ih =>
    cases h with
    | cons hlast hstart hstop h =>
      rw [slice]
      split
      · exact ih (h.mono (Nat.le_trans hlast hstart))
      · next hpiece =>
        -- The mark is not empty here, and the gap in front of it is only a piece if it is not
        -- empty either.
        refine List.forall_mem_append.2 ⟨?_, List.forall_mem_cons.2 ⟨⟨_, ?_, Or.inr rfl⟩, ih h⟩⟩
        · rw [gap]
          split
          · next hgap =>
            refine List.forall_mem_singleton.2 ⟨_, ?_, Or.inl rfl⟩
            exact extract_ne_nil hgap (Nat.le_trans hstart hstop)
          · exact List.forall_mem_nil _
        · exact extract_ne_nil (Nat.lt_of_le_of_ne hstart hpiece) hstop

/-! ### Markers

A marker looks into pieces of plain text and leaves elements alone.  So what the first markers
have put in elements is there at the end, and the others see the rest piece by piece. -/

/-- A class of texts and a way to find them, in order and without overlap in every text.  A rule
finds them by a pattern, and nothing but the order of what it finds is used of that. -/
structure Marker where
  name : String
  find : List Char → List Match
  inOrder : ∀ cs, InOrder cs.length 0 (find cs)

/-- A text cut at the matches of a marker. -/
def Marker.cut (marker : Marker) (cs : List Char) : List Piece :=
  slice marker.name cs 0 (marker.find cs)

theorem Marker.ne_nil_of_mem_cut (marker : Marker) (cs : List Char) :
    ∀ piece ∈ marker.cut cs, piece.chars ≠ [] := by
  intro piece hpiece
  obtain ⟨part, hpart, rfl | rfl⟩ := mem_slice (marker.inOrder cs) piece hpiece
  · exact hpart
  · exact hpart

theorem Marker.isClosed_of_mem_cut {marker : Marker} (hname : '>' ∉ marker.name.toList)
    (cs : List Char) : ∀ piece ∈ marker.cut cs, piece.IsClosed := by
  intro piece hpiece
  obtain ⟨part, -, rfl | rfl⟩ := mem_slice (marker.inOrder cs) piece hpiece
  · trivial
  · exact hname

/-- Pieces in the place of a piece.  One in an element is left alone, which is what gives earlier
markers priority. -/
def Piece.refine (f : List Char → List Piece) : Piece → List Piece
  | .text cs => f cs
  | piece => [piece]

/-- The pieces after one more marker. -/
def Marker.apply (marker : Marker) (pieces : List Piece) : List Piece :=
  pieces.flatMap (Piece.refine marker.cut)

/-- The pieces of a text after all markers. -/
def markPieces (markers : List Marker) (cs : List Char) : List Piece :=
  markers.foldl (fun pieces marker => marker.apply pieces) [.text cs]

namespace Piece

variable {f g : List Char → List Piece}

theorem flatMap_refine_refine (pieces : List Piece) :
    (pieces.flatMap (refine f)).flatMap (refine g)
      = pieces.flatMap (refine fun cs => (f cs).flatMap (refine g)) := by
  rw [List.flatMap_assoc]
  refine congrArg pieces.flatMap (funext fun piece => ?_)
  cases piece with
  | text cs => rfl
  | styled | marked => exact List.flatMap_singleton ..

theorem flatMap_refine_text (pieces : List Piece) :
    pieces.flatMap (refine fun cs => [.text cs]) = pieces := by
  have hone : (refine fun cs => [.text cs]) = fun piece => [piece] := by
    funext piece
    cases piece <;> rfl
  rw [hone, List.flatMap_singleton']

/-- Pieces that keep the text of each piece keep the text of all. -/
theorem flatMap_chars_refine (hf : ∀ cs, (f cs).flatMap chars = cs) (pieces : List Piece) :
    (pieces.flatMap (refine f)).flatMap chars = pieces.flatMap chars := by
  rw [List.flatMap_assoc]
  refine congrArg pieces.flatMap (funext fun piece => ?_)
  cases piece with
  | text cs => exact hf cs
  | styled | marked => exact List.flatMap_singleton ..

/-- What holds of the pieces in an element, and of all that is put in the place of the others, holds
of all. -/
theorem forall_mem_refine {P : Piece → Prop} {pieces : List Piece} (h : ∀ piece ∈ pieces, P piece)
    (hf : ∀ cs, .text cs ∈ pieces → ∀ piece ∈ f cs, P piece) :
    ∀ piece ∈ pieces.flatMap (refine f), P piece := by
  refine List.forall_mem_flatMap.2 fun piece hpiece => ?_
  cases piece with
  | text cs => exact hf cs hpiece
  | styled | marked => exact List.forall_mem_singleton.2 (h _ hpiece)

end Piece

/-- Markers look into each piece that is left to them as if it were a text of its own.  The first
markers and the others can be separated because a marker acts on each piece alone. -/
theorem foldl_apply (markers : List Marker) (pieces : List Piece) :
    markers.foldl (fun pieces marker => marker.apply pieces) pieces
      = pieces.flatMap (Piece.refine (markPieces markers)) := by
  induction markers generalizing pieces with
  | nil => exact (Piece.flatMap_refine_text pieces).symm
  | cons marker markers ih =>
    have hfirst : markPieces (marker :: markers)
        = fun cs => (marker.cut cs).flatMap (Piece.refine (markPieces markers)) := by
      funext cs
      have happly : marker.apply [.text cs] = marker.cut cs := List.flatMap_singleton ..
      rw [markPieces, List.foldl_cons, ih, happly]
    rw [List.foldl_cons, ih, Marker.apply, Piece.flatMap_refine_refine, hfirst]

/-- More markers look into what the ones before them left. -/
theorem markPieces_append (markers more : List Marker) (cs : List Char) :
    markPieces (markers ++ more) cs
      = (markPieces markers cs).flatMap (Piece.refine (markPieces more)) := by
  rw [markPieces, List.foldl_append, foldl_apply]
  rfl

theorem markPieces_cons (marker : Marker) (markers : List Marker) (cs : List Char) :
    markPieces (marker :: markers) cs
      = (marker.cut cs).flatMap (Piece.refine (markPieces markers)) := by
  have hone : markPieces [marker] cs = marker.cut cs := List.flatMap_singleton ..
  rw [← List.singleton_append, markPieces_append, hone]

/-- Markers keep a text. -/
theorem flatMap_chars_markPieces (markers : List Marker) (cs : List Char) :
    (markPieces markers cs).flatMap Piece.chars = cs := by
  induction markers generalizing cs with
  | nil => exact List.flatMap_singleton ..
  | cons marker markers ih =>
    rw [markPieces_cons, Piece.flatMap_chars_refine ih, Marker.cut,
      flatMap_chars_slice (marker.inOrder cs), List.drop_zero]

/-- The pieces of a text that is not empty are not empty. -/
theorem ne_nil_of_mem_markPieces (markers : List Marker) {cs : List Char} (hcs : cs ≠ []) :
    ∀ piece ∈ markPieces markers cs, piece.chars ≠ [] := by
  induction markers generalizing cs with
  | nil => exact List.forall_mem_singleton.2 hcs
  | cons marker markers ih =>
    have hcut := marker.ne_nil_of_mem_cut cs
    rw [markPieces_cons]
    exact Piece.forall_mem_refine hcut fun part hpart => ih (hcut _ hpart)

theorem isClosed_of_mem_markPieces {markers : List Marker}
    (h : ∀ marker ∈ markers, '>' ∉ marker.name.toList) (cs : List Char) :
    ∀ piece ∈ markPieces markers cs, piece.IsClosed := by
  induction markers generalizing cs with
  | nil => exact List.forall_mem_singleton.2 trivial
  | cons marker markers ih =>
    obtain ⟨hmarker, hmarkers⟩ := List.forall_mem_cons.1 h
    rw [markPieces_cons]
    exact Piece.forall_mem_refine (marker.isClosed_of_mem_cut hmarker cs) fun part _ =>
      ih hmarkers part

/-! ### The rules of a highlighter -/

/-- What stands in front of a match is a piece of its own. -/
theorem slice_cons_of_lt {m : Match} (hlast : last < m.start) (hpiece : m.start ≠ m.stop) :
    slice name cs last (m :: ms)
      = .text (cs.extract last m.start) :: slice name cs m.start (m :: ms) := by
  rw [slice, slice, if_neg hpiece, if_neg hpiece, gap, gap, if_pos hlast,
    if_neg (Nat.lt_irrefl m.start)]
  rfl

/-- A text is cut where stretches of it were found, and stretches are its pieces.  The matches and
the stretches are two ways to tell one cut: by places, or by what lies between them. -/
theorem slice_matchesFrom (rule : Rule) {stretches : List Pattern.Stretch}
    (h : Pattern.Separate stretches) {place : Nat}
    (hdrop : cs.drop place = stretches.flatMap Pattern.Stretch.chars) :
    slice rule.name cs place (Pattern.matchesFrom place stretches)
      = stretches.map rule.pieceOf := by
  induction stretches generalizing place with
  | nil => exact if_neg (Nat.not_lt_of_le (List.drop_eq_nil_iff.1 hdrop))
  | cons stretch stretches ih =>
    obtain ⟨hne, hapart⟩ := h
    obtain ⟨hstretch, hne⟩ := List.forall_mem_cons.1 hne
    rw [List.flatMap_cons] at hdrop
    have hstop : place < place + stretch.chars.length :=
      Nat.lt_add_of_pos_right (List.length_pos_iff.2 hstretch)
    have hpart : cs.extract place (place + stretch.chars.length) = stretch.chars := by
      rw [List.extract_eq_take_drop, Nat.add_sub_cancel_left, hdrop, List.take_left]
    have hdropRest : cs.drop (place + stretch.chars.length)
        = stretches.flatMap Pattern.Stretch.chars := by
      rw [← List.drop_drop, hdrop, List.drop_left]
    have hrest := ih ⟨hne, hapart.tail⟩ hdropRest
    rw [Pattern.matchesFrom, List.map_cons, Rule.pieceOf]
    cases hfound : stretch.found with
    | true =>
      rw [if_pos rfl, if_pos rfl, slice, if_neg (Nat.ne_of_lt hstop), gap,
        if_neg (Nat.lt_irrefl place), hpart, hrest]
      rfl
    | false =>
      rw [if_neg Bool.false_ne_true, if_neg Bool.false_ne_true, ← hrest]
      cases stretches with
      | nil =>
        rw [List.flatMap_nil, List.append_nil] at hdrop
        have hplace : place < cs.length := by
          rw [← Nat.not_le, ← List.drop_eq_nil_iff, hdrop]
          exact hstretch
        rw [hrest, Pattern.matchesFrom, slice, if_pos hplace, hdrop, List.map_nil]
      | cons next stretches =>
        -- Two stretches that were not found do not stand side by side.
        have hnext : next.found = true := by
          refine ((List.isChain_cons_cons.1 hapart).1).resolve_left ?_
          rw [hfound]
          exact Bool.false_ne_true
        have hnextNe : next.chars ≠ [] := hne next List.mem_cons_self
        rw [Pattern.matchesFrom, if_pos hnext, slice_cons_of_lt hstop, hpart]
        exact Nat.ne_of_lt (Nat.lt_add_of_pos_right (List.length_pos_iff.2 hnextNe))

/-- The marker of a rule: it finds the pieces of the pattern. -/
def Rule.marker (rule : Rule) : Marker :=
  ⟨rule.name, rule.pattern.findAll, rule.pattern.inOrder_findAll⟩

theorem Rule.cut_marker (rule : Rule) (cs : List Char) :
    rule.marker.cut cs = (rule.pattern.split cs).map rule.pieceOf := by
  refine slice_matchesFrom rule (rule.pattern.separate_split cs) ?_
  rw [Pattern.flatMap_chars_split, List.drop_zero]

theorem Rule.apply_eq (rule : Rule) (pieces : List Piece) :
    rule.apply pieces = rule.marker.apply pieces := by
  refine congrArg pieces.flatMap (funext fun piece => ?_)
  cases piece with
  | text cs => exact (rule.cut_marker cs).symm
  | styled | marked => rfl

/-- The rules of a highlighter are markers. -/
theorem highlightPieces_eq (rules : List Rule) (cs : List Char) :
    highlightPieces rules cs = markPieces (rules.map Rule.marker) cs := by
  rw [highlightPieces, markPieces, List.foldl_map]
  simp only [Rule.apply_eq]

/-- **Markers keep a text, and a later one keeps the pieces of an earlier one.**  With at least one
marker, the pieces of a text are the text and none of them is empty.  What stands in the markup
between the tags of the pieces is the text, escaped and without carriage returns, and if no class
ends its tag the markup itself reads back as that.  What the first markers make of the text is what
the others go on from: they look into each piece that is left to them as if it were a text of its
own, so a piece in a class is there at the end with its text, its class and the same text in front
of it.  The rules of a highlighter are such markers. -/
theorem markPieces_keeps (markers : List Marker) (hmarkers : markers ≠ []) (text : String) :
    (markPieces markers text.toList).flatMap Piece.chars = text.toList
      ∧ decode ((markPieces markers text.toList).flatMap fun piece => escape piece.chars)
        = text.toList.filter (· != '\r')
      ∧ ((∀ marker ∈ markers, '>' ∉ marker.name.toList) →
        textOf (write (markPieces markers text.toList)).toList = text.toList.filter (· != '\r'))
      ∧ (∀ piece ∈ markPieces markers text.toList, piece.chars ≠ [])
      ∧ (∀ k, markPieces markers text.toList
          = (markPieces (markers.take k) text.toList).flatMap
            (Piece.refine (markPieces (markers.drop k))))
      ∧ (∀ k before name chars after,
        markPieces (markers.take k) text.toList = before ++ .marked name chars :: after →
          ∃ before' after', markPieces markers text.toList = before' ++ .marked name chars :: after'
            ∧ before'.flatMap Piece.chars = before.flatMap Piece.chars)
      ∧ (∀ rules, rules.map Rule.marker = markers →
        Highlighter.heuristic ⟨rules⟩ text = write (markPieces markers text.toList)) := by
  -- Folding the markers is a composition, so it can be cut after any number of them.  That later
  -- markers do not look into a piece that is in a class is then the definition of refining.
  have hsplit (k : Nat) : markPieces markers text.toList
      = (markPieces (markers.take k) text.toList).flatMap
        (Piece.refine (markPieces (markers.drop k))) := by
    rw [← markPieces_append, List.take_append_drop]
  have hescaped : (markPieces markers text.toList).flatMap (fun piece => escape piece.chars)
      = escape text.toList := by
    conv_rhs => rw [← flatMap_chars_markPieces markers text.toList]
    exact List.flatMap_assoc.symm
  refine ⟨flatMap_chars_markPieces markers _, ?_, fun hclosed => ?_, ?_, hsplit, ?_, ?_⟩
  · rw [hescaped, decode_escape]
  · rw [textOf_write (isClosed_of_mem_markPieces hclosed _), flatMap_chars_markPieces]
  · -- With no marker at all the whole text is one piece, which may be empty; the first marker
    -- cuts it into pieces that are not.
    obtain ⟨marker, markers, rfl⟩ := List.exists_cons_of_ne_nil hmarkers
    rw [markPieces_cons]
    have hcut := marker.ne_nil_of_mem_cut text.toList
    exact Piece.forall_mem_refine hcut fun part hpart =>
      ne_nil_of_mem_markPieces markers (hcut _ hpart)
  · intro k before name chars after hfirst
    refine ⟨before.flatMap (Piece.refine (markPieces (markers.drop k))),
      after.flatMap (Piece.refine (markPieces (markers.drop k))), ?_, ?_⟩
    · rw [hsplit k, hfirst, List.flatMap_append, List.flatMap_cons]
      rfl
    · exact Piece.flatMap_chars_refine (flatMap_chars_markPieces _) before
  · rintro rules rfl
    rw [Highlighter.heuristic, Highlighter.heuristicPieces, highlightPieces_eq]

/-- An address in the value of a parameter stays an address. -/
theorem markPieces_keeps_address :
    [Rule.marker ⟨"ip", .ipv4⟩, Rule.marker ⟨"param", .parameter⟩] ≠ []
      ∧ textOf (Highlighter.heuristic ⟨[⟨"ip", .ipv4⟩, ⟨"param", .parameter⟩]⟩
          "to=10.0.0.1\r<").toList = "to=10.0.0.1<".toList
      ∧ ∃ before after, markPieces [Rule.marker ⟨"ip", .ipv4⟩, Rule.marker ⟨"param", .parameter⟩]
          "to=10.0.0.1\r<".toList = before ++ .marked "ip" "10.0.0.1".toList :: after
        ∧ before.flatMap Piece.chars = "to=".toList := by
  have hmarkers : [Rule.marker ⟨"ip", .ipv4⟩, Rule.marker ⟨"param", .parameter⟩] ≠ [] :=
    List.cons_ne_nil _ _
  have hclosed : ∀ marker ∈ [Rule.marker ⟨"ip", .ipv4⟩, Rule.marker ⟨"param", .parameter⟩],
      '>' ∉ marker.name.toList := by
    simp [Rule.marker]
  have hfirst : markPieces [Rule.marker ⟨"ip", .ipv4⟩] "to=10.0.0.1\r<".toList
      = [.text "to=".toList] ++ .marked "ip" "10.0.0.1".toList :: [.text "\r<".toList] := by
    decide +kernel
  obtain ⟨-, -, htext, -, -, hkept, hrules⟩ := markPieces_keeps
    [Rule.marker ⟨"ip", .ipv4⟩, Rule.marker ⟨"param", .parameter⟩] hmarkers "to=10.0.0.1\r<"
  refine ⟨hmarkers, ?_, hkept 1 _ _ _ _ hfirst⟩
  rw [hrules [⟨"ip", .ipv4⟩, ⟨"param", .parameter⟩] rfl, htext hclosed]
  decide

end Markup

/-- The markup of a dialect's rules reads back as the text. -/
theorem Highlighter.textOf_heuristic (d : Dialect) (text : String) :
    Markup.textOf ((ofDialect d).heuristic text).toList = text.toList.filter (· != '\r') := by
  have hclosed : ∀ marker ∈ d.rules.map Markup.Rule.marker, '>' ∉ marker.name.toList :=
    List.forall_mem_map.2 fun rule hrule => (d.attributeText_rules rule hrule).notMem
  rw [heuristic, heuristicPieces, ofDialect, Markup.highlightPieces_eq,
    Markup.textOf_write (Markup.isClosed_of_mem_markPieces hclosed _),
    Markup.flatMap_chars_markPieces]

end ConsoleReplay
