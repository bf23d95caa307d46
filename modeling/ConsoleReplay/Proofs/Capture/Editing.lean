import ConsoleReplay.Capture.PlainText
import ConsoleReplay.Proofs.Capture.Rereading

/-!
# How a line is edited

Plain text is made by a line editor.  Here it is told by the line and a column: a character
overwrites the one at the column or goes to the end of the line, a carriage return goes back to the
first column, a line feed ends the line in full.  A backspace goes back one column, and takes the
last character of the line away if it was at the end.

In the first column a backspace should do nothing, as on a screen.  The editor moves first and then
asks whether the column is on the last character of the line.  In the first column it has not
moved, so in front of the only character of a line it takes that character away.  Everywhere else
it does what is said above.

## Main definitions

* `Draft` — finished lines, a line in progress, and a column in it.
* `Draft.backspace`, `Draft.erase` — a backspace as it should be, and as it is carried out.
* `Draft.typed back cs` — what becomes of a text under either of them.
* `LineEditor.draft e` — the draft that an editor holds.

## Main results

* `Draft.erase_eq_backspace_iff` — where the two backspaces differ.
* `LineEditor.draft_apply` — a character edits the editor and its draft alike.
* `plainText_of_no_escape` — **how plain text is edited**.
* `plainText_in_front_of_lone` — a text for which the backspaces differ.
-/

namespace ConsoleReplay.Capture

/-- A text in the making, with its line in one piece and the column as a number, as a reader would
tell it. -/
structure Draft where
  /-- The finished lines with their line feeds. -/
  done : List Char
  /-- The line in progress. -/
  line : List Char
  column : Nat
  deriving DecidableEq, Repr

namespace Draft

/-- A draft in which nothing is written. -/
def empty : Draft := ⟨[], [], 0⟩

/-- Overwrite the character at the column, or extend the line at its end. -/
def write (d : Draft) (c : Char) : Draft :=
  if d.column < d.line.length then
    { d with line := d.line.set d.column c, column := d.column + 1 }
  else { d with line := d.line ++ [c], column := d.column + 1 }

/-- Go to the first column. -/
def carriageReturn (d : Draft) : Draft := { d with column := 0 }

/-- Go back one column.  At the end of the line its last character goes, and in the first column
nothing happens. -/
def backspace (d : Draft) : Draft :=
  if d.column = 0 then d
  else if d.column = d.line.length then
    { d with line := d.line.dropLast, column := d.column - 1 }
  else { d with column := d.column - 1 }

/-- End the line in full. -/
def lineFeed (d : Draft) : Draft := ⟨d.done ++ d.line ++ ['\n'], [], 0⟩

/-- The column is in front of the only character of the line.  This is where the program and the
backspace of a reader part. -/
def IsLone (d : Draft) : Prop := d.column = 0 ∧ d.line.length = 1

instance (d : Draft) : Decidable d.IsLone := inferInstanceAs (Decidable (_ ∧ _))

/-- A backspace as it is carried out: the only character of a line goes from either side. -/
def erase (d : Draft) : Draft := if d.IsLone then { d with line := [] } else d.backspace

/-- The draft after a character.  Characters that are no controls are written, and so are tabs.  The
way of going back is a parameter, so that two of them can be compared on the same text. -/
def read (back : Draft → Draft) (d : Draft) (c : Char) : Draft :=
  if c = '\n' then d.lineFeed
  else if c = '\r' then d.carriageReturn
  else if c = '\x08' then back d
  else if c = '\t' || !isControl c then d.write c
  else d

/-- The draft that a text leaves, under one way of going back. -/
def typed (back : Draft → Draft) (cs : List Char) : Draft := cs.foldl (read back) empty

/-- The finished lines and the one in progress. -/
def chars (d : Draft) : List Char := d.done ++ d.line

/-- **The two backspaces differ in front of the only character of a line**, and nowhere else. -/
theorem erase_eq_backspace_iff {d : Draft} : d.erase = d.backspace ↔ ¬ d.IsLone := by
  constructor
  · intro h hlone
    rw [erase, if_pos hlone, backspace, if_pos hlone.1] at h
    have hline : ([] : List Char) = d.line := congrArg Draft.line h
    have hlen := hlone.2
    rw [← hline] at hlen
    cases hlen
  · intro h
    rw [erase, if_neg h]

/-- In the first column a backspace leaves the draft as it is, unless the line has one
character. -/
theorem erase_of_column_eq_zero {d : Draft} (hcolumn : d.column = 0) (hline : d.line.length ≠ 1) :
    d.erase = d := by
  rw [erase, if_neg (fun hlone => hline hlone.2), backspace, if_pos hcolumn]

/-- A text that never goes back in front of the only character of a line leaves the same draft under
both backspaces. -/
theorem foldl_read_erase (d : Draft) {cs : List Char}
    (h : ∀ before after, cs = before ++ '\x08' :: after →
      ¬ (before.foldl (read backspace) d).IsLone) :
    cs.foldl (read erase) d = cs.foldl (read backspace) d := by
  induction cs generalizing d with
  | nil => rfl
  | cons c cs ih =>
    -- The two differ in one key, and there the assumption speaks of what was read so far.
    have hc : d.read erase c = d.read backspace c := by
      by_cases hback : c = '\x08'
      · subst hback
        exact erase_eq_backspace_iff.2 (h [] cs rfl)
      · rw [read, read, if_neg hback, if_neg hback]
    rw [List.foldl_cons, List.foldl_cons, hc]
    refine ih _ fun before after hcs => ?_
    exact h (c :: before) after (by rw [hcs, List.cons_append])

end Draft

namespace LineEditor

/-- The draft that an editor holds. -/
def draft (e : LineEditor) : Draft :=
  ⟨e.done.reverse, e.before.reverse ++ e.after, e.before.length⟩

theorem draft_empty : empty.draft = .empty := rfl

theorem chars_draft (e : LineEditor) : e.draft.chars = e.chars := by
  simp [draft, Draft.chars, chars, reversed]

theorem draft_write (e : LineEditor) (c : Char) : (e.write c).draft = e.draft.write c := by
  obtain ⟨done, before, after⟩ := e
  cases after with
  | nil => simp [write, draft, Draft.write]
  | cons a after => simp [write, draft, Draft.write]

theorem draft_carriageReturn (e : LineEditor) :
    e.carriageReturn.draft = e.draft.carriageReturn := by
  simp [carriageReturn, draft, Draft.carriageReturn]

theorem draft_lineFeed (e : LineEditor) : e.lineFeed.draft = e.draft.lineFeed := by
  simp [lineFeed, reversed, draft, Draft.lineFeed]

/-- Going back takes the last character of a line away from its end, and the only one from in
front of it too. -/
theorem draft_backspace (e : LineEditor) : e.backspace.draft = e.draft.erase := by
  obtain ⟨done, before, after⟩ := e
  cases before with
  | nil =>
    by_cases hlone : after.length = 1
    · simp [backspace, draft, Draft.erase, Draft.IsLone, hlone]
    · simp [backspace, draft, Draft.erase, Draft.IsLone, Draft.backspace, hlone]
  | cons b before =>
    -- The column is on the last character of the line if it was at its end.
    cases after with
    | nil => simp [backspace, draft, Draft.erase, Draft.IsLone, Draft.backspace]
    | cons a after => simp [backspace, draft, Draft.erase, Draft.IsLone, Draft.backspace]

theorem draft_control (e : LineEditor) {c : Char} (hc : isControl c = true) :
    (e.control c).draft = e.draft.read .erase c := by
  unfold control
  split
  case h_1 => exact e.draft_lineFeed
  case h_2 => exact e.draft_carriageReturn
  case h_3 => exact e.draft_write '\t'
  case h_4 => exact e.draft_backspace
  case h_5 hfeed hreturn htab hback =>
    have hwritten : ¬ (c = '\t' || !isControl c) = true := by simpa [hc] using htab
    rw [Draft.read, if_neg hfeed, if_neg hreturn, if_neg hback, if_neg hwritten]

/-- **A character outside sequences edits an editor and its draft alike.** -/
theorem draft_apply (e : LineEditor) (c : Char) :
    (e.apply (plainToken c)).draft = e.draft.read .erase c := by
  rw [plainToken]
  cases hc : isControl c with
  | true => exact e.draft_control hc
  | false =>
    have hne {d : Char} (hd : isControl d = true) : ¬ c = d := by
      rintro rfl
      exact Bool.false_ne_true (hc.symm.trans hd)
    rw [Draft.read, if_neg (hne rfl), if_neg (hne rfl), if_neg (hne rfl), hc, Bool.not_false,
      Bool.or_true, if_pos rfl]
    exact e.draft_write c

theorem draft_foldl_apply (e : LineEditor) (cs : List Char) :
    ((cs.map plainToken).foldl apply e).draft = cs.foldl (Draft.read .erase) e.draft := by
  induction cs generalizing e with
  | nil => rfl
  | cons c cs ih => rw [List.map_cons, List.foldl_cons, ih, draft_apply, List.foldl_cons]

end LineEditor

/-- Without an escape every character is a token. -/
theorem tokens_of_no_escape {cs : List Char} (h : '\x1b' ∉ cs) : tokens cs = cs.map plainToken := by
  have hrun : Scanner.run .ground cs = (.ground, (cs.map plainToken).reverse) := by
    induction cs with
    | nil => rfl
    | cons c cs ih =>
      have hc : c ≠ '\x1b' := fun hc => h (hc ▸ List.mem_cons_self)
      have hcs : '\x1b' ∉ cs := fun hcs => h (List.mem_cons_of_mem c hcs)
      rw [← List.singleton_append, Scanner.run_append, Scanner.run_singleton hc, ih hcs,
        List.map_append, List.reverse_append]
      rfl
  rw [tokens, hrun, List.reverse_reverse]

/-- The plain text of a text without an escape is its draft. -/
theorem plainChars_eq_chars_typed {cs : List Char} (h : '\x1b' ∉ cs) :
    plainChars cs = (Draft.typed .erase cs).chars := by
  rw [plainChars, tokens_of_no_escape h, ← LineEditor.chars_draft, LineEditor.draft_foldl_apply,
    LineEditor.draft_empty, Draft.typed]

namespace Draft

/-- Backspaces after a carriage return do nothing, unless the line has one character.  That is the
one place where the two ways of going back differ. -/
theorem typed_erase_of_return {front : List Char} (h : (typed erase front).line.length ≠ 1)
    (n : Nat) (back : List Char) :
    typed erase (front ++ '\r' :: (List.replicate n '\x08' ++ back))
      = typed erase (front ++ '\r' :: back) := by
  -- In the first column there is nothing to take away but a line of one character.
  have hstay : (List.replicate n '\x08').foldl (read erase) (typed erase front).carriageReturn
      = (typed erase front).carriageReturn := by
    induction n with
    | zero => rfl
    | succ n ih =>
      have hback : (typed erase front).carriageReturn.read erase '\x08'
          = (typed erase front).carriageReturn := erase_of_column_eq_zero rfl h
      rw [List.replicate_succ, List.foldl_cons, hback, ih]
  have hreturn (cs : List Char) : typed erase (front ++ '\r' :: cs)
      = cs.foldl (read erase) (typed erase front).carriageReturn := by
    rw [typed, List.foldl_append, List.foldl_cons]
    rfl
  rw [hreturn, hreturn, List.foldl_append, hstay]

end Draft

/-- **How plain text is edited.**  A text without an escape is read as the line editor says, if the
only character of a line goes by a backspace from either side.  As long as no backspace comes in
front of the only character of a line, that is the line editor in which a backspace does nothing in
the first column.  Backspaces right after a carriage return leave the text as it is, unless the line
has one character. -/
theorem plainText_of_no_escape {text : String} (h : '\x1b' ∉ text.toList) :
    (plainText text).toList = (Draft.typed .erase text.toList).chars
      ∧ ((∀ before after, text.toList = before ++ '\x08' :: after →
            ¬ (Draft.typed .backspace before).IsLone) →
          (plainText text).toList = (Draft.typed .backspace text.toList).chars)
      ∧ ∀ front n back, text.toList = front ++ '\r' :: (List.replicate n '\x08' ++ back) →
          (Draft.typed .erase front).line.length ≠ 1 →
          plainText text = plainText (.ofList (front ++ '\r' :: back)) := by
  have hread : (plainText text).toList = (Draft.typed .erase text.toList).chars := by
    rw [plainText, String.toList_ofList, plainChars_eq_chars_typed h]
  refine ⟨hread, ?_, ?_⟩
  · intro hback
    rw [hread, Draft.typed, Draft.foldl_read_erase _ hback, ← Draft.typed]
  · intro front n back htext hline
    -- Without the backspaces the text has no escape either.
    have hback : '\x1b' ∉ front ++ '\r' :: back := by
      rw [htext] at h
      simp only [List.mem_append, List.mem_cons] at h ⊢
      exact fun hmem => h (hmem.imp_right (·.imp_right .inr))
    rw [plainText, plainText, String.toList_ofList, plainChars_eq_chars_typed h, htext,
      Draft.typed_erase_of_return hline, plainChars_eq_chars_typed hback]

/-- A line from which a character is taken away, which is overwritten, gone back into and
overwritten again, and at last backspaces after a carriage return. -/
theorem plainText_of_no_escape_overwritten :
    '\x1b' ∉ "abc\x08d\rxy\x08z\r\x08\x08w".toList
      ∧ (plainText "abc\x08d\rxy\x08z\r\x08\x08w").toList
        = (Draft.typed .backspace "abc\x08d\rxy\x08z\r\x08\x08w".toList).chars
      ∧ plainText "abc\x08d\rxy\x08z\r\x08\x08w" = plainText "abc\x08d\rxy\x08z\rw"
      ∧ plainText "abc\x08d\rxy\x08z\rw" = "wzd" := by
  have hescape : '\x1b' ∉ "abc\x08d\rxy\x08z\r\x08\x08w".toList := by decide
  obtain ⟨-, hdocumented, hreturn⟩ := plainText_of_no_escape hescape
  refine ⟨hescape, hdocumented ?_, ?_, by decide +kernel⟩
  · have hcheck : ∀ n < 14, "abc\x08d\rxy\x08z\r\x08\x08w".toList[n]? = some '\x08' →
        ¬ (Draft.typed .backspace ("abc\x08d\rxy\x08z\r\x08\x08w".toList.take n)).IsLone := by
      decide +kernel
    intro before after hsplit
    have hlen : before.length < 14 := by
      have hwhole := congrArg List.length hsplit
      rw [List.length_append, List.length_cons] at hwhole
      have hfourteen : "abc\x08d\rxy\x08z\r\x08\x08w".toList.length = 14 := by decide
      omega
    have hback := hcheck before.length hlen
    rw [hsplit, List.take_left] at hback
    exact hback (by simp)
  · exact hreturn "abc\x08d\rxy\x08z".toList 2 ['w'] (by decide) (by decide +kernel)

/-- In front of the only character of a line a backspace takes it away. -/
theorem plainText_in_front_of_lone :
    '\x1b' ∉ "a\r\x08".toList
      ∧ plainText "a\r\x08" = ""
      ∧ (Draft.typed .backspace "a\r\x08".toList).chars = ['a']
      ∧ plainText "a\r" = "a" := by
  decide +kernel

end ConsoleReplay.Capture
