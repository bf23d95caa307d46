import ConsoleReplay.Proofs.Capture.Legible
import ConsoleReplay.Proofs.Capture.Silence
import ConsoleReplay.Proofs.Text.Utf8

/-!
# What stands in plain text

Plain text is put together from characters to show, tabs and line feeds, and from nothing
else: whatever stands in a captured text, malformed or cut short, no other control
character and no escape gets into its plain text.  A line feed is only there if one was
captured.  That is not plain to see, since one kind of control character is made up by the
scanner: the bytes that are left over of a character in which a device string ended.  They
lie above those of ASCII.

## Main definitions

* `Completes c t` — the tokens that a character may complete.
* `Scanner.Yields c outcome` — an outcome has no other ones.

## Main results

* `Scanner.yields_step`, `Scanner.exists_completes_of_mem_run` — what a character and a text
  complete.
* `mem_of_control_mem_tokens` — a control character of ASCII was captured.
* `LineEditor.mem_reversed_apply` — what a token puts into a text.
* `mem_plainChars` — **what stands in plain text**.
-/

namespace ConsoleReplay.Capture

/-! ### Bytes of characters

Characters above ASCII are written in bytes above ASCII. So no byte of theirs is taken for a
control of ASCII, also where a device string ends inside of one. -/

/-- What is left of a character after a string terminator lies above ASCII. The terminator is a
continuation byte, so the character has more than one byte. -/
theorem le_of_splitTerminator? {c : Char} {bytes : List UInt8}
    (h : splitTerminator? c = some bytes) : ∀ b ∈ bytes, 0x80 ≤ b.toNat := by
  -- A character of ASCII is one byte, and it is no terminator.
  have hc : 0x80 ≤ c.toNat := by
    refine Nat.not_lt.1 ?_
    intro hlt
    rw [splitTerminator?_of_lt hlt] at h
    cases h
  intro b hb
  unfold splitTerminator? at h
  cases hdrop : (String.utf8EncodeChar c).dropWhile (· != stringTerminator) with
  | nil =>
    rw [hdrop] at h
    cases h
  | cons first rest =>
    rw [hdrop] at h
    obtain rfl : rest = bytes := Option.some.inj h
    have hsuffix : first :: rest <:+ String.utf8EncodeChar c := by
      rw [← hdrop]
      exact List.dropWhile_suffix _
    exact Text.Utf8.le_of_mem_utf8EncodeChar hc b (hsuffix.subset (List.mem_cons_of_mem first hb))

/-- The controls among those bytes are not those of ASCII. -/
theorem le_of_control_mem_afterTerminator {bytes : List UInt8} (h : ∀ b ∈ bytes, 0x80 ≤ b.toNat)
    {d : Char} (hd : .control d ∈ afterTerminator bytes) : 0x80 ≤ d.toNat := by
  obtain ⟨b, hb, heq⟩ := List.mem_map.1 hd
  split at heq
  · next hle =>
    cases heq
    have hvalid : b.toNat.isValidChar := by
      have hle' : b.toNat ≤ 0x9f := UInt8.le_iff_toNat_le.1 hle
      left
      omega
    rw [Char.ofNat, dif_pos hvalid]
    exact h b hb
  · cases heq

/-! ### The tokens of a character -/

/-- The tokens that a character may complete.  In the payload of a device string they are
what its last bytes stand for. -/
inductive Completes (c : Char) : Token → Prop
  | control : Completes c (.control c)
  | glyph : Completes c (.glyph c)
  | sequence (params : List (List Nat)) (intermediates : List Char) (overfull : Bool)
      (final : Char) :
      Completes c (.sequence params intermediates overfull final)
  | leftover {bytes : List UInt8} {t : Token} (hbytes : splitTerminator? c = some bytes)
      (ht : t ∈ afterTerminator bytes) :
      Completes c t

theorem completes_plainToken (c : Char) : Completes c (plainToken c) := by
  rw [plainToken]
  split
  · exact .control
  · exact .glyph

namespace Scanner

/-- Every token of an outcome is one that the character may complete. -/
def Yields (c : Char) (outcome : Scanner × List Token) : Prop := ∀ t ∈ outcome.2, Completes c t

theorem yields_nil (c : Char) (state : Scanner) : Yields c (state, []) := List.forall_mem_nil _

theorem yields_singleton {c : Char} {t : Token} (h : Completes c t) (state : Scanner) :
    Yields c (state, [t]) := List.forall_mem_singleton.2 h

theorem yields_interrupt {c : Char} {outcome : Scanner × List Token} (h : Yields c outcome) :
    Yields c ((interrupt? c).getD outcome) := by
  rw [interrupt?]
  repeat' split
  · exact yields_nil c _
  · exact yields_singleton .control _
  · exact h

theorem yields_act (state : Scanner) (c : Char) : Yields c (act state c) :=
  yields_interrupt (yields_singleton .control state)

theorem yields_skip (state : Scanner) (c : Char) : Yields c (skip state c) :=
  yields_interrupt (yields_nil c state)

theorem yields_inParams (state other : Scanner) (seq : Sequence) (c : Char) :
    Yields c (inParams state seq other c) := by
  rw [inParams]
  repeat' split
  · exact yields_act state c
  · exact yields_nil c _
  · exact yields_nil c _
  · exact yields_nil c _
  · exact yields_nil c _
  · exact yields_nil c _
  · exact yields_singleton (.sequence ..) _
  · exact yields_nil c _

theorem yields_inDeviceParams (state other : Scanner) (c : Char) :
    Yields c (inDeviceParams state other c) := by
  rw [inDeviceParams]
  repeat' split
  · exact yields_skip state c
  all_goals exact yields_nil c _

theorem yields_csiIntermediate (seq : Sequence) (c : Char) :
    Yields c (step (.csiIntermediate seq) c) := by
  rw [step]
  repeat' split
  · exact yields_act _ c
  · exact yields_nil c _
  · exact yields_singleton (.sequence ..) _
  · exact yields_nil c _
  · exact yields_nil c _

theorem yields_deviceIntermediate (c : Char) : Yields c (step .deviceIntermediate c) := by
  rw [step]
  repeat' split
  · exact yields_skip _ c
  all_goals exact yields_nil c _

/-- In every state a character completes only what it may complete.  Most steps complete nothing; in
the others the token is the character itself, the sequence that it is the final character of, or
what its last bytes stand for. -/
theorem yields_step (state : Scanner) (c : Char) : Yields c (state.step c) := by
  cases state with
  | ground =>
    rw [step]
    split
    · exact yields_nil c _
    · exact yields_singleton (completes_plainToken c) _
  | escape =>
    rw [step]
    split
    · exact yields_act _ c
    · exact yields_nil c _
  | escapeIntermediate =>
    rw [step]
    repeat' split
    · exact yields_act _ c
    · exact yields_nil c _
    · exact yields_nil c _
  | csiEntry => exact yields_inParams _ _ _ c
  | csiParam seq => exact yields_inParams _ _ _ c
  | csiIntermediate seq => exact yields_csiIntermediate seq c
  | csiIgnore =>
    rw [step]
    split
    · exact yields_act _ c
    · exact yields_nil c _
  | deviceEntry => exact yields_inDeviceParams _ _ c
  | deviceParam => exact yields_inDeviceParams _ _ c
  | deviceIntermediate => exact yields_deviceIntermediate c
  | devicePayload =>
    rw [step]
    split
    · -- The terminator may be a byte of the character, and bytes behind it are tokens.
      next bytes hbytes => exact fun t ht => .leftover hbytes ht
    · exact yields_skip _ c
  | command =>
    rw [step]
    split
    · exact yields_nil c _
    · exact yields_skip _ c
  -- In these states only a character that interrupts the sequence completes something.
  | deviceIgnore => exact yields_skip _ c
  | string => exact yields_skip _ c

/-- A token of a run was completed by a character of the text. -/
theorem exists_completes_of_mem_run {state : Scanner} {cs : List Char} {t : Token}
    (h : t ∈ (state.run cs).2) : ∃ c ∈ cs, Completes c t := by
  induction cs generalizing state with
  | nil => cases h
  | cons c cs ih =>
    rw [run_cons] at h
    rcases List.mem_append.1 h with hrest | hfirst
    · obtain ⟨d, hd, ht⟩ := ih hrest
      exact ⟨d, List.mem_cons_of_mem c hd, ht⟩
    · exact ⟨c, List.mem_cons_self, yields_step state c t (List.mem_reverse.1 hfirst)⟩

end Scanner

/-- A control character among the tokens of a text stands in the text, or lies above ASCII:
it is then what a device string left of a character. -/
theorem mem_of_control_mem_tokens {cs : List Char} {d : Char} (h : .control d ∈ tokens cs) :
    d ∈ cs ∨ 0x80 ≤ d.toNat := by
  obtain ⟨c, hc, hcompletes⟩ := Scanner.exists_completes_of_mem_run (List.mem_reverse.1 h)
  cases hcompletes with
  | control => exact .inl hc
  | leftover hbytes hmem =>
    exact .inr (le_of_control_mem_afterTerminator (le_of_splitTerminator? hbytes) hmem)

/-! ### The line editor -/

namespace LineEditor

theorem mem_reversed {e : LineEditor} {c : Char} :
    c ∈ e.reversed ↔ c ∈ e.after ∨ c ∈ e.before ∨ c ∈ e.done := by
  rw [reversed, List.mem_append, List.mem_append, List.mem_reverse, or_assoc]

theorem mem_reversed_write {e : LineEditor} {c d : Char} (h : c ∈ (e.write d).reversed) :
    c ∈ e.reversed ∨ c = d := by
  rw [mem_reversed] at h ⊢
  rcases h with hafter | hbefore | hdone
  · exact .inl (.inl (List.mem_of_mem_tail hafter))
  · rcases List.mem_cons.1 hbefore with rfl | hbefore
    · exact .inr rfl
    · exact .inl (.inr (.inl hbefore))
  · exact .inl (.inr (.inr hdone))

/-- Going back moves a character past the column, or takes it away. -/
theorem mem_reversed_backspace {e : LineEditor} {c : Char} (h : c ∈ e.backspace.reversed) :
    c ∈ e.reversed := by
  rw [mem_reversed] at h ⊢
  rcases h with hafter | hbefore | hdone
  · -- A line of one character is emptied.
    have hkept {cs : List Char} (h : c ∈ if cs.length = 1 then [] else cs) : c ∈ cs := by
      split at h
      · cases h
      · exact h
    rw [backspace] at hafter
    cases hbefore : e.before with
    | nil =>
      rw [hbefore] at hafter
      exact .inl (hkept hafter)
    | cons d rest =>
      rw [hbefore] at hafter
      rcases List.mem_cons.1 (hkept hafter) with rfl | hafter
      · exact .inr (.inl List.mem_cons_self)
      · exact .inl hafter
  · exact .inr (.inl (List.mem_of_mem_tail hbefore))
  · exact .inr (.inr hdone)

/-- Going back to the start keeps the characters of the line. -/
theorem reversed_carriageReturn (e : LineEditor) : e.carriageReturn.reversed = e.reversed := by
  simp [reversed, carriageReturn]

theorem reversed_lineFeed (e : LineEditor) : e.lineFeed.reversed = '\n' :: e.reversed := rfl

/-- What a token puts into a text: the character it shows, a tab or a line feed. -/
theorem mem_reversed_apply {e : LineEditor} {t : Token} {c : Char}
    (h : c ∈ (e.apply t).reversed) :
    c ∈ e.reversed ∨ t = .glyph c ∨ t = .control c ∧ (c = '\t' ∨ c = '\n') := by
  cases t with
  | glyph d =>
    rcases mem_reversed_write h with hold | rfl
    · exact .inl hold
    · exact .inr (.inl rfl)
  | control d =>
    rw [apply] at h
    -- Of the controls a line feed and a tab leave a character in the text.
    unfold control at h
    split at h
    · rw [reversed_lineFeed] at h
      rcases List.mem_cons.1 h with rfl | hold
      · exact .inr (.inr ⟨rfl, .inr rfl⟩)
      · exact .inl hold
    · rw [reversed_carriageReturn] at h
      exact .inl h
    · rcases mem_reversed_write h with hold | rfl
      · exact .inl hold
      · exact .inr (.inr ⟨rfl, .inl rfl⟩)
    · exact .inl (mem_reversed_backspace h)
    · exact .inl h
  | sequence params intermediates overfull final => exact .inl h

/-- What the tokens of a text put into it.  Characters are taken away as well, so it is no
equality. -/
theorem mem_reversed_foldl_apply {ts : List Token} {e : LineEditor} {c : Char}
    (h : c ∈ (ts.foldl apply e).reversed) :
    c ∈ e.reversed ∨ .glyph c ∈ ts ∨ .control c ∈ ts ∧ (c = '\t' ∨ c = '\n') := by
  induction ts generalizing e with
  | nil => exact .inl h
  | cons t ts ih =>
    rcases ih h with hfirst | hglyph | ⟨hcontrol, hline⟩
    · rcases mem_reversed_apply hfirst with hold | rfl | ⟨rfl, hline⟩
      · exact .inl hold
      · exact .inr (.inl List.mem_cons_self)
      · exact .inr (.inr ⟨List.mem_cons_self, hline⟩)
    · exact .inr (.inl (List.mem_cons_of_mem t hglyph))
    · exact .inr (.inr ⟨List.mem_cons_of_mem t hcontrol, hline⟩)

end LineEditor

/-- **What stands in plain text**: characters to show, tabs, and line feeds that were
captured. -/
theorem mem_plainChars {cs : List Char} {c : Char} (h : c ∈ plainChars cs) :
    isControl c = false ∨ c = '\t' ∨ c = '\n' ∧ '\n' ∈ cs := by
  rcases LineEditor.mem_reversed_foldl_apply (List.mem_reverse.1 h) with
    hempty | hglyph | ⟨hcontrol, rfl | rfl⟩
  · simp [LineEditor.empty, LineEditor.reversed] at hempty
  · exact .inl (isLegible_of_mem_tokens (.glyph c) hglyph)
  · exact .inr (.inl rfl)
  · rcases mem_of_control_mem_tokens hcontrol with hmem | habove
    · exact .inr (.inr ⟨rfl, hmem⟩)
    · exact absurd habove (by decide)

end ConsoleReplay.Capture
