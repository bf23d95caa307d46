import ConsoleReplay.Screen.Decoder
import ConsoleReplay.Text.CodeRanges
import ConsoleReplay.Text.Digit

/-!
# Escape sequences as a whole

A decoder reads an escape sequence one character at a time.  Here a sequence is told by
its parts, and a decoder is followed from its first character to its last: where it
begins, what is gathered on the way, and what is asked of the screen at its end.

An escape begins a sequence in every state but one.  Inside a control string it may be
half of the string's terminator; if the next character does not make it one, the sequence
begins with it all the same.  The state that is left out is the one after that escape.

## Main definitions

* `Escape`, `Escape.chars` — the kinds of escape sequences, and how they are written.
* `Screen.cursorFinals`, `Screen.eraseFinals`, `Screen.knownFinals` — the final characters of
  the control sequences that a screen knows.
* `Csi.read`, `Csi.ofBody` — what is gathered of the body of a control sequence.

## Main results

* `Terminal.feed_escape` — an escape and a character begin a sequence.
* `Terminal.feed_control`, `Terminal.feed_designation`, `Terminal.feed_short`,
  `Terminal.feed_string` — what each kind of sequence does, all in all.
-/

namespace ConsoleReplay

/-- An escape sequence, told by its parts.  It is any that is complete, and not only the ones that a
screen knows. -/
inductive Escape
  /-- A control sequence: its body holds the parameters. -/
  | control (body : List Char) (final : Char)
  /-- A sequence with intermediate characters, such as the choice of a character set. -/
  | designation (intermediates : List Char) (final : Char)
  /-- A sequence of two characters. -/
  | short (final : Char)
  /-- A control string: a character that opens it, a payload, and what ends it. -/
  | string (opener : Char) (payload ending : List Char)
  deriving DecidableEq, Repr

namespace Escape

/-- A character of the body of a control sequence. -/
def isBody (c : Char) : Bool := 0x20 ≤ c.toNat && c.toNat ≤ 0x3f

/-- A character of the parameters of a control sequence. -/
def isParam (c : Char) : Bool := c.isDigit || c == ';'

/-- A final character of a control sequence. -/
def isFinal (c : Char) : Bool := 0x40 ≤ c.toNat && c.toNat ≤ 0x7e

/-- A final character of the other sequences. -/
def isShortFinal (c : Char) : Bool := 0x30 ≤ c.toNat && c.toNat ≤ 0x7e

/-- The characters that open a control string. -/
def openers : List Char := [']', 'P', 'X', '^', '_']

/-- The characters that no payload holds: those that end a control string, or begin what
ends it. -/
def stringBreaks : List Char := ['\x07', '\x1b', '\x18', '\x1a', '\r', '\n']

/-- What ends a control string without acting: the bell, the terminator, cancel and
substitute. -/
def endings : List (List Char) := [['\x07'], ['\x1b', '\\'], ['\x18'], ['\x1a']]

/-- How an escape sequence is written. -/
def chars : Escape → List Char
  | .control body final => '\x1b' :: '[' :: (body ++ [final])
  | .designation intermediates final => '\x1b' :: (intermediates ++ [final])
  | .short final => ['\x1b', final]
  | .string opener payload ending => '\x1b' :: opener :: (payload ++ ending)

theorem isBody_iff {c : Char} : isBody c = true ↔ 0x20 ≤ c.toNat ∧ c.toNat ≤ 0x3f := Text.within_iff

theorem isFinal_iff {c : Char} : isFinal c = true ↔ 0x40 ≤ c.toNat ∧ c.toNat ≤ 0x7e :=
  Text.within_iff

theorem isShortFinal_iff {c : Char} :
    isShortFinal c = true ↔ 0x30 ≤ c.toNat ∧ c.toNat ≤ 0x7e := Text.within_iff

theorem le_toNat_of_mem_openers {c : Char} (h : c ∈ openers) : 0x40 ≤ c.toNat := by
  simp only [openers, List.mem_cons, List.not_mem_nil, or_false] at h
  rcases h with rfl | rfl | rfl | rfl | rfl <;> decide

theorem isParam_iff {c : Char} : isParam c = true ↔ c.isDigit = true ∨ c = ';' := by
  rw [isParam, Bool.or_eq_true, beq_iff_eq]

theorem isBody_of_isParam {c : Char} (h : isParam c = true) : isBody c = true := by
  rw [isBody_iff]
  rcases isParam_iff.1 h with hdigit | rfl
  · have hcode := Text.isDigit_iff.1 hdigit
    omega
  · decide

end Escape

/-! ### Final characters -/

namespace Screen

/-- The final characters of cursor moves. -/
def cursorFinals : List Char := ['A', 'B', 'C', 'D', 'E', 'F', 'G', 'H', 'd', 'f']

/-- The final characters of erases. -/
def eraseFinals : List Char := ['J', 'K']

/-- The final characters of the control sequences that a screen knows. -/
def knownFinals : List Char := 'm' :: (cursorFinals ++ eraseFinals)

theorem moveCursor?_of_notMem (s : Screen) {final : Char} (h : final ∉ cursorFinals)
    (params : List Nat) : s.moveCursor? final params = none := by
  unfold moveCursor?
  dsimp only
  split
  all_goals first
    | exact absurd (by decide) h
    | rfl

theorem sequence?_of_mem_cursorFinals (s : Screen) {final : Char} (h : final ∈ cursorFinals)
    (params : List Nat) : s.sequence? final params = s.moveCursor? final params := by
  simp only [cursorFinals, List.mem_cons, List.not_mem_nil, or_false] at h
  rcases h with rfl | rfl | rfl | rfl | rfl | rfl | rfl | rfl | rfl | rfl <;> rfl

theorem sequence?_of_mem_eraseFinals (s : Screen) {final : Char} (h : final ∈ eraseFinals)
    (params : List Nat) : s.sequence? final params = s.erase? final params := by
  simp only [eraseFinals, List.mem_cons, List.not_mem_nil, or_false] at h
  rcases h with rfl | rfl <;> rfl

/-- A final character that is not known asks for nothing. -/
theorem sequence?_of_notMem (s : Screen) {final : Char} (h : final ∉ knownFinals)
    (params : List Nat) : s.sequence? final params = none := by
  unfold sequence?
  split
  all_goals first
    | exact absurd (by decide) h
    | rfl

end Screen

/-! ### The body of a control sequence -/

namespace Csi

/-- Take one more character of the body. -/
def read (seq : Csi) (c : Char) : Csi :=
  if c.isDigit then seq.digit c
  else if c = ';' then seq.separate
  else if c = '?' && seq.params.isEmpty && seq.current.isNone then { seq with isPrivate := true }
  else { seq with isUnsupported := true }

/-- What is gathered of a body. -/
def ofBody (body : List Char) : Csi := body.foldl read empty

end Csi

namespace Decoder

open Escape

theorem isIntermediate_iff {c : Char} :
    isIntermediate c = true ↔ 0x20 ≤ c.toNat ∧ c.toNat ≤ 0x2f := Text.within_iff

/-- The characters that open a control string, as the decoder asks for them. -/
theorem opens_iff {c : Char} :
    (c = ']' || c = 'P' || c = 'X' || c = '^' || c = '_') = true ↔ c ∈ openers := by
  simp only [openers, List.mem_cons, List.not_mem_nil, or_false, Bool.or_eq_true,
    decide_eq_true_eq, or_assoc]

/-- A character of the body is gathered. -/
theorem inCsi_of_isBody (seq : Csi) {c : Char} (h : isBody c = true) :
    inCsi seq c = (.csi (seq.read c), none) := by
  have hcode := isBody_iff.1 h
  simp only [inCsi, Csi.read]
  split
  · rfl
  split
  · rfl
  split
  · rfl
  -- What is no parameter lies above the digits or below them.
  next hdigit _ _ =>
    have hmark : ((0x3a ≤ c.toNat && c.toNat ≤ 0x3f) || isIntermediate c) = true := by
      have hcode' : ¬ (0x30 ≤ c.toNat ∧ c.toNat ≤ 0x39) :=
        fun hlt => hdigit (Text.isDigit_iff.2 hlt)
      rw [Bool.or_eq_true, Text.within_iff, isIntermediate_iff]
      omega
    rw [if_pos hmark]

/-- A final character completes the sequence. -/
theorem inCsi_of_isFinal (seq : Csi) {c : Char} (h : isFinal c = true) :
    inCsi seq c = (.ground, seq.complete c) := by
  have hcode := isFinal_iff.1 h
  -- A final character lies above all that a body is made of, so none of the tests before holds.
  have hdigit : ¬ c.isDigit = true := by
    rw [Text.isDigit_iff]
    omega
  have hsemicolon : ¬ c = ';' := by
    rintro rfl
    exact absurd hcode (by decide)
  have hquestion : ¬ (c = '?' && seq.params.isEmpty && seq.current.isNone) = true := by
    simp only [Bool.and_eq_true, decide_eq_true_eq, not_and]
    rintro ⟨rfl, -⟩
    exact absurd hcode (by decide)
  have hmark : ¬ ((0x3a ≤ c.toNat && c.toNat ≤ 0x3f) || isIntermediate c) = true := by
    rw [Bool.or_eq_true, Text.within_iff, isIntermediate_iff]
    omega
  have hfinal : (0x40 ≤ c.toNat && c.toNat ≤ 0x7e) = true := h
  rw [inCsi, if_neg hdigit, if_neg hsemicolon, if_neg hquestion, if_neg hmark, if_pos hfinal]

/-- An escape begins a sequence, or may end a string. -/
theorem step_escape {d : Decoder} (h : d ≠ .controlStringEscape) :
    d.step '\x1b' = (.escape, none) ∨ d.step '\x1b' = (.controlStringEscape, none) := by
  cases d with
  | controlString length => exact .inr rfl
  | controlStringEscape => exact absurd rfl h
  | ground => exact .inl rfl
  | escape => exact .inl rfl
  | escapeIntermediate => exact .inl rfl
  | csi seq => exact .inl rfl

/-- After an escape a printable character is read in the same way, whether the escape
began a sequence or might have ended a string. -/
theorem step_after_escape {c : Char} (h : 0x20 ≤ c.toNat) :
    step .escape c = (afterEscape c, none)
      ∧ step .controlStringEscape c = (afterEscape c, none) := by
  constructor
  · rw [step, if_neg (by omega)]
  · rw [step]
    split
    · next hc =>
      -- The terminator of a string is a sequence of two characters too.
      subst hc
      rfl
    · rfl

theorem afterEscape_of_isIntermediate {c : Char} (h : isIntermediate c = true) :
    afterEscape c = .escapeIntermediate := by
  have hcode := isIntermediate_iff.1 h
  have hbracket : ¬ c = '[' := by
    rintro rfl
    exact absurd hcode (by decide)
  have hopener : c ∉ openers := by
    intro hc
    have hopens := le_toNat_of_mem_openers hc
    omega
  rw [afterEscape, if_neg hbracket, if_neg (mt opens_iff.1 hopener), if_pos h]

theorem afterEscape_of_isShortFinal {c : Char} (h : isShortFinal c = true) (hbracket : c ≠ '[')
    (hopener : c ∉ openers) : afterEscape c = .ground := by
  have hcode := isShortFinal_iff.1 h
  have hintermediate : ¬ isIntermediate c = true := by
    rw [isIntermediate_iff]
    omega
  rw [afterEscape, if_neg hbracket, if_neg (mt opens_iff.1 hopener), if_neg hintermediate]

theorem afterEscape_of_mem_openers {c : Char} (h : c ∈ openers) :
    afterEscape c = .controlString 0 := by
  have hbracket : ¬ c = '[' := by
    rintro rfl
    exact absurd h (by decide)
  rw [afterEscape, if_neg hbracket, if_pos (opens_iff.2 h)]

/-- As long as there is room, a character of the payload is counted. -/
theorem inString_of_notMem {length : Nat} {c : Char} (h : c ∉ stringBreaks)
    (hlen : length + 1 ≤ maxStringLength) :
    inString length c = (.controlString (length + 1), none) := by
  simp only [stringBreaks, List.mem_cons, List.not_mem_nil, or_false, not_or] at h
  obtain ⟨hbell, hescape, hcancel, hsubstitute, hreturn, hfeed⟩ := h
  have habort : ¬ (c = '\x18' || c = '\x1a') = true := by simp [hcancel, hsubstitute]
  have hbreak : ¬ (c = '\r' || c = '\n') = true := by simp [hreturn, hfeed]
  rw [inString, if_neg hbell, if_neg hescape, if_neg habort, if_neg hbreak, if_neg (by omega)]

end Decoder

/-! ### Sequences on a terminal

What a sequence does is told in three parts: its opening leads to a state, its body stays there
and leaves the screen alone, and its last character leads back to the ground. -/

namespace Terminal

open Escape

theorem screen_step (t : Terminal) (c : Char) :
    (t.step c).screen = (t.decoder.step c).2.elim t.screen t.screen.perform := rfl

/-- A character that completes nothing leaves the screen alone. -/
theorem step_of_silent {t : Terminal} {c : Char} {d : Decoder}
    (h : t.decoder.step c = (d, none)) : t.step c = ⟨t.screen, d⟩ := by
  rw [Terminal.step, h]
  rfl

/-- Outside sequences a character that is no control is written. -/
theorem feed_glyph (s : Screen) {c : Char} (hlow : 0x20 ≤ c.toNat)
    (hhigh : c.toNat < 0x7f ∨ 0x9f < c.toNat) : feed ⟨s, .ground⟩ [c] = ⟨s.write c, .ground⟩ := by
  have hshape : ¬ (0x7f ≤ c.toNat && c.toNat ≤ 0x9f) = true := by
    rw [Text.within_iff]
    omega
  have hprint : Decoder.step .ground c = (.ground, some (.write c)) := by
    rw [Decoder.step, if_neg (by omega), Decoder.print, if_neg hshape]
  rw [feed_cons, feed_nil, Terminal.step, hprint]
  rfl

/-- **An escape and a printable character begin a sequence**, whatever was in progress:
only the escape of a terminator half received is excluded. -/
theorem feed_escape {t : Terminal} (h : t.decoder ≠ .controlStringEscape) {c : Char}
    (hc : 0x20 ≤ c.toNat) :
    t.feed ['\x1b', c] = ⟨t.screen, Decoder.afterEscape c⟩ := by
  obtain ⟨hescape, hstring⟩ := Decoder.step_after_escape hc
  rw [feed_cons, feed_cons, feed_nil]
  rcases Decoder.step_escape h with hstep | hstep
  · rw [step_of_silent hstep, step_of_silent hescape]
  · rw [step_of_silent hstep, step_of_silent hstring]

theorem feed_escape_cons {t : Terminal} (h : t.decoder ≠ .controlStringEscape) {c : Char}
    (hc : 0x20 ≤ c.toNat) (cs : List Char) :
    t.feed ('\x1b' :: c :: cs) = feed ⟨t.screen, Decoder.afterEscape c⟩ cs := by
  rw [← feed_escape h hc, ← feed_append]
  rfl

/-- The body of a control sequence is gathered, and nothing else happens. -/
theorem feed_body (s : Screen) (seq : Csi) {body : List Char}
    (h : ∀ c ∈ body, isBody c = true) :
    feed ⟨s, .csi seq⟩ body = ⟨s, .csi (body.foldl Csi.read seq)⟩ := by
  induction body generalizing seq with
  | nil => rfl
  | cons c body ih =>
    obtain ⟨hc, hbody⟩ := List.forall_mem_cons.1 h
    have hstep : Decoder.step (.csi seq) c = (.csi (seq.read c), none) := by
      have hcode := (isBody_iff.1 hc).1
      rw [Decoder.step, if_neg (by omega), Decoder.inCsi_of_isBody seq hc]
    rw [feed_cons, step_of_silent hstep, ih _ hbody, List.foldl_cons]

/-- Further intermediates are passed over. -/
theorem feed_intermediates (s : Screen) {cs : List Char}
    (h : ∀ c ∈ cs, Decoder.isIntermediate c = true) :
    feed ⟨s, .escapeIntermediate⟩ cs = ⟨s, .escapeIntermediate⟩ := by
  induction cs with
  | nil => rfl
  | cons c cs ih =>
    obtain ⟨hc, hcs⟩ := List.forall_mem_cons.1 h
    have hstep : Decoder.step .escapeIntermediate c = (.escapeIntermediate, none) := by
      have hcode := (Decoder.isIntermediate_iff.1 hc).1
      rw [Decoder.step, if_neg (by omega), if_pos hc]
    rw [feed_cons, step_of_silent hstep, ih hcs]

/-- The payload of a control string is counted, and nothing else happens.  It is shorter than the
bound and holds no character that ends it. -/
theorem feed_payload (s : Screen) {length : Nat} {payload : List Char}
    (h : ∀ c ∈ payload, c ∉ stringBreaks) (hlen : length + payload.length ≤ maxStringLength) :
    feed ⟨s, .controlString length⟩ payload = ⟨s, .controlString (length + payload.length)⟩ := by
  induction payload generalizing length with
  | nil => rfl
  | cons c payload ih =>
    obtain ⟨hc, hpayload⟩ := List.forall_mem_cons.1 h
    rw [List.length_cons] at hlen
    have hstep : Decoder.step (.controlString length) c = (.controlString (length + 1), none) :=
      Decoder.inString_of_notMem hc (by omega)
    have hnext : length + 1 + payload.length = length + (c :: payload).length := by
      rw [List.length_cons]
      omega
    rw [feed_cons, step_of_silent hstep, ih hpayload (by omega), hnext]

/-- What ends a control string leaves nothing of it behind. -/
theorem feed_ending (s : Screen) (length : Nat) {ending : List Char} (h : ending ∈ endings) :
    feed ⟨s, .controlString length⟩ ending = ⟨s, .ground⟩ := by
  simp only [endings, List.mem_cons, List.not_mem_nil, or_false] at h
  rcases h with rfl | rfl | rfl | rfl
  · rfl
  · rfl
  · rfl
  · rfl

section

variable {t : Terminal} (h : t.decoder ≠ .controlStringEscape)

include h

/-- A control sequence does what its body and its final character ask for. -/
theorem feed_control {body : List Char} {final : Char} (hbody : ∀ c ∈ body, isBody c = true)
    (hfinal : isFinal final = true) :
    t.feed (Escape.control body final).chars
      = ⟨((Csi.ofBody body).complete final).elim t.screen t.screen.perform, .ground⟩ := by
  have hstep : Decoder.step (.csi (Csi.ofBody body)) final
      = (.ground, (Csi.ofBody body).complete final) := by
    have hcode := (isFinal_iff.1 hfinal).1
    rw [Decoder.step, if_neg (by omega), Decoder.inCsi_of_isFinal _ hfinal]
  have hbracket : Decoder.afterEscape '[' = .csi .empty := rfl
  rw [chars, feed_escape_cons h (by decide), hbracket, feed_append, feed_body _ _ hbody,
    feed_cons, feed_nil, Terminal.step, ← Csi.ofBody, hstep]

/-- A sequence with intermediates does nothing. -/
theorem feed_designation {intermediates : List Char} {final : Char} (hne : intermediates ≠ [])
    (hmem : ∀ c ∈ intermediates, Decoder.isIntermediate c = true)
    (hfinal : isShortFinal final = true) :
    t.feed (Escape.designation intermediates final).chars = ⟨t.screen, .ground⟩ := by
  obtain ⟨c, rest, rfl⟩ := List.exists_cons_of_ne_nil hne
  obtain ⟨hc, hrest⟩ := List.forall_mem_cons.1 hmem
  -- After an intermediate a final character ends the sequence, and the decoder knows no such
  -- sequence.
  have hstep : Decoder.step .escapeIntermediate final = (.ground, none) := by
    have hcode := isShortFinal_iff.1 hfinal
    have hnot : ¬ Decoder.isIntermediate final = true := by
      rw [Decoder.isIntermediate_iff]
      omega
    rw [Decoder.step, if_neg (by omega), if_neg hnot]
  rw [chars, List.cons_append, feed_escape_cons h (Decoder.isIntermediate_iff.1 hc).1,
    Decoder.afterEscape_of_isIntermediate hc, feed_append, feed_intermediates _ hrest, feed_cons,
    feed_nil, step_of_silent hstep]

/-- A sequence of two characters does nothing. -/
theorem feed_short {final : Char} (hfinal : isShortFinal final = true)
    (hbracket : final ≠ '[') (hopener : final ∉ openers) :
    t.feed (Escape.short final).chars = ⟨t.screen, .ground⟩ := by
  have hcode := isShortFinal_iff.1 hfinal
  rw [chars, feed_escape h (by omega), Decoder.afterEscape_of_isShortFinal hfinal hbracket hopener]

/-- A control string does nothing, unless it is too long or broken off by a line break. -/
theorem feed_string {opener : Char} {payload ending : List Char} (hopener : opener ∈ openers)
    (hmem : ∀ c ∈ payload, c ∉ stringBreaks) (hlen : payload.length ≤ maxStringLength)
    (hending : ending ∈ endings) :
    t.feed (Escape.string opener payload ending).chars = ⟨t.screen, .ground⟩ := by
  have hcode : 0x20 ≤ opener.toNat := Nat.le_trans (by decide) (le_toNat_of_mem_openers hopener)
  have hroom : 0 + payload.length ≤ maxStringLength := by omega
  rw [chars, feed_escape_cons h hcode, Decoder.afterEscape_of_mem_openers hopener, feed_append,
    feed_payload _ hmem hroom, feed_ending _ _ hending]

end

end Terminal

end ConsoleReplay
