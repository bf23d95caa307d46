import ConsoleReplay.Proofs.Screen.Operation

/-!
# Screens that are counted in words

The columns and rows of a screen are counted in words of 64 bits, the parameters of a control
sequence in words of 16.  A size that is asked for is such a word, and so are the positions and
parameters that operations are given; distances have a sign.  Only a change of the size changes a
size, and a decoder holds every parameter at the largest word.  So in every run all that is counted
stays in words.

The size and the failure of a tab have this in common: what is written to a screen leaves them as
they are.  They are followed together.

## Main definitions

* `Screen.size s` — the numbers of columns and rows; `Terminal.Operation.sizeAfter` — what an
  operation makes of them.
* `Screen.lasting s` — the size, and whether a tab has failed.
* `Screen.InWords`, `Decoder.InWords`, `Terminal.InWords` — what is counted is a word.
* `Terminal.Operation.InWords op` — the arguments of an operation are words.

## Main results

* `Terminal.size_apply` — only a change of the size changes the size.
* `Screen.failed_tab`, `Screen.failed_perform` — only a tab without a stop makes a screen fail.
* `Decoder.InWords.step` — a decoder holds words, and words are what it hands over.
* `Terminal.InWords.apply`, `Terminal.InWords.run` — an operation and a run keep to words.
-/

namespace ConsoleReplay

/-! ### What lasts -/

namespace Screen

/-- The numbers of columns and rows. -/
def size (s : Screen) : Nat × Nat := (s.width, s.height)

/-- What lasts when a screen is written to: its size, which only a change of the size
changes, and whether the program failed, which only a tab can bring about. -/
def lasting (s : Screen) : (Nat × Nat) × Bool := (s.size, s.failed)

section

variable (s : Screen)

@[simp] theorem lasting_put (x y : Nat) (c : Char) : (s.put x y c).lasting = s.lasting := rfl

@[simp] theorem lasting_carriageReturn : s.carriageReturn.lasting = s.lasting := rfl

@[simp] theorem lasting_eraseLine (y : Nat) (extent : Extent) :
    (s.eraseLine y extent).lasting = s.lasting := rfl

@[simp] theorem lasting_lineFeed : s.lineFeed.lasting = s.lasting := by
  simp only [lineFeed]
  split <;> rfl

@[simp] theorem lasting_wrap : s.wrap.lasting = s.lasting := by
  rw [wrap]
  split
  · rw [lasting_lineFeed, lasting_carriageReturn]
  · rfl

@[simp] theorem lasting_advance : s.advance.lasting = s.lasting := by
  rw [advance]
  split <;> rfl

@[simp] theorem lasting_write (c : Char) : (s.write c).lasting = s.lasting := by
  rw [write]
  split
  · rfl
  · rw [lasting_advance, lasting_put, lasting_wrap]

/-- Filling is putting blanks one after the other, and a move of the cursor. -/
@[simp] theorem lasting_fillTo (stop : Nat) : (s.fillTo stop).lasting = s.lasting := by
  have hputs (t : Screen) (xs : List Nat) :
      (xs.foldl (fun t x => t.put x t.line ' ') t).lasting = t.lasting := by
    induction xs generalizing t with
    | nil => rfl
    | cons x xs ih => exact ih (t.put x t.line ' ')
  exact hputs s _

@[simp] theorem lasting_backspace : s.backspace.lasting = s.lasting := by
  simp only [backspace]
  split
  · rfl
  · split <;> rfl

@[simp] theorem lasting_eraseRows (ys : List Nat) : (s.eraseRows ys).lasting = s.lasting := by
  induction ys generalizing s with
  | nil => rfl
  | cons y ys ih => exact (ih (s.eraseLine y .all)).trans (s.lasting_eraseLine y .all)

@[simp] theorem lasting_eraseDisplay (extent : Extent) :
    (s.eraseDisplay extent).lasting = s.lasting := by
  cases extent with
  | toEnd => rw [eraseDisplay, lasting_eraseRows, lasting_eraseLine]
  | toStart => rw [eraseDisplay, lasting_eraseLine, lasting_eraseRows]
  | all => rw [eraseDisplay, lasting_eraseRows]

/-- A tab leaves the size alone, whether it finds a stop or fails. -/
theorem size_tab : s.tab.size = s.size :=
  s.tab_cases (P := fun t => t.size = s.size)
    (fun stop => congrArg Prod.fst (lasting_fillTo _ stop)) rfl

/-- **A tab fails where there is no next stop**, and a failure stays. -/
theorem failed_tab : s.tab.failed = true ↔ s.failed = true ∨ tabStop? s.column = none := by
  cases hstop : tabStop? s.column with
  | some stop =>
    have hkept : ({ s with wrapPending := false }.fillTo stop).failed = s.failed :=
      congrArg Prod.snd (lasting_fillTo _ stop)
    simp [tab_of_stop hstop, hkept]
  | none => simp [tab_of_no_stop hstop]

end

variable {s t : Screen}

theorem lasting_moveCursor? {final : Char} {params : List Nat}
    (h : s.moveCursor? final params = some t) : t.lasting = s.lasting := by
  simp only [moveCursor?] at h
  split at h
  all_goals cases h
  all_goals rfl

theorem lasting_erase? {final : Char} {params : List Nat} (h : s.erase? final params = some t) :
    t.lasting = s.lasting := by
  simp only [erase?] at h
  split at h
  all_goals cases h
  · exact lasting_eraseDisplay ..
  · rfl

theorem lasting_sequence? {final : Char} {params : List Nat}
    (h : s.sequence? final params = some t) : t.lasting = s.lasting := by
  simp only [sequence?] at h
  split at h
  all_goals first
    | exact lasting_moveCursor? h
    | exact lasting_erase? h
    | cases h
  rfl

/-- What is decided to change a screen, or else leaves it alone, keeps what lasts. -/
theorem lasting_getD {next : Option Screen} (h : ∀ t, next = some t → t.lasting = s.lasting) :
    (next.getD s).lasting = s.lasting := by
  cases next with
  | none => rfl
  | some t => exact h t rfl

/-- Every instruction but a tab leaves what lasts alone. -/
theorem lasting_perform (s : Screen) {instruction : Instruction} (h : instruction ≠ .tab) :
    (s.perform instruction).lasting = s.lasting := by
  cases instruction with
  | write c => exact s.lasting_write c
  | carriageReturn => rfl
  | lineFeed => exact s.lasting_lineFeed
  | backspace => exact s.lasting_backspace
  | tab => exact absurd rfl h
  | sequence final params => exact lasting_getD fun _ => lasting_sequence?

/-- An instruction leaves the size alone. -/
theorem size_perform (s : Screen) (instruction : Instruction) :
    (s.perform instruction).size = s.size := by
  by_cases htab : instruction = .tab
  · subst htab
    exact s.size_tab
  · exact congrArg Prod.fst (s.lasting_perform htab)

/-- An instruction fails only if it is a tab that has no stop. -/
theorem failed_perform (s : Screen) (instruction : Instruction) :
    (s.perform instruction).failed = true
      ↔ s.failed = true ∨ (instruction = .tab ∧ tabStop? s.column = none) := by
  by_cases htab : instruction = .tab
  · subst htab
    rw [perform, failed_tab, and_iff_right rfl]
  · have hkept : (s.perform instruction).failed = s.failed :=
      congrArg Prod.snd (s.lasting_perform htab)
    rw [hkept, or_iff_left fun h => htab h.1]

/-! ### Sizes that are words -/

/-- A screen in good order whose columns and rows are counted in words. -/
structure InWords (s : Screen) : Prop extends WellFormed s where
  width_lt : s.width < wordLimit
  height_lt : s.height < wordLimit

theorem inWords_resize (s : Screen) {width height : Nat} (hwidth : width < wordLimit)
    (hheight : height < wordLimit) : (s.resize width height).InWords where
  toWellFormed := wellFormed_resize s width height
  width_lt := Nat.max_lt.2 ⟨hwidth, by decide⟩
  height_lt := Nat.max_lt.2 ⟨hheight, by decide⟩

/-- Whatever else happens to a screen, its size is still a word. -/
theorem InWords.of_size_eq (h : s.InWords) (ht : t.WellFormed) (hsize : t.size = s.size) :
    t.InWords where
  toWellFormed := ht
  width_lt := Nat.lt_of_le_of_lt (Nat.le_of_eq (congrArg Prod.fst hsize)) h.width_lt
  height_lt := Nat.lt_of_le_of_lt (Nat.le_of_eq (congrArg Prod.snd hsize)) h.height_lt

namespace InWords

theorem put (h : s.InWords) (x y : Nat) (c : Char) : (s.put x y c).InWords :=
  h.of_size_eq (h.toWellFormed.put x y c) rfl

theorem carriageReturn (h : s.InWords) : s.carriageReturn.InWords :=
  h.of_size_eq h.toWellFormed.carriageReturn rfl

theorem wrap (h : s.InWords) : s.wrap.InWords :=
  h.of_size_eq h.toWellFormed.wrap (congrArg Prod.fst s.lasting_wrap)

theorem eraseLine (h : s.InWords) (y : Nat) (extent : Extent) : (s.eraseLine y extent).InWords :=
  h.of_size_eq (h.toWellFormed.eraseLine y extent) rfl

theorem eraseRows (h : s.InWords) (ys : List Nat) : (s.eraseRows ys).InWords :=
  h.of_size_eq (h.toWellFormed.eraseRows ys) (congrArg Prod.fst (s.lasting_eraseRows ys))

end InWords

end Screen

/-! ### Parameters that are words -/

namespace Csi

/-- Every parameter that was read is held at the largest word. -/
structure InWords (seq : Csi) : Prop where
  params_le : ∀ n ∈ seq.params, n ≤ maxParam
  current_le : ∀ n ∈ seq.current, n ≤ maxParam

theorem inWords_empty : empty.InWords :=
  ⟨List.forall_mem_nil _, fun _ h => absurd h (Option.not_mem_none _)⟩

namespace InWords

variable {seq : Csi}

theorem push (h : seq.InWords) {n : Nat} (hn : n ≤ maxParam) : (seq.push n).InWords := by
  rw [Csi.push]
  split
  · exact ⟨List.forall_mem_append.2 ⟨h.params_le, List.forall_mem_singleton.2 hn⟩, h.current_le⟩
  · exact h

theorem digit (h : seq.InWords) (c : Char) : (seq.digit c).InWords where
  params_le := h.params_le
  current_le := by
    rintro _ ⟨⟩
    exact Nat.min_le_left ..

theorem separate (h : seq.InWords) : seq.separate.InWords := by
  have hfront : InWords { seq with current := none } := ⟨h.params_le, inWords_empty.current_le⟩
  have hcurrent : seq.current.getD 0 ≤ maxParam := by
    cases hcur : seq.current with
    | none => exact Nat.zero_le _
    | some n => exact h.current_le n hcur
  exact hfront.push hcurrent

theorem allParams_le (h : seq.InWords) : ∀ n ∈ seq.allParams, n ≤ maxParam := by
  rw [allParams]
  split
  · next n hcur => exact (h.push (h.current_le n hcur)).params_le
  · exact h.params_le

end InWords

end Csi

/-- The parameters of a control sequence are words; other instructions have none. -/
def Instruction.InWords : Instruction → Prop
  | .sequence _ params => ∀ n ∈ params, n ≤ maxParam
  | _ => True

theorem Instruction.inWords_ofControl? (c : Char) :
    ∀ instruction ∈ Instruction.ofControl? c, instruction.InWords := by
  unfold Instruction.ofControl?
  split
  all_goals rintro _ ⟨⟩
  all_goals trivial

namespace Decoder

/-- The parameters of the control sequence in progress are words. -/
def InWords : Decoder → Prop
  | .csi seq => seq.InWords
  | _ => True

/-- What a character leads to: a decoder and an instruction whose parameters are words.  Both are
needed, since the instruction is carried out and the decoder goes on. -/
structure LeadsToWords (outcome : Decoder × Option Instruction) : Prop where
  decoder : outcome.1.InWords
  instruction : ∀ instruction ∈ outcome.2, instruction.InWords

theorem InWords.silent {d : Decoder} (h : d.InWords) : LeadsToWords (d, none) :=
  ⟨h, fun _ hnone => absurd hnone (Option.not_mem_none _)⟩

theorem inWords_afterEscape (c : Char) : (afterEscape c).InWords := by
  rw [afterEscape]
  split
  · exact Csi.inWords_empty
  · split
    · trivial
    · split <;> trivial

theorem InWords.control {d : Decoder} (h : d.InWords) (c : Char) : LeadsToWords (d.control c) := by
  rw [Decoder.control]
  split
  · exact silent trivial
  · split
    · exact silent trivial
    · exact ⟨h, Instruction.inWords_ofControl? c⟩

theorem leadsToWords_inString (length : Nat) (c : Char) : LeadsToWords (inString length c) := by
  simp only [inString]
  repeat' split
  · exact InWords.silent trivial
  · exact InWords.silent trivial
  · exact InWords.silent trivial
  · exact ⟨trivial, Instruction.inWords_ofControl? c⟩
  · exact InWords.silent trivial
  · exact InWords.silent trivial

/-- The instruction that a control sequence completes has the parameters that were read.  Both the
parameters that are complete and the one in progress were held at the bound when they were read. -/
theorem leadsToWords_inCsi {seq : Csi} (h : seq.InWords) (c : Char) :
    LeadsToWords (inCsi seq c) := by
  simp only [inCsi]
  repeat' split
  · exact InWords.silent (h.digit c)
  · exact InWords.silent h.separate
  · -- A mark at the front changes flags of the sequence only.
    exact InWords.silent (d := .csi _) ⟨h.params_le, h.current_le⟩
  · exact InWords.silent (d := .csi _) ⟨h.params_le, h.current_le⟩
  · -- The sequence is complete, and it may ask for nothing.
    refine ⟨trivial, ?_⟩
    dsimp only
    rw [Csi.complete]
    split
    · exact fun _ hnone => absurd hnone (Option.not_mem_none _)
    · rintro _ ⟨⟩
      exact h.allParams_le
  · exact InWords.silent trivial

/-- **A decoder keeps to words**: after a character its parameters are words, and so are those of
the instruction that the character completes. -/
theorem InWords.step {d : Decoder} (h : d.InWords) (c : Char) : LeadsToWords (d.step c) := by
  cases d with
  | ground =>
    rw [Decoder.step]
    split
    · exact h.control c
    · -- What is written has no parameters.
      refine ⟨trivial, ?_⟩
      dsimp only
      rw [print]
      split
      · exact fun _ hnone => absurd hnone (Option.not_mem_none _)
      · rintro _ ⟨⟩
        trivial
  | escape =>
    rw [Decoder.step]
    split
    · exact h.control c
    · exact silent (inWords_afterEscape c)
  | escapeIntermediate =>
    rw [Decoder.step]
    split
    · exact h.control c
    · refine silent ?_
      split <;> trivial
  | csi seq =>
    rw [Decoder.step]
    split
    · exact h.control c
    · exact leadsToWords_inCsi h c
  | controlString length => exact leadsToWords_inString length c
  | controlStringEscape =>
    rw [Decoder.step]
    -- Whatever comes after it, half a terminator completes nothing.
    refine silent ?_
    split
    · trivial
    · exact inWords_afterEscape c

end Decoder

/-! ### Runs that keep to words -/

namespace Terminal

theorem size_step (t : Terminal) (c : Char) : (t.step c).screen.size = t.screen.size := by
  simp only [step]
  cases (t.decoder.step c).2 with
  | none => rfl
  | some instruction => exact t.screen.size_perform instruction

theorem size_feed (t : Terminal) (cs : List Char) : (t.feed cs).screen.size = t.screen.size := by
  induction cs generalizing t with
  | nil => rfl
  | cons c cs ih => exact (ih (t.step c)).trans (t.size_step c)

/-- The size after an operation on a screen of a given size. -/
def Operation.sizeAfter (size : Nat × Nat) : Operation → Nat × Nat
  | .resize width height => (max width 1, max height 1)
  | _ => size

/-- Only a change of the size changes the size.  It follows the arguments of the operation and
nothing else of the terminal, so the size after a run is known without running it. -/
theorem size_apply (t : Terminal) (op : Operation) :
    (t.apply op).screen.size = op.sizeAfter t.screen.size := by
  -- What lasts through an operation is the size and whether the screen has failed.
  cases op with
  | write c => exact congrArg Prod.fst (t.screen.lasting_write c)
  | tab => exact t.screen.size_tab
  | lineFeed => exact congrArg Prod.fst t.screen.lasting_lineFeed
  | backspace => exact congrArg Prod.fst t.screen.lasting_backspace
  | eraseDisplay extent => exact congrArg Prod.fst (t.screen.lasting_eraseDisplay extent)
  | sequence final params =>
    exact congrArg Prod.fst (Screen.lasting_getD fun _ => Screen.lasting_sequence?)
  | moveCursor final params =>
    exact congrArg Prod.fst (Screen.lasting_getD fun _ => Screen.lasting_moveCursor?)
  | erase final params =>
    exact congrArg Prod.fst (Screen.lasting_getD fun _ => Screen.lasting_erase?)
  | feed cs => exact t.size_feed cs
  | _ => rfl

/-- The arguments of an operation are words: positions and sizes without a sign, distances with one,
and parameters of 16 bits. -/
def Operation.InWords : Operation → Prop
  | .put x y _ => x < wordLimit ∧ y < wordLimit
  | .moveTo x y => x < wordLimit ∧ y < wordLimit
  | .moveBy dx dy =>
    (leastSigned ≤ dx ∧ dx ≤ greatestSigned) ∧ leastSigned ≤ dy ∧ dy ≤ greatestSigned
  | .eraseLine y _ => y < wordLimit
  | .resize width height => width < wordLimit ∧ height < wordLimit
  | .sequence _ params => ∀ n ∈ params, n ≤ maxParam
  | .moveCursor _ params => ∀ n ∈ params, n ≤ maxParam
  | .erase _ params => ∀ n ∈ params, n ≤ maxParam
  | _ => True

/-- A terminal in good order whose counts are words. -/
structure InWords (t : Terminal) : Prop extends WellFormed t where
  width_lt : t.screen.width < wordLimit
  height_lt : t.screen.height < wordLimit
  params_inWords : t.decoder.InWords

theorem inWords_start {width height : Nat} (hwidth : width < wordLimit)
    (hheight : height < wordLimit) : (start width height).InWords where
  toWellFormed := wellFormed_start width height
  width_lt := Nat.max_lt.2 ⟨hwidth, by decide⟩
  height_lt := Nat.max_lt.2 ⟨hheight, by decide⟩
  params_inWords := trivial

namespace InWords

variable {t : Terminal}

theorem screen_inWords (h : t.InWords) : t.screen.InWords :=
  ⟨h.screen, h.width_lt, h.height_lt⟩

/-- What keeps the size keeps it in words. -/
theorem of_size_eq (h : t.InWords) {t' : Terminal} (ht : t'.WellFormed)
    (hsize : t'.screen.size = t.screen.size) (hparams : t'.decoder.InWords) : t'.InWords where
  toWellFormed := ht
  width_lt := (h.screen_inWords.of_size_eq ht.screen hsize).width_lt
  height_lt := (h.screen_inWords.of_size_eq ht.screen hsize).height_lt
  params_inWords := hparams

/-- One more character keeps a terminal to words. -/
theorem step (h : t.InWords) (c : Char) : (t.step c).InWords :=
  h.of_size_eq (h.toWellFormed.step c) (t.size_step c) (h.params_inWords.step c).decoder

theorem feed (h : t.InWords) (cs : List Char) : (t.feed cs).InWords := by
  induction cs generalizing t with
  | nil => exact h
  | cons c cs ih => exact ih (h.step c)

/-- An operation whose arguments are words keeps a terminal to words. -/
theorem apply (h : t.InWords) {op : Operation} (hop : op.InWords) : (t.apply op).InWords := by
  have hwell := h.toWellFormed.apply op
  have hsize := t.size_apply op
  cases op with
  | resize width height =>
    have hresized := t.screen.inWords_resize hop.1 hop.2
    exact ⟨hwell, hresized.width_lt, hresized.height_lt, h.params_inWords⟩
  | feed cs => exact h.feed cs
  | reset => exact h.of_size_eq hwell hsize trivial
  | _ => exact h.of_size_eq hwell hsize h.params_inWords

/-- So does a run. -/
theorem run (h : t.InWords) {ops : List Operation} (hops : ∀ op ∈ ops, op.InWords) :
    (t.run ops).InWords := by
  induction ops generalizing t with
  | nil => exact h
  | cons op ops ih =>
    obtain ⟨hop, hrest⟩ := List.forall_mem_cons.1 hops
    exact ih (h.apply hop) hrest

end InWords

end Terminal

end ConsoleReplay
