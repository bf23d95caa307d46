import ConsoleReplay.Proofs.Screen.Counted

/-!
# Cursor arithmetic at the limits

A run may ask for any size and give any arguments, as long as they are words.  Whatever state it
reaches, operations that count in words do what the operations of the program do, which count
without bounds.  Only a tab can leave the words, and only in the last eight columns that words can
number, which takes a screen of more than 2⁶⁴ − 8 columns.  There the program fails: an operation
that counts in words has no result exactly where the program's own raises the failure.

## Main definitions

* `Terminal.Fails t op` — an operation makes a tab where there is no next stop.
* `Counted.apply`, `Counted.run` — the operations on a terminal that count in words, and runs of
  them.

## Main results

* `Terminal.failed_apply` — an operation fails where it makes such a tab, and a failure stays.
* `Counted.apply_eq_some`, `Counted.apply_eq_none` — when an operation that counts in words has a
  result, and which one.
* `Counted.run_eq` — **a run that counts in words has a result unless the program fails**.
* `Screen.cursor_moveBy`, `Screen.column_tab` — where the cursor lands.
* `Terminal.counted_run` — **a run on screens of at most 2⁶⁴ − 8 columns** counts in words.
* `Terminal.counts_in_words` — **cursor arithmetic at the limits**, in every state that is reached.
* `Terminal.tab_overruns_words` — a tab that fails where there are columns left to go to.
-/

namespace ConsoleReplay

namespace Terminal

open Screen (tabStop?)

/-! ### Where an operation fails

A failure stays, so a text fails if one of its characters does, each taken in the state that those
before it leave. -/

/-- A text holds a tab that is read where there is no next stop.  The cursor may get there by
what stands before the tab, so the text is followed character by character. -/
def FeedFails : Terminal → List Char → Prop
  | _, [] => False
  | t, c :: cs =>
    ((t.decoder.step c).2 = some .tab ∧ tabStop? t.screen.column = none) ∨ FeedFails (t.step c) cs

/-- An operation makes a tab where there is no next stop, itself or in the text that it feeds. -/
def Fails (t : Terminal) : Operation → Prop
  | .tab => tabStop? t.screen.column = none
  | .feed cs => t.FeedFails cs
  | _ => False

/-- A character fails only if it completes a tab. -/
theorem failed_step (t : Terminal) (c : Char) :
    (t.step c).screen.failed = true
      ↔ t.screen.failed = true
        ∨ ((t.decoder.step c).2 = some .tab ∧ tabStop? t.screen.column = none) := by
  simp only [step]
  cases (t.decoder.step c).2 with
  | none => simp
  | some instruction =>
    rw [Option.some_inj]
    exact t.screen.failed_perform instruction

theorem failed_feed (t : Terminal) (cs : List Char) :
    (t.feed cs).screen.failed = true ↔ t.screen.failed = true ∨ t.FeedFails cs := by
  induction cs generalizing t with
  | nil => exact (or_iff_left not_false).symm
  | cons c cs ih => rw [feed_cons, ih, failed_step, FeedFails, or_assoc]

/-- **An operation fails where it makes a tab that has no stop**, and a failure stays: everything
but a tab leaves the flag as it is. -/
theorem failed_apply (t : Terminal) (op : Operation) :
    (t.apply op).screen.failed = true ↔ t.screen.failed = true ∨ t.Fails op := by
  have hkept {s : Screen} (h : s.lasting = t.screen.lasting) :
      s.failed = true ↔ t.screen.failed = true ∨ False := by
    rw [show s.failed = t.screen.failed from congrArg Prod.snd h, or_false]
  -- Only a tab and a text that holds one can raise the flag.
  cases op with
  | tab => exact t.screen.failed_tab
  | feed cs => exact t.failed_feed cs
  | write c => exact hkept (t.screen.lasting_write c)
  | lineFeed => exact hkept t.screen.lasting_lineFeed
  | backspace => exact hkept t.screen.lasting_backspace
  | eraseDisplay extent => exact hkept (t.screen.lasting_eraseDisplay extent)
  | sequence final params => exact hkept (Screen.lasting_getD fun _ => Screen.lasting_sequence?)
  | moveCursor final params =>
    exact hkept (Screen.lasting_getD fun _ => Screen.lasting_moveCursor?)
  | erase final params => exact hkept (Screen.lasting_getD fun _ => Screen.lasting_erase?)
  | _ => exact (or_false _).to_iff.symm

/-- Nothing takes a failure back. -/
theorem failed_run_of_failed {t : Terminal} (h : t.screen.failed = true) (ops : List Operation) :
    (t.run ops).screen.failed = true := by
  induction ops generalizing t with
  | nil => exact h
  | cons op ops ih => exact ih ((t.failed_apply op).2 (Or.inl h))

/-! ### Screens on which every column has a stop -/

/-- An operation leaves a screen on which every column has a stop after it.  Only a change of the
size can leave another one. -/
def Operation.LeavesStops : Operation → Prop
  | .resize width _ => width + Screen.tabWidth ≤ wordLimit
  | _ => True

theorem tabStop?_ne_none {s : Screen} (h : s.WellFormed)
    (hstops : s.width + Screen.tabWidth ≤ wordLimit) : tabStop? s.column ≠ none := by
  have hlt := h.column_lt
  rw [ne_eq, Screen.tabStop?_eq_none_iff]
  omega

theorem not_feedFails {t : Terminal} (h : t.WellFormed)
    (hstops : t.screen.width + Screen.tabWidth ≤ wordLimit) (cs : List Char) :
    ¬ t.FeedFails cs := by
  induction cs generalizing t with
  | nil => exact not_false
  | cons c cs ih =>
    have hwidth : (t.step c).screen.width = t.screen.width := congrArg Prod.fst (t.size_step c)
    rintro (⟨-, hnone⟩ | hlater)
    · exact tabStop?_ne_none h.screen hstops hnone
    · exact ih (h.step c) (by rwa [hwidth]) hlater

theorem not_fails {t : Terminal} (h : t.WellFormed)
    (hstops : t.screen.width + Screen.tabWidth ≤ wordLimit) (op : Operation) : ¬ t.Fails op := by
  cases op with
  | tab => exact tabStop?_ne_none h.screen hstops
  | feed cs => exact not_feedFails h hstops cs
  | _ => exact not_false

/-- A run in which every column has a stop after it does not fail.  A new size is the only thing
that could take the stops away. -/
theorem failed_run_of_stops {t : Terminal} (h : t.WellFormed) (hok : t.screen.failed = false)
    (hstops : t.screen.width + Screen.tabWidth ≤ wordLimit) {ops : List Operation}
    (hops : ∀ op ∈ ops, op.LeavesStops) : (t.run ops).screen.failed = false := by
  induction ops generalizing t with
  | nil => exact hok
  | cons op ops ih =>
    obtain ⟨hop, hrest⟩ := List.forall_mem_cons.1 hops
    have hwidth : (t.apply op).screen.width = (op.sizeAfter t.screen.size).1 :=
      congrArg Prod.fst (t.size_apply op)
    have hnext : (t.apply op).screen.width + Screen.tabWidth ≤ wordLimit := by
      rw [hwidth]
      cases op with
      | resize width height =>
        -- A width below one is raised to one, which is narrow enough.
        have hone : 1 + Screen.tabWidth ≤ wordLimit := by decide
        have hresized : width + Screen.tabWidth ≤ wordLimit := hop
        show max width 1 + Screen.tabWidth ≤ wordLimit
        omega
      | _ => exact hstops
    have hgoes : (t.apply op).screen.failed = false := by
      refine eq_false_of_ne_true fun hfailed => ?_
      rcases (t.failed_apply op).1 hfailed with hbefore | hnow
      · exact absurd (hok.symm.trans hbefore) Bool.false_ne_true
      · exact not_fails h hstops op hnow
    exact ih (h.apply op) hgoes hnext hrest

end Terminal

namespace Counted

/-! ### Runs

Up to the first failure a run that counts in words goes through the same terminals as one that
counts without bounds.  At the first failure it ends. -/

def step (t : Terminal) (c : Char) : Option Terminal := do
  let (decoder, instruction) := t.decoder.step c
  let screen ← instruction.elim (some t.screen) (perform t.screen)
  return ⟨screen, decoder⟩

def feed (t : Terminal) (cs : List Char) : Option Terminal := cs.foldlM step t

/-- The terminal after an operation that counts in words. -/
def apply (t : Terminal) : Terminal.Operation → Option Terminal
  | .put x y c => t.withScreen <$> put t.screen x y c
  | .write c => t.withScreen <$> write t.screen c
  | .tab => t.withScreen <$> tab t.screen
  | .carriageReturn => some (t.withScreen t.screen.carriageReturn)
  | .lineFeed => t.withScreen <$> lineFeed t.screen
  | .backspace => t.withScreen <$> backspace t.screen
  | .moveTo x y => t.withScreen <$> moveTo t.screen x y
  | .moveBy dx dy => t.withScreen <$> moveBy t.screen dx dy
  | .eraseLine y extent => t.withScreen <$> eraseLine t.screen y extent
  | .eraseDisplay extent => t.withScreen <$> eraseDisplay t.screen extent
  | .scrollUp => t.withScreen <$> Checked.scrollUp t.screen
  | .resize width height => t.withScreen <$> resize t.screen width height
  | .markClean => some (t.withScreen t.screen.markClean)
  | .sequence final params => t.withScreen <$> sequence t.screen final params
  | .moveCursor final params => t.withScreen <$> moveCursor t.screen final params
  | .erase final params => t.withScreen <$> erase t.screen final params
  | .feed cs => feed t cs
  | .reset => some t.reset

/-- The terminal after several operations that count in words. -/
def run (t : Terminal) (ops : List Terminal.Operation) : Option Terminal := ops.foldlM apply t

section Runs

variable {t : Terminal} (h : t.InWords)

include h

theorem step_eq {c : Char}
    (hstop : ¬ ((t.decoder.step c).2 = some .tab ∧ Screen.tabStop? t.screen.column = none)) :
    step t c = some (t.step c) := by
  have hwords := (h.params_inWords.step c).instruction
  simp only [step, Terminal.step]
  cases hinstruction : (t.decoder.step c).2 with
  | none => rfl
  | some instruction =>
    have hresult := perform_eq h.screen_inWords (hwords instruction hinstruction)
      fun hnone => hstop ⟨hinstruction.trans (congrArg some hnone.1), hnone.2⟩
    simp only [Option.elim_some, hresult, Option.bind_eq_bind, Option.bind_some]
    rfl

omit h in
theorem step_eq_none {c : Char} (htab : (t.decoder.step c).2 = some .tab)
    (hnone : Screen.tabStop? t.screen.column = none) : step t c = none := by
  simp only [step, htab, Option.elim_some, perform, tab_eq_none hnone]
  rfl

theorem feed_eq_some {cs : List Char} (hstop : ¬ t.FeedFails cs) :
    feed t cs = some (t.feed cs) := by
  induction cs generalizing t with
  | nil => rfl
  | cons c cs ih =>
    obtain ⟨hnow, hlater⟩ := not_or.1 hstop
    rw [feed, List.foldlM_cons, step_eq h hnow, Option.bind_eq_bind, Option.bind_some]
    exact ih (h.step c) hlater

/-- The first tab without a stop ends the text; what stands before it is read as usual. -/
theorem feed_eq_none {cs : List Char} (hfails : t.FeedFails cs) : feed t cs = none := by
  induction cs generalizing t with
  | nil => exact hfails.elim
  | cons c cs ih =>
    rw [feed, List.foldlM_cons]
    by_cases hnow : (t.decoder.step c).2 = some .tab ∧ Screen.tabStop? t.screen.column = none
    · rw [step_eq_none hnow.1 hnow.2]
      rfl
    · rw [step_eq h hnow, Option.bind_eq_bind, Option.bind_some]
      exact ih (h.step c) (hfails.resolve_left hnow)

/-- An operation that counts in words has a result unless it makes a tab without a stop, and the
result is that of the operation that counts without bounds. -/
theorem apply_eq_some {op : Terminal.Operation} (hop : op.InWords) (hstop : ¬ t.Fails op) :
    apply t op = some (t.apply op) := by
  -- The tab is the one operation that needs the assumption about a stop.
  have hs := h.screen_inWords
  cases op with
  | put x y c => rw [apply, put_eq hs]; rfl
  | write c => rw [apply, write_eq hs]; rfl
  | tab =>
    obtain ⟨stop, hsome⟩ := Option.ne_none_iff_exists'.1 hstop
    rw [apply, tab_eq hs hsome]
    rfl
  | carriageReturn => rfl
  | lineFeed => rw [apply, lineFeed_eq hs]; rfl
  | backspace => rw [apply, backspace_eq hs]; rfl
  | moveTo x y => rw [apply, moveTo_eq hs]; rfl
  | moveBy dx dy => rw [apply, moveBy_eq hs]; rfl
  | eraseLine y extent => rw [apply, eraseLine_eq hs]; rfl
  | eraseDisplay extent => rw [apply, eraseDisplay_eq hs]; rfl
  | scrollUp => rw [apply, Checked.scrollUp_eq hs.toWellFormed]; rfl
  | resize width height => rw [apply, resize_eq]; rfl
  | markClean => rfl
  | sequence final params => rw [apply, sequence_eq hs final hop]; rfl
  | moveCursor final params => rw [apply, moveCursor_eq hs final hop]; rfl
  | erase final params => rw [apply, erase_eq hs]; rfl
  | feed cs => exact feed_eq_some h hstop
  | reset => rfl

theorem apply_eq_none {op : Terminal.Operation} (hfails : t.Fails op) : apply t op = none := by
  cases op with
  | tab =>
    rw [apply, tab_eq_none hfails]
    rfl
  | feed cs => exact feed_eq_none h hfails
  | _ => exact hfails.elim

/-- **A run that counts in words has a result unless the program fails**, and it is the terminal
that the run of the program ends with. -/
theorem run_eq (hok : t.screen.failed = false) {ops : List Terminal.Operation}
    (hops : ∀ op ∈ ops, op.InWords) :
    run t ops = if (t.run ops).screen.failed then none else some (t.run ops) := by
  induction ops generalizing t with
  | nil =>
    rw [Terminal.run_nil, hok]
    rfl
  | cons op ops ih =>
    obtain ⟨hop, hrest⟩ := List.forall_mem_cons.1 hops
    rw [run, List.foldlM_cons, Terminal.run_cons]
    by_cases hfails : t.Fails op
    · -- The failure is still there at the end of the run.
      have hfailed := Terminal.failed_run_of_failed ((t.failed_apply op).2 (Or.inr hfails)) ops
      rw [apply_eq_none h hfails, hfailed]
      rfl
    · have hgoes : (t.apply op).screen.failed = false := by
        refine eq_false_of_ne_true fun hfailed => ?_
        have hbefore := ((t.failed_apply op).1 hfailed).resolve_right hfails
        exact absurd (hok.symm.trans hbefore) Bool.false_ne_true
      rw [apply_eq_some h hop hfails, Option.bind_eq_bind, Option.bind_some]
      exact ih (h.apply hop) hgoes hrest

end Runs

end Counted

/-! ### Where the cursor lands -/

namespace Screen

variable {s : Screen}

/-- A move by a distance ends at the exact sum, or on the edge that is nearest to it. -/
theorem cursor_moveBy (h : s.WellFormed) (dx dy : Int) :
    ((s.moveBy dx dy).column : Int) = max 0 (min (s.column + dx) (s.width - 1))
      ∧ ((s.moveBy dx dy).line : Int) = max 0 (min (s.line + dy) (s.height - 1)) := by
  have hwidth := h.width_pos
  have hheight := h.height_pos
  simp only [moveBy, moveTo, clampColumn, clampLine]
  omega

/-- A tab goes to the next multiple of eight, or to the last column if that comes first.  It stays
on its row. -/
theorem column_tab (h : s.WellFormed) {stop : Nat} (hstop : tabStop? s.column = some stop) :
    s.tab.column = min stop (s.width - 1) ∧ s.tab.line = s.line := by
  have hlt := h.column_lt
  -- A stop lies behind the cursor, so filling up to it never moves the cursor back.
  have hpast : s.column < stop := by
    rw [eq_of_tabStop?_eq_some hstop]
    omega
  obtain ⟨-, -, hkept, hline, -⟩ := frame_putAll { s with wrapPending := false }
    (List.range' s.column (s.clampColumn stop - s.column)) ' '
  rw [tab_of_stop hstop]
  refine ⟨?_, hline⟩
  have hcolumn : ({ s with wrapPending := false }.fillTo stop).column
      = max s.column (s.clampColumn stop) :=
    congrArg (max · (s.clampColumn stop)) hkept
  rw [hcolumn, clampColumn]
  omega

end Screen

namespace Terminal

/-- **A run on screens of at most 2⁶⁴ − 8 columns counts in words**: no sum, difference or product
leaves them, and the run is the one that counts without bounds. -/
theorem counted_run {width height : Nat} (hwidth : width + Screen.tabWidth ≤ wordLimit)
    (hheight : height < wordLimit) {ops : List Operation}
    (hops : ∀ op ∈ ops, op.InWords ∧ op.LeavesStops) :
    Counted.run (start width height) ops = some ((start width height).run ops) := by
  have hword : width < wordLimit := by
    rw [Screen.tabWidth] at hwidth
    omega
  have hstops : max width 1 + Screen.tabWidth ≤ wordLimit := by
    have hone : 1 + Screen.tabWidth ≤ wordLimit := by decide
    omega
  have hgoes : ((start width height).run ops).screen.failed = false :=
    failed_run_of_stops (wellFormed_start width height) rfl hstops fun op hop => (hops op hop).2
  rw [Counted.run_eq (inWords_start hword hheight) rfl fun op hop => (hops op hop).1, hgoes]
  rfl

/-- **Cursor arithmetic at the limits.**  Sizes are any words, and so are all arguments.  A run that
counts in words ends as the run of the program does, which counts without bounds, unless the program
fails; then it has no result.  In every state that is reached, an operation fails only if it makes a
tab in one of the last eight columns that words can number.  A move by a distance ends at the exact
sum or on the edge that is nearest to it.  A tab in any other column goes to the next multiple of
eight, or to the last column if that comes first, and does not fail. -/
theorem counts_in_words {width height : Nat} (hwidth : width < wordLimit)
    (hheight : height < wordLimit) {ops : List Operation} (hops : ∀ op ∈ ops, op.InWords) :
    let t := (start width height).run ops
    (Counted.run (start width height) ops = if t.screen.failed then none else some t)
      ∧ (∀ op : Operation, op.InWords →
        (¬ t.Fails op → Counted.apply t op = some (t.apply op)
            ∧ (t.apply op).screen.failed = t.screen.failed)
          ∧ (t.Fails op → Counted.apply t op = none ∧ (t.apply op).screen.failed = true))
      ∧ (∀ dx dy : Int,
          ((t.screen.moveBy dx dy).column : Int)
              = max 0 (min (t.screen.column + dx) (t.screen.width - 1))
            ∧ ((t.screen.moveBy dx dy).line : Int)
              = max 0 (min (t.screen.line + dy) (t.screen.height - 1)))
      ∧ (t.Fails .tab ↔ wordLimit ≤ t.screen.column + 8)
      ∧ (t.screen.column + 8 < wordLimit →
          ∃ stop, 8 ∣ stop ∧ t.screen.column < stop ∧ stop ≤ t.screen.column + 8
            ∧ t.screen.tab.column = min stop (t.screen.width - 1)
            ∧ t.screen.tab.line = t.screen.line) := by
  intro t
  -- All that is said of a state follows from its being in words, which the run keeps.
  have h : t.InWords := (inWords_start hwidth hheight).run hops
  refine ⟨Counted.run_eq (inWords_start hwidth hheight) rfl hops, fun op hop => ⟨?_, ?_⟩,
    Screen.cursor_moveBy h.screen, Screen.tabStop?_eq_none_iff, fun hnear => ?_⟩
  · intro hstop
    refine ⟨Counted.apply_eq_some h hop hstop, Bool.eq_iff_iff.2 ?_⟩
    rw [failed_apply, or_iff_left hstop]
  · intro hfails
    exact ⟨Counted.apply_eq_none h hfails, (t.failed_apply op).2 (Or.inr hfails)⟩
  · -- In front of the last eight columns the stop is a word.
    have hsome : Screen.tabStop? t.screen.column ≠ none :=
      fun hnone => absurd (Screen.tabStop?_eq_none_iff.1 hnone) (Nat.not_le_of_lt hnear)
    obtain ⟨stop, hstop⟩ := Option.ne_none_iff_exists'.1 hsome
    obtain ⟨hcolumn, hline⟩ := Screen.column_tab h.screen hstop
    have hmultiple := Screen.eq_of_tabStop?_eq_some hstop
    refine ⟨stop, ⟨t.screen.column / 8 + 1, ?_⟩, ?_, ?_, hcolumn, hline⟩
    · rw [hmultiple, Nat.mul_comm]
    · omega
    · omega

/-- The widest screen there is: distances that add up to more than a word take the cursor to the
last column, and a sequence takes it nineteen columns back. -/
theorem counts_in_words_widest :
    let ops : List Operation :=
      [.moveBy greatestSigned 0, .moveBy greatestSigned greatestSigned, .moveBy 7 0,
        .moveCursor 'D' [19]]
    let t := (start (wordLimit - 1) 2).run ops
    (wordLimit - 1 < wordLimit ∧ 2 < wordLimit ∧ ∀ op ∈ ops, op.InWords)
      ∧ t.screen.column = wordLimit - 21 ∧ t.screen.line = 1
      ∧ Counted.run (start (wordLimit - 1) 2) ops = some t
      ∧ Counted.apply t .tab = some (t.apply .tab)
      ∧ ((t.screen.moveBy 30 leastSigned).column : Int) = wordLimit - 2
      ∧ t.screen.tab.column = wordLimit - 16 := by
  intro ops t
  have hops : ∀ op ∈ ops, op.InWords := by
    refine List.forall_mem_cons.2 ⟨⟨by decide, by decide⟩, ?_⟩
    refine List.forall_mem_cons.2 ⟨⟨by decide, by decide⟩, ?_⟩
    refine List.forall_mem_cons.2 ⟨⟨by decide, by decide⟩, ?_⟩
    exact List.forall_mem_singleton.2 (List.forall_mem_singleton.2 (by decide))
  have hwidth : wordLimit - 1 < wordLimit := by decide
  have hheight : 2 < wordLimit := by decide
  have hcolumn : t.screen.column = wordLimit - 21 := by decide +kernel
  have hlast : t.screen.width = wordLimit - 1 := by decide +kernel
  have hgoes : t.screen.failed = false := by decide +kernel
  obtain ⟨hrun, hcounts, hmoves, hfails, htab⟩ := counts_in_words hwidth hheight hops
  have hnear : t.screen.column + 8 < wordLimit := by
    rw [hcolumn]
    decide
  obtain ⟨stop, ⟨k, rfl⟩, hafter, hnext, htarget, -⟩ := htab hnear
  refine ⟨⟨hwidth, hheight, hops⟩, hcolumn, by decide +kernel, ?_, ?_, ?_, ?_⟩
  · rw [hrun, hgoes]
    rfl
  · exact ((hcounts .tab trivial).1 (fun h => Nat.not_le_of_lt hnear (hfails.1 h))).1
  · rw [(hmoves 30 leastSigned).1, hcolumn, hlast]
    decide
  · rw [hcolumn, wordLimit] at hafter hnext
    rw [htarget, hlast, wordLimit]
    omega

/-- On the widest screen a tab in the last column but five fails, although there are columns left
to go to: its stop is no word. -/
theorem tab_overruns_words :
    let t := (start (wordLimit - 1) 1).run [.moveTo (wordLimit - 7) 0]
    t.screen.column = wordLimit - 7 ∧ t.screen.width = wordLimit - 1
      ∧ min ((t.screen.column / 8 + 1) * 8) (t.screen.width - 1) = wordLimit - 2
      ∧ Counted.apply t .tab = none
      ∧ (t.apply .tab).screen.failed = true ∧ (t.apply .tab).screen.column = wordLimit - 7 := by
  decide +kernel

end Terminal

end ConsoleReplay
