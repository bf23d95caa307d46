import ConsoleReplay.Proofs.Capture.Visible
import ConsoleReplay.Proofs.Session.Conservation
import ConsoleReplay.Replayer

/-!
# What frames say of themselves

A frame carries up to three marks — command, prompt, completion — with a command and what
is recognised in it.  They fit together: a command is typed and trimmed, and shows no line
break; a prompt is printed; only what is typed asks for a completion; a degraded frame says
nothing.  This holds of the frame of every row.  Merging keeps it, because a fragment that
may be merged is a printed text of which nothing is known, and dropping noise takes frames
away as they are.

## Main definitions

* `IsCommandLine command` — a command as it is typed into one line.
* `Frame.WellFormed d f` — the marks of a frame fit together.
* `Merging.WellFormed d m` — those of the frames of a merging do, and its block may be a
  fragment.

## Main results

* `Segmenter.isCommandLine_of_typedCommand?` — what counts as typed is a command line.
* `Segmenter.wellFormed_marks_frameOf` — the frame of a row is well formed.
* `Merging.WellFormed.take`, `wellFormed_mergeFragments` — a frame and a run keep it.
* `Segmenter.wellFormed_of_mem_segment` — **every frame of a session is well formed**.
-/

namespace ConsoleReplay

open Text (isBlank trim)

/-- A command as it is typed into one line: no stray keystroke, trimmed, and without
characters that break a line or begin an escape sequence. -/
structure IsCommandLine (command : String) : Prop where
  le_length : 2 ≤ command.length
  head_not_blank : ∀ c, command.toList.head? = some c → isBlank c = false
  last_not_blank : ∀ c, command.toList.getLast? = some c → isBlank c = false
  return_notMem : '\r' ∉ command.toList
  feed_notMem : '\n' ∉ command.toList
  escape_notMem : '\x1b' ∉ command.toList

namespace Frame

/-- The marks of a frame fit together, with each other and with its text. -/
structure WellFormed (d : Dialect) (f : Frame) : Prop where
  isCommand_iff_command : f.isCommand = true ↔ f.command?.isSome = true
  isCommand_iff_recognition : f.isCommand = true ↔ f.recognition?.isSome = true
  of_isCommand : f.isCommand = true → f.direction = .input ∧ f.isPrompt = false
    ∧ ∃ command, f.command? = some command ∧ IsCommandLine command
      ∧ f.recognition? = some (d.recognize command)
  of_isPrompt : f.isPrompt = true →
    f.direction = .output ∧ f.command? = none ∧ f.isTabCompletion = false
  isTabCompletion_iff : f.isTabCompletion = true ↔
    f.degraded = false ∧ f.direction = .input ∧ '\t' ∈ f.rawContent.toList
  of_degraded : f.degraded = true →
    f.cleanedContent = "" ∧ f.styledContent = "" ∧ f.context = none
  of_context : f.context.isSome = true →
    f.isCommand = true ∨ f.isPrompt = true ∨ f.isTabCompletion = true

/-- A frame of which nothing is known is well formed unless it was typed, or is degraded
and still has a text. -/
theorem wellFormed_of_context_eq_none {d : Dialect} {f : Frame} (hcontext : f.context = none)
    (htab : f.degraded = false → f.direction = .input → '\t' ∉ f.rawContent.toList)
    (hdegraded : f.degraded = true → f.cleanedContent = "" ∧ f.styledContent = "") :
    f.WellFormed d := by
  have hcommand : f.isCommand = false := by rw [isCommand, hcontext]; rfl
  have hprompt : f.isPrompt = false := by rw [isPrompt, hcontext]; rfl
  have hcompletion : f.isTabCompletion = false := by rw [isTabCompletion, hcontext]; rfl
  -- No mark is set, so a condition on a marked frame is empty.  Left is the one from the text to
  -- the mark, which the hypothesis on tabs takes care of.
  constructor
  case isCommand_iff_command => simp [hcommand, command?, hcontext]
  case isCommand_iff_recognition => simp [hcommand, recognition?, hcontext]
  case of_isCommand => simp [hcommand]
  case of_isPrompt => simp [hprompt]
  case isTabCompletion_iff =>
    rw [hcompletion]
    constructor
    · intro h
      cases h
    · rintro ⟨hfit, hinput, hmem⟩
      exact absurd hmem (htab hfit hinput)
  case of_degraded =>
    intro h
    exact ⟨(hdegraded h).1, (hdegraded h).2, hcontext⟩
  case of_context => simp [hcontext]

/-- A frame that could be analysed, and of which nothing is known. -/
theorem wellFormed_of_fit {d : Dialect} {f : Frame} (hfit : f.degraded = false)
    (hcontext : f.context = none) (htab : f.direction = .input → '\t' ∉ f.rawContent.toList) :
    f.WellFormed d := by
  refine wellFormed_of_context_eq_none hcontext (fun _ => htab) ?_
  intro hdegraded
  rw [hfit] at hdegraded
  cases hdegraded

end Frame

/-! ### The frame of one row -/

namespace Segmenter

variable {seg : Segmenter}

/-- What counts as typed is a command line.  The text before the first break shows no
break: plain text holds no carriage return, and a line feed only if one was captured. -/
theorem isCommandLine_of_typedCommand? {cs : List Char} {command : String}
    (h : typedCommand? cs = some command) : IsCommandLine command := by
  unfold typedCommand? at h
  dsimp only at h
  split at h
  case isFalse => cases h
  case isTrue hlong =>
    obtain rfl := Option.some.inj h
    have hlength := (Bool.and_eq_true_iff.1 hlong).2
    have hfeed : '\n' ∉ cs.takeWhile fun c => !(c == '\r' || c == '\n') := by
      intro hmem
      have hstops := List.all_eq_true.1 List.all_takeWhile '\n' hmem
      cases hstops
    -- A control character in the command would be a tab or a line feed.
    have hcontrol {c : Char} (hc : Capture.isControl c = true) (htab : c ≠ '\t') : c ∉
        trim (Capture.plainChars (cs.takeWhile fun c => !(c == '\r' || c == '\n'))) := by
      intro hmem
      rcases Capture.mem_plainChars (Text.mem_of_mem_trim hmem) with hplain | rfl | ⟨-, hfed⟩
      · rw [hc] at hplain
        cases hplain
      · exact htab rfl
      · exact hfeed hfed
    constructor
    case le_length =>
      rw [String.length_ofList]
      exact of_decide_eq_true hlength
    all_goals simp only [String.toList_ofList]
    case head_not_blank => exact fun c => Text.not_blank_of_head?_trim
    case last_not_blank => exact fun c => Text.not_blank_of_getLast?_trim
    case return_notMem => exact hcontrol rfl (by decide)
    case feed_notMem => exact hcontrol rfl (by decide)
    case escape_notMem => exact hcontrol rfl (by decide)

/-- A typed row that can be analysed gives a well formed frame. -/
theorem wellFormed_of_input {f : Frame} (hfit : f.degraded = false) (hinput : f.direction = .input)
    (hcontext : f.context = seg.inputContext? f.rawContent) : f.WellFormed seg.dialect := by
  unfold inputContext? at hcontext
  dsimp only at hcontext
  have htab : f.rawContent.toList.contains '\t' = true ↔ '\t' ∈ f.rawContent.toList :=
    List.contains_iff_mem
  -- Of a typed row three things can be known, and the command comes first: only a row that is no
  -- command line is asked for a tab.
  split at hcontext
  case h_1 command htyped =>
    have hline := isCommandLine_of_typedCommand? htyped
    constructor
    case isCommand_iff_command => simp [Frame.isCommand, Frame.command?, hcontext]
    case isCommand_iff_recognition => simp [Frame.isCommand, Frame.recognition?, hcontext]
    case of_isCommand =>
      intro _
      refine ⟨hinput, by simp [Frame.isPrompt, hcontext], command, ?_, hline, ?_⟩
      · simp [Frame.command?, hcontext]
      · simp [Frame.recognition?, hcontext]
    case of_isPrompt => simp [Frame.isPrompt, hcontext]
    case isTabCompletion_iff => simp [Frame.isTabCompletion, hcontext, hfit, hinput]
    case of_degraded => simp [hfit]
    case of_context =>
      intro _
      left
      simp [Frame.isCommand, hcontext]
  case h_2 htyped =>
    split at hcontext
    case isTrue hcontains =>
      constructor
      case isCommand_iff_command => simp [Frame.isCommand, Frame.command?, hcontext]
      case isCommand_iff_recognition => simp [Frame.isCommand, Frame.recognition?, hcontext]
      case of_isCommand => simp [Frame.isCommand, hcontext]
      case of_isPrompt => simp [Frame.isPrompt, hcontext]
      case isTabCompletion_iff =>
        simp [Frame.isTabCompletion, hcontext, hfit, hinput, htab.1 hcontains]
      case of_degraded => simp [hfit]
      case of_context =>
        intro _
        right; right
        simp [Frame.isTabCompletion, hcontext]
    case isFalse hcontains =>
      refine Frame.wellFormed_of_fit hfit hcontext ?_
      intro _ hmem
      exact hcontains (htab.2 hmem)

/-- A printed row that can be analysed gives a well formed frame. -/
theorem wellFormed_of_output {f : Frame} (hfit : f.degraded = false)
    (houtput : f.direction = .output) (hcontext : f.context = seg.outputContext? f.cleanedContent) :
    f.WellFormed seg.dialect := by
  unfold outputContext? at hcontext
  dsimp only at hcontext
  -- A printed row can only be a prompt.
  split at hcontext
  case isTrue hprompt =>
    constructor
    case isCommand_iff_command => simp [Frame.isCommand, Frame.command?, hcontext]
    case isCommand_iff_recognition => simp [Frame.isCommand, Frame.recognition?, hcontext]
    case of_isCommand => simp [Frame.isCommand, hcontext]
    case of_isPrompt => simp [Frame.command?, Frame.isTabCompletion, hcontext, houtput]
    case isTabCompletion_iff => simp [Frame.isTabCompletion, hcontext, houtput]
    case of_degraded => simp [hfit]
    case of_context =>
      intro _
      right; left
      simp [Frame.isPrompt, hcontext]
  case isFalse hprompt =>
    refine Frame.wellFormed_of_fit hfit hcontext ?_
    intro hinput
    rw [houtput] at hinput
    cases hinput

/-- The frame of a row is well formed. -/
theorem wellFormed_marks_frameOf (seg : Segmenter) (start : Instant) (row : LogRow) :
    (seg.frameOf start row).WellFormed seg.dialect := by
  cases hunfit : seg.isUnfit row with
  | true =>
    rw [frameOf_of_unfit hunfit]
    refine Frame.wellFormed_of_context_eq_none rfl ?_ ?_
    · intro hfit
      cases hfit
    · intro _
      exact ⟨rfl, rfl⟩
  | false =>
    rw [frameOf_of_fit hunfit]
    cases hinput : row.isInput with
    | true =>
      refine wellFormed_of_input rfl ?_ ?_
      · rw [directionOf, hinput]
        rfl
      · rfl
    | false =>
      refine wellFormed_of_output rfl ?_ ?_
      · rw [directionOf, hinput]
        rfl
      · rfl

end Segmenter

/-! ### Merging

A frame of which something is known is never a candidate, so two frames that become one have no
context, and neither has the frame that they become. -/

namespace Frame

variable {d : Dialect} {f : Frame}

/-- Of a frame that may be a fragment nothing is known. -/
theorem WellFormed.context_eq_none (h : f.WellFormed d) (hcand : f.isCandidate = true) :
    f.context = none := by
  simp only [isCandidate, isOutput, Bool.and_eq_true, Bool.not_eq_true', beq_iff_eq] at hcand
  obtain ⟨⟨⟨houtput, -⟩, hcommand⟩, hprompt⟩ := hcand
  cases hcontext : f.context with
  | none => rfl
  | some context =>
    -- A context bears one of three marks.  A candidate has neither of the first two, and the
    -- third is for typed frames only.
    rcases h.of_context (by rw [hcontext]; rfl) with hmark | hmark | hmark
    · rw [hcommand] at hmark
      cases hmark
    · rw [hprompt] at hmark
      cases hmark
    · obtain ⟨-, hinput, -⟩ := h.isTabCompletion_iff.1 hmark
      rw [houtput] at hinput
      cases hinput

/-- A fragment and the next one are well formed as one. -/
theorem WellFormed.append (h : f.WellFormed d) (hcand : f.isCandidate = true) (g : Frame) :
    (f.append g).WellFormed d := by
  have hcontext : (f.append g).context = none := h.context_eq_none hcand
  simp only [isCandidate, isOutput, Bool.and_eq_true, Bool.not_eq_true', beq_iff_eq] at hcand
  obtain ⟨⟨⟨houtput, hfit⟩, -⟩, -⟩ := hcand
  refine wellFormed_of_fit hfit hcontext ?_
  intro hinput
  have hinput' : f.direction = .input := hinput
  rw [houtput] at hinput'
  cases hinput'

end Frame

namespace Merging

variable {d : Dialect} {m : Merging} {f : Frame}

/-- The frames of a merging are well formed, and the block in the making may be a
fragment. -/
structure WellFormed (d : Dialect) (m : Merging) : Prop where
  close : ∀ f ∈ m.close, f.WellFormed d
  block : ∀ block, m.block = some block → block.frame.isCandidate = true

/-- The next frame keeps a merging well formed.  Two frames become one only if nothing is known of
either, and then nothing is known of what they make. -/
theorem WellFormed.take (h : m.WellFormed d) (hf : f.WellFormed d) (policy : Policy) :
    (m.take policy f).WellFormed d := by
  rw [Merging.take]
  split
  case isFalse =>
    constructor
    · exact List.forall_mem_cons.2 ⟨hf, h.close⟩
    · intro block hblock
      cases hblock
  case isTrue hcand =>
    cases hopen : m.block with
    | none =>
      have hdone : m.close = m.done := by rw [Merging.close, hopen]; rfl
      constructor
      · show ∀ g ∈ f :: m.done, g.WellFormed d
        rw [← hdone]
        exact List.forall_mem_cons.2 ⟨hf, h.close⟩
      · intro block hblock
        obtain rfl := Option.some.inj hblock
        exact hcand
    | some block =>
      have hclose : m.close = block.frame :: m.done := by rw [Merging.close, hopen]; rfl
      have hframes := h.close
      rw [hclose] at hframes
      obtain ⟨hframe, hdone⟩ := List.forall_mem_cons.1 hframes
      have hblock := h.block block hopen
      dsimp only
      split
      · constructor
        · exact List.forall_mem_cons.2 ⟨hframe.append hblock f, hdone⟩
        · intro block' hblock'
          obtain rfl := Option.some.inj hblock'
          -- What a frame may be does not depend on its texts.
          exact hblock
      · constructor
        · exact List.forall_mem_cons.2 ⟨hf, h.close⟩
        · intro block' hblock'
          obtain rfl := Option.some.inj hblock'
          exact hcand

theorem wellFormed_run {frames : List Frame} (policy : Policy)
    (h : ∀ f ∈ frames, f.WellFormed d) : (run policy frames).WellFormed d := by
  have fold (m : Merging) (hm : m.WellFormed d) : (frames.foldl (take policy) m).WellFormed d := by
    induction frames generalizing m with
    | nil => exact hm
    | cons f frames ih =>
      obtain ⟨hf, hframes⟩ := List.forall_mem_cons.1 h
      exact ih hframes _ (hm.take hf policy)
  refine fold _ ⟨List.forall_mem_nil _, ?_⟩
  intro block hblock
  cases hblock

end Merging

/-- Merging keeps frames well formed. -/
theorem wellFormed_mergeFragments {d : Dialect} {frames : List Frame} (policy : Policy)
    (h : ∀ f ∈ frames, f.WellFormed d) : ∀ f ∈ mergeFragments policy frames, f.WellFormed d := by
  intro f hf
  exact (Merging.wellFormed_run policy h).close f (List.mem_reverse.1 hf)

/-- Refining keeps frames well formed: dropping noise leaves them as they are. -/
theorem wellFormed_refine {d : Dialect} {frames : List Frame} (policy : Policy)
    (h : ∀ f ∈ frames, f.WellFormed d) : ∀ f ∈ refine policy frames, f.WellFormed d :=
  fun f hf => wellFormed_mergeFragments policy h f (List.mem_of_mem_filter hf)

/-! ### The frames of a session -/

namespace Segmenter

theorem wellFormed_frames (seg : Segmenter) (rows : List LogRow) :
    ∀ f ∈ seg.frames rows, f.WellFormed seg.dialect := by
  cases rows with
  | nil => exact List.forall_mem_nil _
  | cons first rows => exact List.forall_mem_map.2 fun row _ => seg.wellFormed_marks_frameOf _ row

/-- **Every frame of a session is well formed**, whatever its rows, the dialect, the policy
and the limit. -/
theorem wellFormed_of_mem_segment (seg : Segmenter) (rows : List LogRow) {f : Frame}
    (hf : f ∈ (seg.segment rows).frames) : f.WellFormed seg.dialect := by
  have hrows : ∀ g ∈ seg.frames (LogRow.inOrder rows), g.WellFormed seg.dialect := by
    rw [frames_inOrder]
    exact List.forall_mem_map.2 fun row _ => seg.wellFormed_marks_frameOf _ row
  rw [segment, ParsedSession.ofFrames, refine_eq] at hf
  -- Dropping noise leaves frames of the merging as they are.
  exact wellFormed_mergeFragments seg.policy hrows f (List.mem_of_mem_filter hf)

/-- A prompt and a typed command with a tab. -/
theorem wellFormed_of_mem_segment_command :
    let seg := (Replayer.ofSettings {}).segmenter
    let rows : List LogRow :=
      [⟨1, ⟨0, 0, 0⟩, false, "[admin@MikroTik] > "⟩, ⟨2, ⟨0, 1, 0⟩, true, "ip address\t\r"⟩]
    ∃ prompt command, (seg.segment rows).frames = [prompt, command]
      ∧ prompt.isPrompt = true ∧ prompt.WellFormed seg.dialect
      ∧ command.command? = some "ip address" ∧ command.isTabCompletion = true
      ∧ command.WellFormed seg.dialect := by
  intro seg rows
  -- The sort does not reduce, so it is taken away before the session is evaluated.
  have horder : LogRow.inOrder rows = rows := List.mergeSort_of_pairwise (by decide)
  have hmarks : (seg.segment rows).frames.map
      (fun f => (f.isPrompt, f.command?, f.isTabCompletion))
        = [(true, none, false), (false, some "ip address", true)] := by
    rw [segment, horder]
    decide +kernel
  obtain ⟨prompt, rest, hframes, hprompt, hrest⟩ := List.map_eq_cons_iff.1 hmarks
  obtain ⟨command, last, rfl, hcommand, hlast⟩ := List.map_eq_cons_iff.1 hrest
  obtain rfl := List.map_eq_nil_iff.1 hlast
  have hmem (f : Frame) (hf : f ∈ [prompt, command]) : f ∈ (seg.segment rows).frames := by
    rwa [hframes]
  refine ⟨prompt, command, hframes, congrArg Prod.fst hprompt, ?_,
    congrArg (·.2.1) hcommand, congrArg (·.2.2) hcommand, ?_⟩
  · exact seg.wellFormed_of_mem_segment rows (hmem prompt List.mem_cons_self)
  · exact seg.wellFormed_of_mem_segment rows (hmem command (by simp))

end Segmenter

end ConsoleReplay
