import ConsoleReplay.Proofs.Session.Classified
import Mathlib.Data.List.Forall2

/-!
# A session and its summary

A session counts its commands by the marks of its frames, a summary by the entries of its
timeline, and an entry also needs a command to tell.  That the two agree rests on what the
frames of a session say of themselves: one that is marked as a command always carries one.

## Main definitions

* `TimelineEntry.Tells e f` — an entry tells of a frame.

## Main results

* `timelineOf_cons` — the timeline of frames, frame by frame.
* `forall₂_timelineOf` — where every command carries its text, the timeline tells of the
  commands, one after the other.
* `Replayer.summarize_agrees` — **a session and its summary agree**.
-/

namespace ConsoleReplay

/-! ### The entries of a timeline -/

/-- An entry tells of a frame: of its command and its time, and of what the dialect recognises
in the command. -/
structure TimelineEntry.Tells (e : TimelineEntry) (f : Frame) : Prop where
  command : f.command? = some e.command
  timestamp : e.timestamp = f.timestamp
  isDialectCommand : e.isDialectCommand = f.isDialectCommand
  category : e.category = f.recognition?.bind Recognition.category

/-- A command that carries its text has an entry, which tells of it. -/
theorem Frame.exists_tells {f : Frame} (hmark : f.isCommand = true)
    (hcommand : f.command?.isSome = true) (next : Nat) :
    ∃ e, f.timelineEntry? next = some e ∧ e.Tells f := by
  obtain ⟨command, hsome⟩ := Option.isSome_iff_exists.1 hcommand
  unfold timelineEntry?
  rw [if_pos hmark, hsome, Option.map_some]
  exact ⟨_, rfl, hsome, rfl, rfl, rfl⟩

theorem Frame.timelineEntry?_of_not_isCommand {f : Frame} (hmark : f.isCommand = false)
    (next : Nat) : f.timelineEntry? next = none := by
  unfold timelineEntry?
  rw [if_neg (by rw [hmark]; exact Bool.false_ne_true)]

/-- The next frame, or else the end of the session, ends the time of a frame. -/
theorem timelineOf_cons (last : Nat) (f : Frame) (frames : List Frame) :
    timelineOf last (f :: frames)
      = (f.timelineEntry? (frames.head?.elim last Frame.timestamp)).toList
        ++ timelineOf last frames := by
  have hentries : timelineOf last (f :: frames)
      = ((f, frames.head?.elim last Frame.timestamp)
          :: frames.zip (frames.tail.map Frame.timestamp ++ [last])).filterMap
        fun entry => Frame.timelineEntry? entry.1 entry.2 := by
    -- The list of ends is the list of times without its first and with the end of the session,
    -- so what ends the first frame depends on whether there is a second.
    cases frames with
    | nil => rfl
    | cons g frames => rfl
  rw [hentries, List.filterMap_cons]
  dsimp only
  cases f.timelineEntry? (frames.head?.elim last Frame.timestamp) with
  | none => rfl
  | some e => rfl

/-- Where every command carries its text, the timeline tells of the commands, one after the
other. -/
theorem forall₂_timelineOf {frames : List Frame}
    (h : ∀ f ∈ frames, f.isCommand = true → f.command?.isSome = true) (last : Nat) :
    List.Forall₂ TimelineEntry.Tells (timelineOf last frames)
      (frames.filter Frame.isCommand) := by
  induction frames with
  | nil => exact .nil
  | cons f frames ih =>
    obtain ⟨hf, hframes⟩ := List.forall_mem_cons.1 h
    rw [timelineOf_cons]
    cases hmark : f.isCommand with
    | false =>
      rw [Frame.timelineEntry?_of_not_isCommand hmark, List.filter_cons_of_neg (by simp [hmark])]
      exact ih hframes
    | true =>
      -- A frame marked as a command without a text would have no entry and still be counted; the
      -- hypothesis excludes it.
      obtain ⟨e, he, htells⟩ :=
        f.exists_tells hmark (hf hmark) (frames.head?.elim last Frame.timestamp)
      rw [he, List.filter_cons_of_pos hmark]
      exact .cons htells (ih hframes)

/-- Entries that tell of frames belong to the dialect as often as the frames do. -/
theorem countP_isDialectCommand_of_forall₂ {entries : List TimelineEntry} {frames : List Frame}
    (h : List.Forall₂ TimelineEntry.Tells entries frames) :
    entries.countP TimelineEntry.isDialectCommand = frames.countP Frame.isDialectCommand := by
  induction h with
  | nil => rfl
  | cons htells _ ih => rw [List.countP_cons, List.countP_cons, ih, htells.isDialectCommand]

/-! ### Sessions -/

/-- A frame of a session that is marked as a command carries its text. -/
theorem Segmenter.command?_isSome_of_mem_segment {seg : Segmenter} {rows : List LogRow} {f : Frame}
    (hf : f ∈ (seg.segment rows).frames) (hmark : f.isCommand = true) :
    f.command?.isSome = true := by
  have hwf : f.WellFormed seg.dialect :=
    wellFormed_refine seg.policy (seg.wellFormed_frames (LogRow.inOrder rows)) f hf
  exact hwf.isCommand_iff_command.1 hmark

/-- **A session and its summary agree**, whatever the rows, the dialect, the policy and the
settings: on the length and on both counts, and the timeline tells of the commands of the
session, one entry for each, in order. -/
theorem Replayer.summarize_agrees (r : Replayer) (rows : List LogRow) :
    let session := r.parse rows
    let summary := r.summarize rows
    summary.totalDuration = session.totalDuration
      ∧ summary.commandCount = session.commandCount
      ∧ summary.dialectCommandCount = session.dialectCommandCount
      ∧ List.Forall₂ TimelineEntry.Tells summary.timeline session.commands
      ∧ session.commandCount = session.commands.length := by
  intro session summary
  have htells : List.Forall₂ TimelineEntry.Tells summary.timeline session.commands :=
    forall₂_timelineOf (fun _ hf => Segmenter.command?_isSome_of_mem_segment hf) _
  have hcommands : session.commandCount = session.commands.length := List.countP_eq_length_filter
  refine ⟨rfl, ?_, ?_, htells, hcommands⟩
  · exact htells.length_eq.trans hcommands.symm
  · -- The summary counts over its entries and the session over its frames, with the two
    -- conditions in the other order.
    calc
      summary.dialectCommandCount = session.commands.countP Frame.isDialectCommand :=
        countP_isDialectCommand_of_forall₂ htells
      _ = session.frames.countP fun f => f.isDialectCommand && f.isCommand := List.countP_filter
      _ = session.dialectCommandCount := by
        simp only [Bool.and_comm]
        rfl

/-- Two commands, one of them of the dialect, with what the first one printed between them. -/
theorem Replayer.summarize_agrees_on_two_commands :
    let r := Replayer.ofSettings {}
    let rows : List LogRow := [⟨1, ⟨17166, 100, 0⟩, true, "/ip route print\r"⟩,
      ⟨2, ⟨17166, 100, 250000000⟩, false, "0 A 10.0.0.0/8 ether1\r\n"⟩,
      ⟨3, ⟨17166, 103, 0⟩, true, "uptime\r"⟩]
    r.summarize rows = {
        totalDuration := 3000
        commandCount := 2
        dialectCommandCount := 1
        timeline := [⟨"/ip route print", 0, 250, true, some "ip"⟩,
          ⟨"uptime", 3000, 0, false, none⟩] }
      ∧ (r.parse rows).commandCount = 2
      ∧ (r.parse rows).dialectCommandCount = 1 := by
  intro r rows
  -- The sort does not reduce, so it is taken away before the session is evaluated.
  have hsorted : LogRow.inOrder rows = rows := List.mergeSort_of_pairwise (by decide)
  have hsummary : r.summarize rows = ⟨3000, 2, 1, [⟨"/ip route print", 0, 250, true, some "ip"⟩,
      ⟨"uptime", 3000, 0, false, none⟩]⟩ := by
    rw [summarize, parse, Segmenter.segment, hsorted]
    decide +kernel
  obtain ⟨-, hcommands, hdialect, -⟩ := summarize_agrees r rows
  rw [hsummary] at hcommands hdialect
  exact ⟨hsummary, hcommands.symm, hdialect.symm⟩

end ConsoleReplay
