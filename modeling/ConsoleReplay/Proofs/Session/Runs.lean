import ConsoleReplay.Proofs.Session.Grouping
import ConsoleReplay.Session.Refinement

/-!
# What merging makes of runs

Whether two frames in a row are merged is decided by these two frames alone, although a merging
compares the next frame with a block that has moved on in time.  So frames fall into longest runs of
linked frames before anything is merged, and merging puts one frame in the place of each run.

## Main definitions

* `Frame.LongestRuns policy frames runs` — frames cut into their longest runs of linked frames.
* `Frame.ofRun? run` — a run as one frame.

## Main results

* `Frame.longestRuns_iff` — frames can be cut into longest runs in one way.
* `Frame.ofRun?_of_gathers` — what fragments add up to is their run as one frame.
* `mergeFragments_append` — frames that are not linked are merged apart.
* `Refinement.perform_merge_eq_runs` — **merging puts one frame in the place of each run**.
-/

namespace ConsoleReplay

namespace Frame

/-- Frames cut into their longest runs: the frames in a row of a run are linked, and the last frame
of a run is not linked with the first of the next. -/
structure LongestRuns (policy : Policy) (frames : List Frame) (runs : List (List Frame)) :
    Prop where
  flatten_eq : runs.flatten = frames
  nil_notMem : [] ∉ runs
  linked : ∀ run ∈ runs, run.IsChain fun f g => linked policy f g = true
  apart : runs.IsChain fun run next =>
    ∃ hrun hnext, Frame.linked policy (run.getLast hrun) (next.head hnext) = false

/-- Frames can be cut into longest runs in one way. -/
theorem longestRuns_iff {policy : Policy} {frames : List Frame} {runs : List (List Frame)} :
    LongestRuns policy frames runs ↔ runs = frames.splitBy (Frame.linked policy) := by
  rw [eq_comm, List.splitBy_eq_iff]
  constructor
  · intro h
    exact ⟨h.flatten_eq.symm, h.nil_notMem, h.linked, h.apart⟩
  · rintro ⟨hflatten, hnil, hlinked, hapart⟩
    exact ⟨hflatten.symm, hnil, hlinked, hapart⟩

/-- A run as one frame: the first one, at the time of the last, with the contents of all of them one
after the other. -/
def ofRun? : List Frame → Option Frame
  | [] => none
  | first :: rest => some { first with
      timestamp := ((first :: rest).getLast (List.cons_ne_nil first rest)).timestamp
      rawContent := String.join ((first :: rest).map (·.rawContent))
      cleanedContent := String.join ((first :: rest).map (·.cleanedContent))
      styledContent := String.join ((first :: rest).map (·.styledContent)) }

theorem ofRun?_singleton (f : Frame) : ofRun? [f] = some f := by
  simp [ofRun?]

/-- What fragments add up to is their run as one frame. -/
theorem ofRun?_of_gathers {run : List Frame} {f : Frame} (h : Gathers run f) :
    ofRun? run = some f := by
  induction h with
  | single f => exact ofRun?_singleton f
  | @append run f h g ih =>
    obtain ⟨first, rest, rfl⟩ := List.exists_cons_of_ne_nil h.ne_nil
    obtain rfl := Option.some.inj ih
    simp [ofRun?, Frame.append, String.join_append, String.append_assoc]

theorem map_ofRun?_of_gathers {runs : List (List Frame)} {frames : List Frame}
    (h : List.Forall₂ Gathers runs frames) : runs.map ofRun? = frames.map some := by
  induction h with
  | nil => rfl
  | cons hrun _ ih => rw [List.map_cons, ofRun?_of_gathers hrun, ih, List.map_cons]

end Frame

open ConsoleReplay.Frame (linked Gathers ofRun?)

/-- Frames that the same frames were merged from are the same. -/
theorem eq_of_map_ofRun? {runs : List (List Frame)} {frames frames' : List Frame}
    (h : runs.map ofRun? = frames.map some) (h' : runs.map ofRun? = frames'.map some) :
    frames = frames' :=
  List.map_injective_iff.2 (fun _ _ => Option.some.inj) (h.symm.trans h')

/-- Merging puts one frame in the place of each run. -/
theorem map_ofRun?_splitBy (policy : Policy) (frames : List Frame) :
    (frames.splitBy (linked policy)).map ofRun? = (mergeFragments policy frames).map some :=
  Frame.map_ofRun?_of_gathers (forall₂_mergeFragments policy frames)

theorem mergeFragments_singleton (policy : Policy) (f : Frame) :
    mergeFragments policy [f] = [f] := by
  refine eq_of_map_ofRun? (map_ofRun?_splitBy policy [f]) ?_
  exact congrArg (fun frame => [frame]) (Frame.ofRun?_singleton f)

/-- Frames that are not linked are merged apart. -/
theorem mergeFragments_append {policy : Policy} {before after : List Frame}
    (h : ∀ last ∈ before.getLast?, ∀ next ∈ after.head?, linked policy last next = false) :
    mergeFragments policy (before ++ after)
      = mergeFragments policy before ++ mergeFragments policy after := by
  refine eq_of_map_ofRun? (map_ofRun?_splitBy policy (before ++ after)) ?_
  rw [List.splitBy_append h, List.map_append, map_ofRun?_splitBy, map_ofRun?_splitBy,
    List.map_append]

/-- A frame that is linked with neither of its neighbours stays as it is.  Cutting into runs can be
done on both sides of it. -/
theorem mergeFragments_append_cons {policy : Policy} {before after : List Frame} {f : Frame}
    (hbefore : ∀ last ∈ before.getLast?, linked policy last f = false)
    (hafter : ∀ next ∈ after.head?, linked policy f next = false) :
    mergeFragments policy (before ++ f :: after)
      = mergeFragments policy before ++ f :: mergeFragments policy after := by
  have hfront : ∀ last ∈ before.getLast?, ∀ next ∈ (f :: after).head?,
      linked policy last next = false := by
    rintro last hlast _ ⟨⟩
    exact hbefore last hlast
  have hback : ∀ last ∈ [f].getLast?, ∀ next ∈ after.head?, linked policy last next = false := by
    rintro _ ⟨⟩
    exact hafter
  rw [mergeFragments_append hfront, ← List.singleton_append, mergeFragments_append hback,
    mergeFragments_singleton, List.singleton_append]

namespace Refinement

/-- **Merging puts one frame in the place of each run.**  Frames can be cut into longest runs of
linked frames in one way.  Merging puts in the place of each run, in order, the first frame of the
run, at the time of the last, with the contents of all of them one after the other; so a frame that
is linked with neither of its neighbours stays as it is.  The count of merged frames grows by as
many as there are less. -/
theorem perform_merge_eq_runs (policy : Policy) (r : Refinement) :
    ∃ runs, (∀ runs', Frame.LongestRuns policy r.frames runs' ↔ runs' = runs)
      ∧ (r.perform policy .merge).frames.map some = runs.map ofRun?
      ∧ (∀ before f after, r.frames = before ++ f :: after →
          (∀ last ∈ before.getLast?, linked policy last f = false) →
          (∀ next ∈ after.head?, linked policy f next = false) →
          (r.perform policy .merge).frames
            = mergeFragments policy before ++ f :: mergeFragments policy after)
      ∧ (r.perform policy .merge).frames.length ≤ r.frames.length
      ∧ (r.perform policy .merge).merged
        = r.merged + (r.frames.length - (r.perform policy .merge).frames.length) := by
  have hcount := length_mergeFragments policy r.frames
  refine ⟨r.frames.splitBy (linked policy), fun _ => Frame.longestRuns_iff,
    (map_ofRun?_splitBy policy r.frames).symm, ?_, ?_, ?_⟩
  · -- The frame is a run of its own, so no run reaches over it and its two sides are merged
    -- apart.
    intro before f after hframes hbefore hafter
    rw [perform, hframes]
    exact mergeFragments_append_cons hbefore hafter
  · simp only [perform]
    omega
  · simp only [perform]
    omega

/-- Two pieces of a listing become one frame at the time of the second; the prompt after them stays
as it is, although it comes as quickly. -/
theorem perform_merge_eq_runs_of_listing :
    let output (timestamp : Nat) (text : String) (context : Option CommandContext) : Frame :=
      ⟨timestamp, .output, text, text, text, context, false⟩
    let prompt := output 300 "[admin@gw] > " (some { isPrompt := true })
    let r : Refinement := ⟨[output 100 "0 A 10.0.0.0/8\n" none, output 250 "1 D ether1\n" none,
      prompt], 0, 0⟩
    let policy := Policy.routerOs {}
    (r.perform policy .merge).frames
        = [output 250 "0 A 10.0.0.0/8\n1 D ether1\n" none, prompt]
      ∧ (r.perform policy .merge).merged = 1 := by
  intro output prompt r policy
  have hframes : (r.perform policy .merge).frames
      = [output 250 "0 A 10.0.0.0/8\n1 D ether1\n" none, prompt] := by decide +kernel
  obtain ⟨_, -, -, -, -, hmerged⟩ := perform_merge_eq_runs policy r
  rw [hframes] at hmerged
  exact ⟨hframes, hmerged⟩

end Refinement

end ConsoleReplay
