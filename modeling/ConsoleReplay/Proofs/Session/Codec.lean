import ConsoleReplay.Proofs.Json.Padding
import ConsoleReplay.Session.Encoding
import Mathlib.Logic.Relation

/-!
# Frames read back

What is written of frames is read back as it was: a field without a value is left out, and a
reader takes a field that is missing for one without a value.  It makes no difference to write
more than that, in any record of the frames: members of other names, and nulls for fields
without a value.

## Main definitions

* `Recognition.Pads`, `CommandContext.Pads`, `Frame.Pads` — one more thing in a record or in a
  record inside it.
* `Frame.ListPads` — one more thing in one of a list of frames.

## Main results

* `Recognition.ofJson?_toJson`, `CommandContext.ofJson?_toJson`, `Frame.ofJson?_toJson` — a
  record is read back.
* `Recognition.ofJson?_of_pads`, `CommandContext.ofJson?_of_pads`, `Frame.ofJson?_of_pads` — one
  more thing in it makes no difference.
* `Frame.listOfJson?_toJson` — **frames are read back**, and from whatever is written with more
  in it.
-/

namespace ConsoleReplay

open Json

/-! ### Values -/

/-- A list is read back if each of its values is. -/
theorem listOfJson?_array {α : Type} {read : Json → Option α} {write : α → Json} {xs : List α}
    (h : ∀ x ∈ xs, read (write x) = some x) :
    listOfJson? read (.array (xs.map write)) = some xs := by
  show (xs.map write).mapM read = some xs
  induction xs with
  | nil => rfl
  | cons x xs ih =>
    obtain ⟨hx, hxs⟩ := List.forall_mem_cons.1 h
    rw [List.map_cons, List.mapM_cons, hx, ih hxs]
    rfl

/-- A list is read alike whichever of two values that are read alike is in it. -/
theorem listOfJson?_replace {α : Type} {read : Json → Option α} {j j' : Json}
    (h : read j' = read j) (before after : List Json) :
    listOfJson? read (.array (before ++ j' :: after))
      = listOfJson? read (.array (before ++ j :: after)) := by
  show (before ++ j' :: after).mapM read = (before ++ j :: after).mapM read
  rw [List.mapM_append, List.mapM_append, List.mapM_cons, List.mapM_cons, h]

theorem natural?_integer {n limit : Nat} (h : n < limit) :
    Json.natural? limit (.integer n) = some n := by
  have hrange : (0 : Int) ≤ n ∧ (n : Int) < limit := by omega
  rw [natural?, if_pos hrange, Int.toNat_natCast]

theorem Direction.ofJson?_name (d : Direction) : ofJson? (.string d.name) = some d := by
  cases d with
  | input => rfl
  | output => rfl

/-! ### Recognitions -/

namespace Recognition

/-- The names of the fields of a recognition. -/
def fieldNames : List String := ["isDialectCommand", "category", "commandName", "parameters"]

/-- One more thing in the record of a recognition. -/
def Pads : Json → Json → Prop :=
  Json.Pads fieldNames ["category", "commandName"] fun _ _ _ => False

theorem ofJson?_toJson (r : Recognition) : ofJson? r.toJson = some r := by
  obtain ⟨isDialectCommand, category, commandName, parameters⟩ := r
  have hparameters : listOfJson? string? (.array (parameters.map .string)) = some parameters :=
    listOfJson?_array fun _ _ => rfl
  cases category <;> cases commandName <;>
    simp [ofJson?, toJson, member?, fields?, membersNamed, Fields.required, Fields.optional,
      Fields.get?, Fields.nullable, bool?, string?, hparameters]

/-- One more thing in a recognition makes no difference. -/
theorem ofJson?_of_pads {j j' : Json} (h : Pads j j') : ofJson? j' = ofJson? j := by
  cases h with
  | unknown before after value hname => exact bind_fields?_unknown value hname
  | null before after hname hmissing =>
    simp only [List.mem_cons, List.not_mem_nil, or_false] at hname
    -- The fields that may be null are the command and what was recognised of it.
    obtain rfl | rfl := hname
    · refine bind_fields?_null (i := 1) (by decide) rfl hmissing fun fields hi harray hget => ?_
      simp (disch := decide) only [fields.required_put_of_ne, fields.optional_put_of_ne,
        fields.optional_put_null hi harray hget]
    · refine bind_fields?_null (i := 2) (by decide) rfl hmissing fun fields hi harray hget => ?_
      simp (disch := decide) only [fields.required_put_of_ne, fields.optional_put_of_ne,
        fields.optional_put_null hi harray hget]
  | inside before after hvalue => exact hvalue.elim

end Recognition

/-! ### Command contexts -/

namespace CommandContext

/-- The names of the fields of a command context. -/
def fieldNames : List String :=
  ["isCommand", "command", "isTabCompletion", "isPrompt", "dialect"]

/-- One more thing in the record of a command context. -/
def Pads : Json → Json → Prop :=
  Json.Pads fieldNames ["command", "dialect"] fun name value value' =>
    name = "dialect" ∧ Recognition.Pads value value'

theorem ofJson?_toJson (c : CommandContext) : ofJson? c.toJson = some c := by
  obtain ⟨isCommand, command, isTabCompletion, isPrompt, recognition⟩ := c
  have hrecognition (r : Recognition) :
      Fields.nullable Recognition.ofJson? r.toJson = some (some r) := by
    rw [Fields.nullable_of_ne_null Json.noConfusion, r.ofJson?_toJson, Option.map_some]
  have hcommand (s : String) : Fields.nullable string? (.string s) = some (some s) := rfl
  cases command <;> cases recognition <;>
    simp [ofJson?, toJson, member?, fields?, membersNamed, Fields.required, Fields.optional,
      Fields.get?, bool?, hcommand, hrecognition]

/-- One more thing in a command context makes no difference. -/
theorem ofJson?_of_pads {j j' : Json} (h : Pads j j') : ofJson? j' = ofJson? j := by
  cases h with
  | unknown before after value hname => exact bind_fields?_unknown value hname
  | null before after hname hmissing =>
    simp only [List.mem_cons, List.not_mem_nil, or_false] at hname
    obtain rfl | rfl := hname
    · refine bind_fields?_null (i := 1) (by decide) rfl hmissing fun fields hi harray hget => ?_
      simp (disch := decide) only [fields.required_put_of_ne, fields.optional_put_of_ne,
        fields.optional_put_null hi harray hget]
    · refine bind_fields?_null (i := 4) (by decide) rfl hmissing fun fields hi harray hget => ?_
      simp (disch := decide) only [fields.required_put_of_ne, fields.optional_put_of_ne,
        fields.optional_put_null hi harray hget]
  | inside before after hvalue =>
    obtain ⟨rfl, hpads⟩ := hvalue
    refine bind_fields?_replace (i := 4) (by decide) rfl fun fields hi => ?_
    simp (disch := decide) only [fields.required_put_of_ne, fields.optional_put_of_ne,
      fields.optional_put _ hi, hpads.nullable_congr (Recognition.ofJson?_of_pads hpads)]

end CommandContext

/-! ### Frames -/

namespace Frame

/-- The names of the fields of a frame. -/
def fieldNames : List String :=
  ["timestamp", "type", "rawContent", "cleanedContent", "styledContent", "commandContext",
    "degraded"]

/-- One more thing in the record of a frame. -/
def Pads : Json → Json → Prop :=
  Json.Pads fieldNames ["commandContext"] fun name value value' =>
    name = "commandContext" ∧ CommandContext.Pads value value'

/-- What is found in the record of a frame. -/
theorem fields?_toJson (f : Frame) : f.toJson.fields? fieldNames = some ⟨false,
    [some (.integer f.timestamp), some (.string f.direction.name), some (.string f.rawContent),
      some (.string f.cleanedContent), some (.string f.styledContent),
      f.context.map CommandContext.toJson, if f.degraded then some (.bool true) else none]⟩ := by
  obtain ⟨timestamp, direction, rawContent, cleanedContent, styledContent, context, degraded⟩ := f
  cases context <;> cases degraded <;>
    simp [fieldNames, toJson, member?, fields?, membersNamed]

/-- A frame is read back. -/
theorem ofJson?_toJson {f : Frame} (h : f.timestamp < wordLimit) : ofJson? f.toJson = some f := by
  show (f.toJson.fields? fieldNames).bind _ = _
  rw [fields?_toJson, Option.bind_some]
  obtain ⟨timestamp, direction, rawContent, cleanedContent, styledContent, context, degraded⟩ := f
  -- The timestamp is read on its own: `simp` would count up to the bound of it.
  have htimestamp (values : List (Option Json)) :
      Fields.required ⟨false, some (.integer timestamp) :: values⟩ 0 (natural? wordLimit)
        = some timestamp := by
    rw [Fields.required_of_get? rfl, natural?_integer h]
  have hcontext (c : CommandContext) :
      Fields.nullable CommandContext.ofJson? c.toJson = some (some c) := by
    rw [Fields.nullable_of_ne_null Json.noConfusion, c.ofJson?_toJson, Option.map_some]
  simp only [htimestamp]
  cases context <;> cases degraded <;>
    simp [Fields.required, Fields.defaulted, Fields.get?, bool?, string?,
      direction.ofJson?_name, hcontext]

/-- One more thing in a frame makes no difference. -/
theorem ofJson?_of_pads {j j' : Json} (h : Pads j j') : ofJson? j' = ofJson? j := by
  cases h with
  | unknown before after value hname => exact bind_fields?_unknown value hname
  | null before after hname hmissing =>
    obtain rfl := List.mem_singleton.1 hname
    refine bind_fields?_null (i := 5) (by decide) rfl hmissing fun fields hi _ hget => ?_
    simp (disch := decide) only [fields.required_put_of_ne,
      fields.defaulted_put_of_ne, fields.defaulted_put_null hi hget]
  | inside before after hvalue =>
    obtain ⟨rfl, hpads⟩ := hvalue
    refine bind_fields?_replace (i := 5) (by decide) rfl fun fields hi => ?_
    simp (disch := decide) only [fields.required_put_of_ne,
      fields.defaulted_put_of_ne, fields.defaulted_put _ hi,
      hpads.nullable_congr (CommandContext.ofJson?_of_pads hpads)]

/-- One more thing in one of a list of frames.  Each of them makes no difference, and so do any
number, one after the other. -/
inductive ListPads : Json → Json → Prop
  | frame (before after : List Json) {j j' : Json} (h : Pads j j') :
      ListPads (.array (before ++ j :: after)) (.array (before ++ j' :: after))

/-- **Frames are read back**, whatever is known about each of them, and a list of frames with
more things in it is read like the list without them. -/
theorem listOfJson?_toJson (frames : List Frame) (h : ∀ f ∈ frames, f.timestamp < wordLimit) :
    listOfJson? ofJson? (.array (frames.map toJson)) = some frames
      ∧ ∀ j j' : Json, Relation.ReflTransGen ListPads j j' →
        listOfJson? ofJson? j' = listOfJson? ofJson? j := by
  refine ⟨listOfJson?_array fun f hf => ofJson?_toJson (h f hf), fun j j' hpads => ?_⟩
  induction hpads with
  | refl => rfl
  | tail _ hstep ih =>
    obtain ⟨before, after, hframe⟩ := hstep
    exact (listOfJson?_replace (ofJson?_of_pads hframe) before after).trans ih

/-- A command that the dialect recognises, and a frame that could not be analysed. -/
theorem listOfJson?_toJson_command_degraded :
    let frames : List Frame :=
      [⟨0, .input, "/ip print\r", "/ip print\r", "",
          some ⟨true, some "/ip print", false, false,
            some ⟨true, some "ip", none, ["print"]⟩⟩, false⟩,
        ⟨18446744073709551615, .output, "\x00", "", "", none, true⟩]
    (∀ f ∈ frames, f.timestamp < wordLimit)
      ∧ listOfJson? ofJson? (.array (frames.map toJson)) = some frames
      ∧ ∀ j j' : Json, Relation.ReflTransGen ListPads j j' →
        listOfJson? ofJson? j' = listOfJson? ofJson? j :=
  ⟨by decide, listOfJson?_toJson _ (by decide)⟩

/-- A frame without a context, with a null for it and a member that frames do not have. -/
example : ofJson? (.object [("note", .bool true), ("timestamp", .integer 3),
    ("type", .string "output"), ("rawContent", .string "a"), ("cleanedContent", .string "a"),
    ("styledContent", .string "a"), ("commandContext", .null)])
    = some ⟨3, .output, "a", "a", "a", none, false⟩ := by
  decide

end Frame

end ConsoleReplay
