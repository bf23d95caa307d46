import ConsoleReplay.Json.Record

/-!
# Records with more in them than they need

Whoever writes a record as an object may write more than the record needs: members that it
does not have, and a null for a field that may be missing.  A reader looks its fields up by
name, so the first leaves the fields that are found as they are, and the second puts a null
where nothing was found.

## Main definitions

* `Json.Pads names nullable inner` — one more thing in the object of a record.
* `Json.Fields.put` — the fields of a record with another value for one of them.

## Main results

* `Json.fields?_unknown` — a member that a record does not have is passed over.
* `Json.fields?_insert` — a member with the name of a field that was missing.
* `Json.bind_fields?_unknown`, `Json.bind_fields?_null`, `Json.bind_fields?_replace` — what a
  reader has to make no difference of.
-/

namespace ConsoleReplay.Json

/-- One more thing in the object of a record with fields of the given names: a member that the
record does not have, a null for a missing field that may be null, or one more thing inside the
value of a member. -/
inductive Pads (names nullable : List String) (inner : String → Json → Json → Prop) :
    Json → Json → Prop
  | unknown (before after : List (String × Json)) {name : String} (value : Json)
      (hname : name ∉ names) :
      Pads names nullable inner (.object (before ++ after))
        (.object (before ++ (name, value) :: after))
  | null (before after : List (String × Json)) {name : String} (hname : name ∈ nullable)
      (hmissing : ∀ member ∈ before ++ after, member.1 ≠ name) :
      Pads names nullable inner (.object (before ++ after))
        (.object (before ++ (name, .null) :: after))
  | inside (before after : List (String × Json)) {name : String} {value value' : Json}
      (hvalue : inner name value value') :
      Pads names nullable inner (.object (before ++ (name, value) :: after))
        (.object (before ++ (name, value') :: after))

/-! ### Members with a name -/

theorem membersNamed_append (members members' : List (String × Json)) (name : String) :
    membersNamed (members ++ members') name
      = membersNamed members name ++ membersNamed members' name := by
  rw [membersNamed, List.filter_append, List.map_append, membersNamed, membersNamed]

theorem membersNamed_cons_self (name : String) (value : Json) (members : List (String × Json)) :
    membersNamed ((name, value) :: members) name = value :: membersNamed members name := by
  simp [membersNamed]

theorem membersNamed_cons_of_ne {name name' : String} (h : name ≠ name') (value : Json)
    (members : List (String × Json)) :
    membersNamed ((name, value) :: members) name' = membersNamed members name' := by
  simp [membersNamed, h]

theorem membersNamed_eq_nil {members : List (String × Json)} {name : String}
    (h : ∀ member ∈ members, member.1 ≠ name) : membersNamed members name = [] := by
  rw [membersNamed, List.map_eq_nil_iff, List.filter_eq_nil_iff]
  exact fun member hmember heq => h member hmember (eq_of_beq heq)

/-- A member is not found under another name. -/
theorem membersNamed_insert_of_ne {name name' : String} (h : name ≠ name')
    (before after : List (String × Json)) (value : Json) :
    membersNamed (before ++ (name, value) :: after) name'
      = membersNamed (before ++ after) name' := by
  rw [membersNamed_append, membersNamed_cons_of_ne h, membersNamed_append]

/-! ### Fields -/

namespace Fields

/-- The fields of a record with another value for one of them. -/
def put (fields : Fields) (i : Nat) (value : Json) : Fields :=
  { fields with values := fields.values.set i (some value) }

variable {α : Type} (fields : Fields) {i k : Nat} (value : Json)

theorem required_of_get? {fields : Fields} {value : Json} (h : fields.get? i = some value)
    (read : Json → Option α) : fields.required i read = read value := by
  rw [required, h, Option.bind_some]

theorem get?_put_of_ne (h : i ≠ k) : (fields.put i value).get? k = fields.get? k := by
  rw [get?, put, List.getElem?_set_ne h, get?]

theorem get?_put (h : i < fields.values.length) : (fields.put i value).get? i = some value := by
  rw [get?, put, List.getElem?_set_self h]
  rfl

theorem required_put_of_ne (h : i ≠ k) (read : Json → Option α) :
    (fields.put i value).required k read = fields.required k read := by
  rw [required, get?_put_of_ne fields value h, required]

theorem optional_put_of_ne (h : i ≠ k) (read : Json → Option α) :
    (fields.put i value).optional k read = fields.optional k read := by
  rw [optional, get?_put_of_ne fields value h, optional]
  rfl

theorem defaulted_put_of_ne (h : i ≠ k) (default : α) (read : Json → Option α) :
    (fields.put i value).defaulted k default read = fields.defaulted k default read := by
  rw [defaulted, get?_put_of_ne fields value h, defaulted]

theorem optional_put (h : i < fields.values.length) (read : Json → Option α) :
    (fields.put i value).optional i read = nullable read value := by
  rw [optional, get?_put fields value h]

theorem defaulted_put (h : i < fields.values.length) (default : α) (read : Json → Option α) :
    (fields.put i value).defaulted i default read = read value := by
  rw [defaulted, get?_put fields value h]

/-- A null for a field that is missing from an object. -/
theorem optional_put_null (h : i < fields.values.length) (harray : fields.isArray = false)
    (hget : fields.get? i = none) (read : Json → Option α) :
    (fields.put i .null).optional i read = fields.optional i read := by
  rw [optional_put fields .null h, optional, hget, harray]
  rfl

/-- A null for a missing field that is nothing by default. -/
theorem defaulted_put_null (h : i < fields.values.length) (hget : fields.get? i = none)
    (read : Json → Option α) :
    (fields.put i .null).defaulted i none (nullable read)
      = fields.defaulted i none (nullable read) := by
  rw [defaulted_put fields .null h, defaulted, hget]
  rfl

/-- A value that is no null is read as one that is there. -/
theorem nullable_of_ne_null {read : Json → Option α} {value : Json} (h : value ≠ .null) :
    nullable read value = (read value).map some := by
  cases value with
  | null => exact absurd rfl h
  | _ => rfl

end Fields

/-- Whoever reads a record with one more thing in it alike does so where it may be null. -/
theorem Pads.nullable_congr {α : Type} {names nullable : List String}
    {inner : String → Json → Json → Prop} {j j' : Json} {read : Json → Option α}
    (h : Pads names nullable inner j j') (hread : read j' = read j) :
    Fields.nullable read j' = Fields.nullable read j := by
  have hnull : j ≠ .null ∧ j' ≠ .null := by
    cases h <;> exact ⟨Json.noConfusion, Json.noConfusion⟩
  rw [Fields.nullable_of_ne_null hnull.1, Fields.nullable_of_ne_null hnull.2, hread]

/-! ### What a reader finds

A reader of records asks for fields by name.  More members with other names, or a null in the
place of nothing, make no difference to what it finds. -/

variable {names : List String} {members before after : List (String × Json)} {name : String}
  {fields : Fields} {i : Nat}

/-- An object has the fields of a record as long as none of them occurs twice. -/
theorem fields?_eq_some_iff :
    fields? names (.object members) = some fields ↔
      (∀ name ∈ names, (membersNamed members name).length ≤ 1)
        ∧ fields = ⟨false, names.map fun name => (membersNamed members name).head?⟩ := by
  simp only [fields?, List.all_map, List.map_map]
  -- The reader rejects a name that occurs twice as soon as it is one of the record; names it
  -- does not know may repeat.
  split
  · next hall =>
    simp only [List.all_eq_true, Function.comp_apply, decide_eq_true_eq] at hall
    rw [Option.some_inj, eq_comm]
    exact ⟨fun h => ⟨hall, h⟩, fun h => h.2⟩
  · next hall =>
    simp only [List.all_eq_true, Function.comp_apply, decide_eq_true_eq] at hall
    constructor
    · intro h
      cases h
    · exact fun h => absurd h.1 hall

/-- A field that occurs twice spoils the record. -/
theorem fields?_of_length (hname : name ∈ names) (h : 1 < (membersNamed members name).length) :
    fields? names (.object members) = none := by
  refine Option.eq_none_iff_forall_ne_some.2 fun fields hfields => ?_
  exact absurd ((fields?_eq_some_iff.1 hfields).1 name hname) (Nat.not_le_of_lt h)

/-- A member that a record does not have is passed over. -/
theorem fields?_unknown (before after : List (String × Json)) (value : Json) (h : name ∉ names) :
    fields? names (.object (before ++ (name, value) :: after))
      = fields? names (.object (before ++ after)) := by
  have hfound : names.map (membersNamed (before ++ (name, value) :: after))
      = names.map (membersNamed (before ++ after)) := by
    refine List.map_congr_left fun name' hname' => membersNamed_insert_of_ne ?_ before after value
    rintro rfl
    exact h hname'
  rw [fields?, hfound, fields?]

/-- A member with the name of a field that was missing is what the reader finds for it.  Its place
among the other members makes no difference. -/
theorem fields?_insert (hnodup : names.Nodup) (hi : names[i]? = some name)
    (hmissing : membersNamed (before ++ after) name = []) (value : Json) :
    fields? names (.object (before ++ (name, value) :: after))
      = (fields? names (.object (before ++ after))).map (·.put i value) := by
  have hself : membersNamed (before ++ (name, value) :: after) name = [value] := by
    rw [membersNamed_append, List.append_eq_nil_iff] at hmissing
    rw [membersNamed_append, membersNamed_cons_self, hmissing.1, hmissing.2, List.nil_append]
  -- No two fields bear the same name.
  have hother {k : Nat} {name' : String} (hk : names[k]? = some name') (hne : i ≠ k) :
      membersNamed (before ++ (name, value) :: after) name'
        = membersNamed (before ++ after) name' := by
    refine membersNamed_insert_of_ne ?_ before after value
    rintro rfl
    exact hne ((List.getElem?_inj (List.getElem?_eq_some_iff.1 hi).1 hnodup).1 (hi.trans hk.symm))
  by_cases hall : ∀ name ∈ names, (membersNamed (before ++ after) name).length ≤ 1
  · have hall' : ∀ name' ∈ names,
        (membersNamed (before ++ (name, value) :: after) name').length ≤ 1 := by
      intro name' hname'
      by_cases heq : name = name'
      · rw [← heq, hself]
        exact Nat.le_refl 1
      · rw [membersNamed_insert_of_ne heq]
        exact hall name' hname'
    rw [fields?_eq_some_iff.2 ⟨hall, rfl⟩, fields?_eq_some_iff.2 ⟨hall', rfl⟩, Option.map_some,
      Fields.put]
    congr 2
    refine List.ext_getElem? fun k => ?_
    by_cases hk : i = k
    · subst hk
      rw [List.getElem?_map, hi, List.getElem?_set_self, Option.map_some, hself]
      · rfl
      · rw [List.length_map]
        exact (List.getElem?_eq_some_iff.1 hi).1
    · rw [List.getElem?_map, List.getElem?_set_ne hk, List.getElem?_map]
      cases hname : names[k]? with
      | none => rfl
      | some name' => rw [Option.map_some, Option.map_some, hother hname hk]
  · obtain ⟨name', hname', hlength⟩ : ∃ name' ∈ names,
        1 < (membersNamed (before ++ after) name').length := by
      simpa using hall
    have hne : name ≠ name' := by
      rintro rfl
      rw [hmissing] at hlength
      exact absurd hlength (Nat.not_lt_zero 1)
    rw [fields?_of_length hname' hlength, Option.map_none]
    refine fields?_of_length hname' ?_
    rw [membersNamed_insert_of_ne hne]
    exact hlength

/-- A member whose name is there already spoils the record. -/
theorem fields?_insert_of_ne_nil (hi : names[i]? = some name)
    (hfound : membersNamed (before ++ after) name ≠ []) (value : Json) :
    fields? names (.object (before ++ (name, value) :: after)) = none := by
  refine fields?_of_length (List.mem_of_getElem? hi) ?_
  have hpos := List.length_pos_iff.2 hfound
  rw [membersNamed_append, List.length_append] at hpos
  rw [membersNamed_append, membersNamed_cons_self, List.length_append, List.length_cons]
  omega

theorem lt_length_values (hi : names[i]? = some name) :
    i < (names.map fun name => (membersNamed members name).head?).length := by
  rw [List.length_map]
  exact (List.getElem?_eq_some_iff.1 hi).1

variable {α : Type} {g : Fields → Option α}

/-- Nobody reads a member that a record does not have. -/
theorem bind_fields?_unknown (value : Json) (h : name ∉ names) :
    (fields? names (.object (before ++ (name, value) :: after))).bind g
      = (fields? names (.object (before ++ after))).bind g := by
  rw [fields?_unknown before after value h]

/-- Whoever makes no difference between a null and nothing for a field reads a null for it as
if it were missing. -/
theorem bind_fields?_null (hnodup : names.Nodup) (hi : names[i]? = some name)
    (hmissing : ∀ member ∈ before ++ after, member.1 ≠ name)
    (hg : ∀ fields : Fields, i < fields.values.length → fields.isArray = false →
      fields.get? i = none → g (fields.put i .null) = g fields) :
    (fields? names (.object (before ++ (name, .null) :: after))).bind g
      = (fields? names (.object (before ++ after))).bind g := by
  -- The field is missing in the object without the null, so with it the reader gets the same
  -- fields and a null in one place that was empty.
  have hnil := membersNamed_eq_nil hmissing
  rw [fields?_insert hnodup hi hnil]
  cases hfields : fields? names (.object (before ++ after)) with
  | none => rfl
  | some fields =>
    obtain ⟨-, rfl⟩ := fields?_eq_some_iff.1 hfields
    refine hg _ (lt_length_values hi) rfl ?_
    rw [Fields.get?, List.getElem?_map, hi, Option.map_some, hnil]
    rfl

/-- Whoever makes no difference between two values of a field reads both alike. -/
theorem bind_fields?_replace (hnodup : names.Nodup) (hi : names[i]? = some name)
    {value value' : Json}
    (hg : ∀ fields : Fields, i < fields.values.length →
      g (fields.put i value') = g (fields.put i value)) :
    (fields? names (.object (before ++ (name, value') :: after))).bind g
      = (fields? names (.object (before ++ (name, value) :: after))).bind g := by
  by_cases hnil : membersNamed (before ++ after) name = []
  · rw [fields?_insert hnodup hi hnil, fields?_insert hnodup hi hnil]
    cases hfields : fields? names (.object (before ++ after)) with
    | none => rfl
    | some fields =>
      obtain ⟨-, rfl⟩ := fields?_eq_some_iff.1 hfields
      exact hg _ (lt_length_values hi)
  · rw [fields?_insert_of_ne_nil hi hnil, fields?_insert_of_ne_nil hi hnil]

end ConsoleReplay.Json
