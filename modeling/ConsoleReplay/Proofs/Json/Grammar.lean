import ConsoleReplay.Proofs.Json.Lexical

/-!
# The grammar of JSON

What the reader takes from the front of a text, whatever fuel it has: the grammar of values, of
the items of an array and of the members of an object.

## Main definitions

* `Json.Reader.Part` — what is read next.
* `Json.Reader.Reads part cs j rest` — `cs` is a part of a text that completes the value `j`, and
  `rest` after it.

## Main results

* `Json.Reader.run_eq_some_iff` — with enough fuel, the reader follows the grammar.
* `Json.Reader.Reads.append` — more text makes no difference.
* `Json.Reader.reads_skipSpace` — blanks at the front make no difference.
-/

namespace ConsoleReplay.Json.Reader

/-- What is read next: a value, or the rest of an array or of an object from the next item or
member on, with what was read of it in reverse. -/
inductive Part
  | value
  | items (done : List Json)
  | members (done : Option (List (String × Json)))

/-- What the reader takes from the front of a text, for each of its three functions, so that they
can be reasoned about as one. -/
def run (fuel : Nat) : Part → List Char → Option (Json × List Char)
  | .value => value fuel
  | .items done => items fuel done
  | .members done => members fuel done

/-- The words that are values, each with its first letter apart. -/
def words : List (Char × String × Json) :=
  [('t', "rue", .bool true), ('f', "alse", .bool false), ('n', "ull", .null)]

/-- The members of an object with one more; `none` if a name stands for nothing. -/
def addMember (done : Option (List (String × Json))) (name : Option String) (v : Json) :
    Option (List (String × Json)) :=
  done.bind fun members => name.map fun n => (n, v) :: members

/-- An object whose members are given in reverse. -/
def objectOf (members : Option (List (String × Json))) : Json :=
  (members.map fun ms => .object ms.reverse).getD .malformed

/-- The grammar: a text is a part that completes a value, and a rest.  It has no fuel, and one rule
for each way in which the reader goes on; the two are shown to agree. -/
inductive Reads : Part → List Char → Json → List Char → Prop
  | emptyObject {cs inner rest : List Char} (hopen : skipSpace cs = '{' :: inner)
      (hclose : skipSpace inner = '}' :: rest) : Reads .value cs (.object []) rest
  | object {cs inner rest : List Char} {j : Json} (hopen : skipSpace cs = '{' :: inner)
      (hmembers : Reads (.members (some [])) inner j rest) : Reads .value cs j rest
  | emptyArray {cs inner rest : List Char} (hopen : skipSpace cs = '[' :: inner)
      (hclose : skipSpace inner = ']' :: rest) : Reads .value cs (.array []) rest
  | array {cs inner rest : List Char} {j : Json} (hopen : skipSpace cs = '[' :: inner)
      (hitems : Reads (.items []) inner j rest) : Reads .value cs j rest
  | string {cs inner rest : List Char} {s : Option String} (hopen : skipSpace cs = '"' :: inner)
      (hstring : string inner = some (s, rest)) :
      Reads .value cs ((s.map Json.string).getD .malformed) rest
  | negative {cs inner rest : List Char} {j : Json} (hopen : skipSpace cs = '-' :: inner)
      (hnumeral : numeral true inner = some (j, rest)) : Reads .value cs j rest
  | positive {cs inner rest : List Char} {c : Char} {j : Json} (hopen : skipSpace cs = c :: inner)
      (hdigit : c.isDigit = true) (hnumeral : numeral false (c :: inner) = some (j, rest)) :
      Reads .value cs j rest
  | word {cs inner rest : List Char} {c : Char} {w : String} {j : Json}
      (hopen : skipSpace cs = c :: inner) (hword : (c, w, j) ∈ words)
      (hrest : inner = w.toList ++ rest) : Reads .value cs j rest
  | lastItem {cs inner rest : List Char} {done : List Json} {v : Json}
      (hvalue : Reads .value cs v inner) (hclose : skipSpace inner = ']' :: rest) :
      Reads (.items done) cs (.array (v :: done).reverse) rest
  | item {cs inner more rest : List Char} {done : List Json} {v j : Json}
      (hvalue : Reads .value cs v inner) (hcomma : skipSpace inner = ',' :: more)
      (hitems : Reads (.items (v :: done)) more j rest) : Reads (.items done) cs j rest
  | lastMember {cs inner afterName afterColon afterValue rest : List Char}
      {done : Option (List (String × Json))} {name : Option String} {v : Json}
      (hopen : skipSpace cs = '"' :: inner) (hname : Reader.string inner = some (name, afterName))
      (hcolon : skipSpace afterName = ':' :: afterColon)
      (hvalue : Reads .value afterColon v afterValue)
      (hclose : skipSpace afterValue = '}' :: rest) :
      Reads (.members done) cs (objectOf (addMember done name v)) rest
  | member {cs inner afterName afterColon afterValue more rest : List Char}
      {done : Option (List (String × Json))} {name : Option String} {v j : Json}
      (hopen : skipSpace cs = '"' :: inner) (hname : Reader.string inner = some (name, afterName))
      (hcolon : skipSpace afterName = ':' :: afterColon)
      (hvalue : Reads .value afterColon v afterValue)
      (hcomma : skipSpace afterValue = ',' :: more)
      (hmembers : Reads (.members (addMember done name v)) more j rest) :
      Reads (.members done) cs j rest

/-! ### The reader follows the grammar

The reader has three functions that call each other, each with less fuel.  The induction is on the
fuel, with all three in one statement; its step is one lemma for each function. -/

variable {cs rest : List Char} {j : Json} {fuel : Nat}

theorem members_skipSpace (done : Option (List (String × Json))) (cs : List Char) :
    members fuel done (skipSpace cs) = members fuel done cs := by
  cases fuel with
  | zero => rfl
  | succ fuel => rw [members, members, skipSpace_skipSpace]

theorem value_skipSpace (cs : List Char) : value fuel (skipSpace cs) = value fuel cs := by
  cases fuel with
  | zero => rfl
  | succ fuel => rw [value, value, skipSpace_skipSpace]

theorem items_skipSpace (done : List Json) (cs : List Char) :
    items fuel done (skipSpace cs) = items fuel done cs := by
  cases fuel with
  | zero => rfl
  | succ fuel => rw [items, items, value_skipSpace]

/-- A word at the front of a text is read as the value that it stands for. -/
theorem reads_word {c : Char} {inner : List Char} {w : String} {v : Json}
    (hopen : skipSpace cs = c :: inner) (hmem : (c, w, v) ∈ words)
    (h : (literal w inner).map (v, ·) = some (j, rest)) : Reads .value cs j rest := by
  obtain ⟨rest', hliteral, heq⟩ := Option.map_eq_some_iff.1 h
  cases heq
  exact .word hopen hmem (literal_eq_some_iff.1 hliteral)

/-- The reader of values follows the grammar if the readers below it do.  The cases are those of
the first character that is not blank, in the order in which the reader asks for them. -/
theorem reads_value_succ (hitems : ∀ {done cs j rest}, items fuel done cs = some (j, rest) →
      Reads (.items done) cs j rest)
    (hmembers : ∀ {done cs j rest}, members fuel done cs = some (j, rest) →
      Reads (.members done) cs j rest)
    (h : value (fuel + 1) cs = some (j, rest)) : Reads .value cs j rest := by
  rw [value] at h
  split at h
  · next inner hopen =>
    split at h
    · next hclose =>
      cases h
      exact .emptyObject hopen hclose
    · -- Blanks after the brace were skipped to look for the other one.
      rw [members_skipSpace] at h
      exact .object hopen (hmembers h)
  · next inner hopen =>
    split at h
    · next hclose =>
      cases h
      exact .emptyArray hopen hclose
    · rw [items_skipSpace] at h
      exact .array hopen (hitems h)
  · next inner hopen =>
    -- A string that holds half a pair of surrogates is a value, but none that has a text.
    split at h
    · next s _ hstring =>
      cases h
      exact .string hopen hstring
    · next hstring =>
      cases h
      exact .string hopen hstring
    · cases h
  · next hopen => exact .negative hopen h
  · next c inner _ _ _ _ hopen =>
    split at h
    · next hdigit => exact .positive hopen hdigit h
    -- What is left are the three words.
    split at h
    · next hc =>
      obtain rfl := eq_of_beq hc
      exact reads_word hopen (.head _) h
    split at h
    · next hc =>
      obtain rfl := eq_of_beq hc
      exact reads_word hopen (.tail _ (.head _)) h
    split at h
    · next hc =>
      obtain rfl := eq_of_beq hc
      exact reads_word hopen (.tail _ (.tail _ (.head _))) h
    · cases h
  · cases h

theorem reads_items_succ (hvalue : ∀ {cs j rest}, value fuel cs = some (j, rest) →
      Reads .value cs j rest)
    (hitems : ∀ {done cs j rest}, items fuel done cs = some (j, rest) →
      Reads (.items done) cs j rest)
    {done : List Json} (h : items (fuel + 1) done cs = some (j, rest)) :
    Reads (.items done) cs j rest := by
  rw [items] at h
  -- A value has to come first; what follows it decides between the two rules, and nothing else
  -- is read.
  split at h
  · next v inner hv =>
    split at h
    · next hcomma => exact .item (hvalue hv) hcomma (hitems h)
    · next hclose =>
      cases h
      exact .lastItem (hvalue hv) hclose
    · cases h
  · cases h

theorem reads_members_succ (hvalue : ∀ {cs j rest}, value fuel cs = some (j, rest) →
      Reads .value cs j rest)
    (hmembers : ∀ {done cs j rest}, members fuel done cs = some (j, rest) →
      Reads (.members done) cs j rest)
    {done : Option (List (String × Json))} (h : members (fuel + 1) done cs = some (j, rest)) :
    Reads (.members done) cs j rest := by
  rw [members] at h
  -- The splits follow the reader through a member: the quote, the name, the colon, the value,
  -- and then a comma or the closing brace.
  split at h
  · next hopen =>
    split at h
    · next hname =>
      split at h
      · next hcolon =>
        split at h
        · next hv =>
          dsimp only at h
          split at h
          · next hcomma => exact .member hopen hname hcolon (hvalue hv) hcomma (hmembers h)
          · next hclose =>
            cases h
            exact .lastMember hopen hname hcolon (hvalue hv) hclose
          · cases h
        · cases h
      · cases h
    · cases h
  · cases h

/-- Whatever the reader takes is in the grammar.  By induction on the fuel: each part is read with
less of it. -/
theorem reads_of_run (part : Part) (h : run fuel part cs = some (j, rest)) :
    Reads part cs j rest := by
  induction fuel generalizing part cs j rest with
  | zero => cases part <;> cases h
  | succ fuel ih =>
    cases part with
    | value =>
      exact reads_value_succ (fun {done _ _ _} => ih (.items done))
        (fun {done _ _ _} => ih (.members done)) h
    | items done =>
      exact reads_items_succ (ih .value) (fun {done _ _ _} => ih (.items done)) h
    | members done =>
      exact reads_members_succ (ih .value)
        (fun {done _ _ _} => ih (.members done)) h

/-! ### The grammar is followed with enough fuel

Every rule takes a character, and then what it goes on with is shorter.  A step for that character
and one for the part that follows it is twice the length. -/

theorem length_afterColon {inner afterName afterColon : List Char} {name : Option String}
    (hopen : skipSpace cs = '"' :: inner) (hname : string inner = some (name, afterName))
    (hcolon : skipSpace afterName = ':' :: afterColon) : afterColon.length < cs.length :=
  ((length_of_skipSpace hcolon).trans_le (string_suffix hname).length_le).trans
    (length_of_skipSpace hopen)

/-- What is left is shorter.  So a reader that follows the grammar never needs more steps than there
are characters. -/
theorem Reads.length_lt {part : Part} (h : Reads part cs j rest) : rest.length < cs.length := by
  -- Each rule takes the character it opens with.  What it reads after that is a suffix, by the
  -- lemma about the lexical part or by the induction hypothesis.
  induction h with
  | emptyObject hopen hclose | emptyArray hopen hclose =>
    exact (length_of_skipSpace hclose).trans (length_of_skipSpace hopen)
  | object hopen _ ih | array hopen _ ih => exact ih.trans (length_of_skipSpace hopen)
  | string hopen hstring =>
    exact (string_suffix hstring).length_le.trans_lt (length_of_skipSpace hopen)
  | negative hopen hnumeral =>
    have hle := ((numeral_suffix hnumeral).trans (digits_suffix _)).length_le
    exact hle.trans_lt (length_of_skipSpace hopen)
  | @positive _ inner _ _ _ hopen hdigit hnumeral =>
    have hle := ((numeral_suffix hnumeral).trans (digits_suffix_of_digit hdigit inner)).length_le
    exact hle.trans_lt (length_of_skipSpace hopen)
  | word hopen _ hrest =>
    have hle := List.IsSuffix.length_le ⟨_, hrest.symm⟩
    exact hle.trans_lt (length_of_skipSpace hopen)
  | lastItem _ hclose ih => exact (length_of_skipSpace hclose).trans ih
  | item _ hcomma _ ihvalue ih => exact (ih.trans (length_of_skipSpace hcomma)).trans ihvalue
  | lastMember hopen hname hcolon _ hclose ih =>
    exact ((length_of_skipSpace hclose).trans ih).trans (length_afterColon hopen hname hcolon)
  | member hopen hname hcolon _ hcomma _ ihvalue ih =>
    exact ((ih.trans (length_of_skipSpace hcomma)).trans ihvalue).trans
      (length_afterColon hopen hname hcolon)

/-- No value, item or member begins with a closing bracket.  This is what tells an empty array from
one with an item. -/
theorem Reads.head?_skipSpace {part : Part} (h : Reads part cs j rest) :
    (skipSpace cs).head? ≠ some '}' ∧ (skipSpace cs).head? ≠ some ']' := by
  -- The first character is one the rule names, except for a numeral, where it is a digit, and
  -- for a word, where it is in the table.
  induction h with
  | emptyObject hopen | object hopen | emptyArray hopen | array hopen | string hopen
  | negative hopen | lastMember hopen | member hopen =>
    rw [hopen]
    simp
  | positive hopen hdigit =>
    rw [hopen]
    constructor <;>
    · rintro ⟨⟩
      exact absurd hdigit (by decide)
  | word hopen hword =>
    rw [hopen]
    constructor <;>
    · rintro ⟨⟩
      simp [words] at hword
  | lastItem _ _ ih => exact ih
  | item _ _ _ ih => exact ih

theorem value_of_object {inner : List Char} (hopen : skipSpace cs = '{' :: inner)
    (hne : (skipSpace inner).head? ≠ some '}') :
    value (fuel + 1) cs = members fuel (some []) inner := by
  simp only [value, hopen]
  split
  · next hclose =>
    rw [hclose] at hne
    exact absurd rfl hne
  · rw [members_skipSpace]

theorem value_of_array {inner : List Char} (hopen : skipSpace cs = '[' :: inner)
    (hne : (skipSpace inner).head? ≠ some ']') :
    value (fuel + 1) cs = items fuel [] inner := by
  simp only [value, hopen]
  split
  · next hclose =>
    rw [hclose] at hne
    exact absurd rfl hne
  · rw [items_skipSpace]

theorem value_of_digit {c : Char} {inner : List Char} (hopen : skipSpace cs = c :: inner)
    (hdigit : c.isDigit = true) : value (fuel + 1) cs = numeral false (c :: inner) := by
  have hne : c ≠ '{' ∧ c ≠ '[' ∧ c ≠ '"' ∧ c ≠ '-' := by
    refine ⟨?_, ?_, ?_, ?_⟩ <;>
    · rintro rfl
      exact absurd hdigit (by decide)
  simp [value, hopen, hne, hdigit]

/-- The fuel that is enough to read a part of a text. -/
def Part.fuelFor (cs : List Char) : Part → Nat
  | .value => 2 * cs.length + 1
  | .items _ | .members _ => 2 * cs.length + 2

theorem Part.exists_fuel {part : Part} (h : part.fuelFor cs ≤ fuel) : ∃ n, fuel = n + 1 := by
  refine Nat.exists_eq_add_of_le' (Nat.le_trans ?_ h)
  cases part <;> exact Nat.succ_pos _

/-- With enough fuel, the reader takes what the grammar says.  By induction on the grammar; each
rule uses up a step, and its parts get what is left. -/
theorem Reads.run_eq {part : Part} (h : Reads part cs j rest) (hfuel : part.fuelFor cs ≤ fuel) :
    run fuel part cs = some (j, rest) := by
  induction h generalizing fuel with
  | emptyObject hopen hclose | emptyArray hopen hclose =>
    obtain ⟨fuel, rfl⟩ := Part.exists_fuel hfuel
    simp [run, value, hopen, hclose]
  | object hopen hmembers ih =>
    obtain ⟨fuel, rfl⟩ := Part.exists_fuel hfuel
    have hlength := length_of_skipSpace hopen
    rw [run, value_of_object hopen hmembers.head?_skipSpace.1]
    -- The brace is a character less, and pays for the step that is taken without one.
    refine ih ?_
    simp only [Part.fuelFor] at hfuel ⊢
    omega
  | array hopen hitems ih =>
    obtain ⟨fuel, rfl⟩ := Part.exists_fuel hfuel
    have hlength := length_of_skipSpace hopen
    rw [run, value_of_array hopen hitems.head?_skipSpace.2]
    refine ih ?_
    simp only [Part.fuelFor] at hfuel ⊢
    omega
  | @string _ _ _ s hopen hstring =>
    obtain ⟨fuel, rfl⟩ := Part.exists_fuel hfuel
    cases s <;> simp [run, value, hopen, hstring]
  | negative hopen hnumeral =>
    obtain ⟨fuel, rfl⟩ := Part.exists_fuel hfuel
    simp [run, value, hopen, hnumeral]
  | positive hopen hdigit hnumeral =>
    obtain ⟨fuel, rfl⟩ := Part.exists_fuel hfuel
    rw [run, value_of_digit hopen hdigit, hnumeral]
  | word hopen hword hrest =>
    obtain ⟨fuel, rfl⟩ := Part.exists_fuel hfuel
    have hliteral := literal_eq_some_iff.2 hrest
    simp only [words, List.mem_cons, Prod.mk.injEq, List.not_mem_nil, or_false] at hword
    obtain ⟨rfl, rfl, rfl⟩ | ⟨rfl, rfl, rfl⟩ | ⟨rfl, rfl, rfl⟩ := hword <;>
      simp [run, value, hopen, hliteral]
  | lastItem _ hclose ihvalue =>
    obtain ⟨fuel, rfl⟩ := Part.exists_fuel hfuel
    have hv : run fuel .value _ = _ := ihvalue (by simp only [Part.fuelFor] at hfuel ⊢; omega)
    rw [run] at hv
    simp [run, items, hv, hclose]
  | item hvalue hcomma _ ihvalue ih =>
    obtain ⟨fuel, rfl⟩ := Part.exists_fuel hfuel
    have hlength := (length_of_skipSpace hcomma).trans hvalue.length_lt
    have hv : run fuel .value _ = _ := ihvalue (by simp only [Part.fuelFor] at hfuel ⊢; omega)
    have hmore : run fuel (.items _) _ = _ :=
      ih (by simp only [Part.fuelFor] at hfuel ⊢; omega)
    simp only [run] at hv hmore
    simp [run, items, hv, hcomma, hmore]
  | lastMember hopen hname hcolon _ hclose ihvalue =>
    obtain ⟨fuel, rfl⟩ := Part.exists_fuel hfuel
    have hlength := length_afterColon hopen hname hcolon
    have hv : run fuel .value _ = _ := ihvalue (by simp only [Part.fuelFor] at hfuel ⊢; omega)
    rw [run] at hv
    simp [run, members, hopen, hname, hcolon, hv, hclose, objectOf, addMember]
  | member hopen hname hcolon hvalue hcomma _ ihvalue ih =>
    obtain ⟨fuel, rfl⟩ := Part.exists_fuel hfuel
    have hlength := length_afterColon hopen hname hcolon
    have hlength' := (length_of_skipSpace hcomma).trans hvalue.length_lt
    have hv : run fuel .value _ = _ := ihvalue (by simp only [Part.fuelFor] at hfuel ⊢; omega)
    have hmore : run fuel (.members _) _ = _ :=
      ih (by simp only [Part.fuelFor] at hfuel ⊢; omega)
    simp only [run, addMember] at hv hmore
    simp [run, members, hopen, hname, hcolon, hv, hcomma, hmore]

/-- With enough fuel, the reader follows the grammar. -/
theorem run_eq_some_iff (part : Part) (hfuel : part.fuelFor cs ≤ fuel) :
    run fuel part cs = some (j, rest) ↔ Reads part cs j rest :=
  ⟨reads_of_run part, fun h => h.run_eq hfuel⟩

/-! ### More text -/

variable {tail : List Char}

/-- More text makes no difference, unless a numeral goes on in it. -/
theorem Reads.append {part : Part} (h : Reads part cs j rest) (htail : Ends tail) :
    Reads part (cs ++ tail) j (rest ++ tail) := by
  -- Only a numeral looks at the character after it, so only the rules for numerals need the tail
  -- to end one.
  induction h with
  | emptyObject hopen hclose =>
    exact .emptyObject (skipSpace_of_cons hopen tail) (skipSpace_of_cons hclose tail)
  | object hopen _ ih => exact .object (skipSpace_of_cons hopen tail) ih
  | emptyArray hopen hclose =>
    exact .emptyArray (skipSpace_of_cons hopen tail) (skipSpace_of_cons hclose tail)
  | array hopen _ ih => exact .array (skipSpace_of_cons hopen tail) ih
  | string hopen hstring =>
    exact .string (skipSpace_of_cons hopen tail) (string_extends tail hstring)
  | negative hopen hnumeral =>
    exact .negative (skipSpace_of_cons hopen tail) (numeral_extends htail true hnumeral)
  | positive hopen hdigit hnumeral =>
    exact .positive (skipSpace_of_cons hopen tail) hdigit (numeral_extends htail false hnumeral)
  | word hopen hword hrest =>
    refine .word (skipSpace_of_cons hopen tail) hword ?_
    rw [hrest, List.append_assoc]
  | lastItem _ hclose ih => exact .lastItem ih (skipSpace_of_cons hclose tail)
  | item _ hcomma _ ihvalue ih => exact .item ihvalue (skipSpace_of_cons hcomma tail) ih
  | lastMember hopen hname hcolon _ hclose ih =>
    exact .lastMember (skipSpace_of_cons hopen tail) (string_extends tail hname)
      (skipSpace_of_cons hcolon tail) ih (skipSpace_of_cons hclose tail)
  | member hopen hname hcolon _ hcomma _ ihvalue ih =>
    exact .member (skipSpace_of_cons hopen tail) (string_extends tail hname)
      (skipSpace_of_cons hcolon tail) ihvalue (skipSpace_of_cons hcomma tail) ih

/-- Blanks at the front make no difference. -/
theorem reads_skipSpace {part : Part} :
    Reads part (skipSpace cs) j rest ↔ Reads part cs j rest := by
  have hle : (skipSpace cs).length ≤ cs.length := List.length_dropWhile_le isSpace cs
  have hfuel : part.fuelFor (skipSpace cs) ≤ part.fuelFor cs := by
    cases part <;> simp only [Part.fuelFor] <;> omega
  rw [← run_eq_some_iff part hfuel, ← run_eq_some_iff part (Nat.le_refl _)]
  cases part with
  | value => rw [run, value_skipSpace]
  | items done => rw [run, items_skipSpace]
  | members done => rw [run, members_skipSpace]

end ConsoleReplay.Json.Reader
