import ConsoleReplay.Proofs.Text.Lines
import ConsoleReplay.Text.Utf8
import Mathlib.Data.List.Induction

/-!
# Cutting UTF-8 between sequences

A text may be decoded in two parts if the cut lies between sequences: the bytes
before it leave no sequence in progress, or the byte after it cannot go on with one.
Continuation bytes lie between `0x80` and `0xbf`, so every byte above them ends
whatever is in progress and begins anew.

The cut before an unfinished sequence at the end is of this kind, and without such a
sequence nothing is in progress at the end.  Both rest on one invariant of a run: the
sequence in progress is read from its own bytes alone, and there are at most three.

## Main definitions

* `Separable xs ys` — the cut between two texts lies between sequences.

## Main results

* `decodeLossy_append` — a text is decoded in parts at a separable cut.
* `separable_completeLength` — the cut at the complete length is separable,
  whatever follows later.
* `encode_append`, `encode_ascii` — a text is encoded character by character, and ASCII characters
  are bytes.
* `decode?_encode` — a text is read back from its bytes.
-/

namespace ConsoleReplay.Text.Utf8

/-! ### Single bytes -/

/-- A byte that begins a longer sequence completes nothing, and the bounds on the next
byte are those of continuation bytes. -/
theorem stepStart_partway {n missing lo hi acc : Nat} {out : List (Option Char)}
    (h : stepStart n = (.partway missing lo hi acc, out)) :
    out = [] ∧ 1 ≤ missing ∧ missing ≤ 3 ∧ hi ≤ 0xbf := by
  rw [stepStart] at h
  repeat' split at h
  all_goals cases h
  all_goals exact ⟨rfl, by decide⟩

/-- A byte that completes nothing begins a longer sequence. -/
theorem lt_of_stepStart_eq_nil {n : Nat} (h : (stepStart n).2 = []) : 0xbf < n := by
  rw [stepStart] at h
  split at h
  · simp at h
  · split at h
    · simp at h
    · omega

theorem run_cons (p : Progress) (b : UInt8) (bytes : List UInt8) :
    run p (b :: bytes)
      = ((run (step p b).1 bytes).1, (run (step p b).1 bytes).2 ++ (step p b).2.reverse) := by
  rw [show b :: bytes = [b] ++ bytes from rfl, run_append]
  simp [run]

theorem run_concat (p : Progress) (bytes : List UInt8) (b : UInt8) :
    run p (bytes ++ [b])
      = ((step (run p bytes).1 b).1, (step (run p bytes).1 b).2.reverse ++ (run p bytes).2) := by
  rw [run_append]
  simp [run]

/-! ### The invariant of a run -/

/-- The sequence in progress is read from its own bytes alone, which complete nothing;
with the ones that are missing there are at most four.  The next byte has to be a
continuation byte. -/
structure InProgress (bytes : List UInt8) (missing lo hi acc : Nat) : Prop where
  ofTail : ∃ before tail, bytes = before ++ tail ∧ tail ≠ [] ∧ tail.length + missing ≤ 4 ∧
    run .start tail = (.partway missing lo hi acc, [])
  missing_pos : 1 ≤ missing
  hi_le : hi ≤ 0xbf

/-- A byte that begins a sequence is all that has been read of it. -/
theorem InProgress.begin {bytes : List UInt8} {b : UInt8} {missing lo hi acc : Nat}
    (h : (stepStart b.toNat).1 = .partway missing lo hi acc) :
    InProgress (bytes ++ [b]) missing lo hi acc := by
  obtain ⟨hout, hpos, hle, hhi⟩ := stepStart_partway (Prod.ext h rfl)
  refine ⟨⟨bytes, [b], rfl, List.cons_ne_nil b [], ?_, ?_⟩, hpos, hhi⟩
  · rw [List.length_singleton]
    omega
  · simp [run, step, h, hout]

/-- A byte that goes on with a sequence is one more of its bytes. -/
theorem InProgress.continue {bytes : List UInt8} {b : UInt8} {missing lo hi acc : Nat}
    (h : InProgress bytes missing lo hi acc) (hlo : lo ≤ b.toNat) (hhi : b.toNat ≤ hi)
    (hmissing : 1 < missing) :
    InProgress (bytes ++ [b]) (missing - 1) 0x80 0xbf (acc * 64 + (b.toNat - 0x80)) := by
  obtain ⟨before, tail, rfl, -, hlen, hrun⟩ := h.ofTail
  refine ⟨⟨before, tail ++ [b], List.append_assoc .., ?_, ?_, ?_⟩, by omega, Nat.le_refl _⟩
  · exact List.append_ne_nil_of_right_ne_nil _ (List.cons_ne_nil b [])
  · rw [List.length_append, List.length_singleton]
    omega
  · rw [run_concat, hrun]
    simp [step, hlo, hhi, Nat.not_le_of_lt hmissing]

/-- A run never has a sequence in progress without this.  It says what the bytes of the sequence so
far are, so that the sequence can be found again from the end of the text. -/
theorem inProgress_of_run {bytes : List UInt8} {missing lo hi acc : Nat}
    (h : (run .start bytes).1 = .partway missing lo hi acc) :
    InProgress bytes missing lo hi acc := by
  -- Bytes are added at the end: what a run has in progress depends on all before.
  induction bytes using List.reverseRecOn generalizing missing lo hi acc with
  | nil => cases h
  | append_singleton bytes b ih =>
    rw [run_concat] at h
    cases hp : (run .start bytes).1 with
    | start =>
      rw [hp] at h
      exact .begin h
    | partway m l u a =>
      rw [hp] at h
      simp only [step] at h
      split at h
      · next hrange =>
        rw [Bool.and_eq_true, decide_eq_true_eq, decide_eq_true_eq] at hrange
        split at h
        · cases h
        · next hm =>
          cases h
          exact (ih hp).continue hrange.1 hrange.2 (Nat.lt_of_not_le hm)
      · exact .begin h

/-! ### Separable cuts

A text of bytes can be decoded in two parts if the cut does not go through a sequence.  It is
enough that the second part begins with a byte that no sequence goes on with. -/

/-- The cut between two texts lies between sequences. -/
def Separable (xs ys : List UInt8) : Prop :=
  (run .start xs).1 = .start ∨ ∃ b rest, ys = b :: rest ∧ 0xbf < b.toNat

/-- A byte above the continuation bytes ends what is in progress and begins anew. -/
theorem step_of_lt {xs : List UInt8} {b : UInt8} (hb : 0xbf < b.toNat) :
    step (run .start xs).1 b
      = ((stepStart b.toNat).1, (run .start xs).1.flush ++ (stepStart b.toNat).2) := by
  cases hp : (run .start xs).1 with
  | start => rfl
  | partway missing lo hi acc =>
    have hhi := (inProgress_of_run hp).hi_le
    have hrange : ¬ (b.toNat ≤ hi) := by omega
    simp [step, Progress.flush, hrange]

theorem reverse_flush (p : Progress) : p.flush.reverse = p.flush := by cases p <;> rfl

theorem pieces_append {xs ys : List UInt8} (h : Separable xs ys) :
    pieces (xs ++ ys) = pieces xs ++ pieces ys := by
  simp only [pieces, run_append]
  rcases h with hstart | ⟨b, rest, rfl, hb⟩
  · rw [hstart]
    simp [Progress.flush]
  · rw [run_cons, run_cons, step_of_lt hb, step]
    simp [reverse_flush]

/-- A text is decoded in parts at a separable cut. -/
theorem decodeLossy_append {xs ys : List UInt8} (h : Separable xs ys) :
    decodeLossy (xs ++ ys) = decodeLossy xs ++ decodeLossy ys := by
  rw [decodeLossy, pieces_append h, List.map_append]
  rfl

/-! ### The cut at the complete length -/

/-- An unfinished sequence begins with a byte above the continuation bytes. -/
theorem exists_cons_of_isUnfinished {bytes : List UInt8} (h : isUnfinished bytes = true) :
    ∃ b rest, bytes = b :: rest ∧ 0xbf < b.toNat := by
  cases bytes with
  | nil => cases h
  | cons b rest =>
    refine ⟨b, rest, rfl, lt_of_stepStart_eq_nil ?_⟩
    rw [isUnfinished, run_cons] at h
    split at h
    · next heq =>
      have hout := congrArg Prod.snd heq
      exact List.reverse_eq_nil_iff.1 (List.append_eq_nil_iff.1 hout).2
    · cases h

/-- Without an unfinished sequence among the last three bytes nothing is in progress at
the end. -/
theorem run_eq_start {bytes : List UInt8}
    (h : ∀ i, bytes.length - 3 ≤ i → i < bytes.length → isUnfinished (bytes.drop i) = false) :
    (run .start bytes).1 = .start := by
  cases hp : (run .start bytes).1 with
  | start => rfl
  | partway missing lo hi acc =>
    have hprog := inProgress_of_run hp
    have hpos := hprog.missing_pos
    obtain ⟨before, tail, rfl, hne, hlen, hrun⟩ := hprog.ofTail
    have htail := List.length_pos_iff.2 hne
    rw [List.length_append] at h
    have hfinished := h before.length (by omega) (by omega)
    rw [List.drop_left, isUnfinished, hrun] at hfinished
    cases hfinished

/-- The cut at the complete length is separable, whatever follows later. -/
theorem separable_completeLength (bytes more : List UInt8) :
    Separable (bytes.take (completeLength bytes)) (bytes.drop (completeLength bytes) ++ more) := by
  rw [completeLength]
  cases hfind : (List.range' (bytes.length - 3) (bytes.length - (bytes.length - 3))).find?
      fun i => isUnfinished (bytes.drop i) with
  | some i =>
    -- The cut is in front of a lead that misses bytes.  No sequence takes a lead for one of its
    -- own bytes, so whatever comes before the cut ends there, complete or broken off.
    have hunfinished : isUnfinished (bytes.drop i) = true := List.find?_some
      (p := fun i => isUnfinished (bytes.drop i)) hfind
    obtain ⟨b, rest, hdrop, hb⟩ := exists_cons_of_isUnfinished hunfinished
    refine Or.inr ⟨b, rest ++ more, ?_, hb⟩
    rw [Option.getD_some, hdrop, List.cons_append]
  | none =>
    -- No lead among the last three bytes misses any, and a sequence that began further in front
    -- has ended.
    refine Or.inl ?_
    rw [Option.getD_none, List.take_length]
    refine run_eq_start fun i hle hlt => ?_
    have hnone := List.find?_eq_none.1 hfind i (List.mem_range'_1.2 ⟨hle, by omega⟩)
    exact Bool.eq_false_iff.2 hnone

/-- What is decoded up to the complete length, and the rest with whatever follows it
later, make up the text decoded at once. -/
theorem decodeLossy_take_completeLength (bytes more : List UInt8) :
    decodeLossy (bytes.take (completeLength bytes))
        ++ decodeLossy (bytes.drop (completeLength bytes) ++ more)
      = decodeLossy (bytes ++ more) := by
  rw [← decodeLossy_append (separable_completeLength bytes more), ← List.append_assoc,
    List.take_append_drop]

/-! ### Characters -/

theorem stepStart_two {n : Nat} (hlo : 0xc2 ≤ n) (hhi : n < 0xe0) :
    stepStart n = (.partway 1 0x80 0xbf (n - 0xc0), []) := by
  rw [stepStart, if_neg (by omega), if_neg (by omega), if_pos hhi]

/-- The first byte of a sequence of three, which bounds the second one. -/
theorem stepStart_three {n : Nat} (hlo : 0xe0 ≤ n) (hhi : n < 0xf0) :
    stepStart n = (.partway 2 (if n = 0xe0 then 0xa0 else 0x80) (if n = 0xed then 0x9f else 0xbf)
      (n - 0xe0), []) := by
  by_cases hfirst : n = 0xe0
  · subst hfirst
    rfl
  by_cases hsurrogate : n = 0xed
  · subst hsurrogate
    rfl
  rw [stepStart, if_neg (by omega), if_neg (by omega), if_neg (by omega), if_neg hfirst,
    if_neg hsurrogate, if_pos hhi, if_neg hfirst, if_neg hsurrogate]

/-- The first byte of a sequence of four, which bounds the second one. -/
theorem stepStart_four {n : Nat} (hlo : 0xf0 ≤ n) (hhi : n ≤ 0xf4) :
    stepStart n = (.partway 3 (if n = 0xf0 then 0x90 else 0x80) (if n = 0xf4 then 0x8f else 0xbf)
      (n - 0xf0), []) := by
  by_cases hfirst : n = 0xf0
  · subst hfirst
    rfl
  by_cases hlast : n = 0xf4
  · subst hlast
    rfl
  rw [stepStart, if_neg (by omega), if_neg (by omega), if_neg (by omega), if_neg (by omega),
    if_neg (by omega), if_neg (by omega), if_neg hfirst, if_pos (by omega), if_neg hfirst,
    if_neg hlast]

/-- A byte between the bounds goes on with a sequence. -/
theorem step_partway {missing lo hi acc n : Nat} (hlo : lo ≤ n) (hhi : n ≤ hi) (hn : n < 256) :
    step (.partway missing lo hi acc) (UInt8.ofNat n)
      = if missing ≤ 1 then (.start, [some (.ofNat (acc * 64 + (n - 0x80)))])
        else (.partway (missing - 1) 0x80 0xbf (acc * 64 + (n - 0x80)), []) := by
  have hbyte : (UInt8.ofNat n).toNat = n := by
    rw [UInt8.toNat_ofNat']
    exact Nat.mod_eq_of_lt hn
  have hrange : (decide (lo ≤ n) && decide (n ≤ hi)) = true := by simp [hlo, hhi]
  rw [step, hbyte]
  exact if_pos hrange

/-- The bytes of a character are read as that character.  By the number of its bytes; each further
byte is in the range that the first one leaves to it. -/
theorem run_utf8EncodeChar (c : Char) :
    run .start (String.utf8EncodeChar c) = (.start, [some c]) := by
  have hbyte {n : Nat} (hn : n < 256) : step .start (UInt8.ofNat n) = stepStart n := by
    rw [step, UInt8.toNat_ofNat', Nat.mod_eq_of_lt hn]
  have hchar {n : Nat} (hn : n = c.val.toNat) : Char.ofNat n = c := hn ▸ Char.ofNat_toNat c
  -- No code point is a surrogate, and none is above the last one.
  have hvalid : c.val.toNat < 0xd800 ∨ 0xdfff < c.val.toNat ∧ c.val.toNat < 0x110000 := c.valid
  rw [String.utf8EncodeChar]
  generalize c.val.toNat = v at hchar hvalid
  split
  · rw [run_cons, hbyte (by omega), stepStart, if_pos (by omega), hchar rfl]
    rfl
  split
  · rw [run_cons, hbyte (by omega), stepStart_two (by omega) (by omega), run_cons,
      step_partway (by omega) (by omega) (by omega), if_pos (Nat.le_refl 1), hchar (by omega)]
    rfl
  split
  · rw [run_cons, hbyte (by omega), stepStart_three (by omega) (by omega), run_cons,
      step_partway (by split <;> omega) (by split <;> omega) (by omega), if_neg (by decide),
      run_cons, step_partway (by omega) (by omega) (by omega), if_pos (by decide),
      hchar (by omega)]
    rfl
  · rw [run_cons, hbyte (by omega), stepStart_four (by omega) (by omega), run_cons,
      step_partway (by split <;> omega) (by split <;> omega) (by omega), if_neg (by decide),
      run_cons, step_partway (by omega) (by omega) (by omega), if_neg (by decide), run_cons,
      step_partway (by omega) (by omega) (by omega), if_pos (by decide), hchar (by omega)]
    rfl

/-- Above ASCII every byte of a character lies above those of ASCII. -/
theorem le_of_mem_utf8EncodeChar {c : Char} (hc : 0x80 ≤ c.toNat) :
    ∀ b ∈ String.utf8EncodeChar c, 0x80 ≤ b.toNat := by
  have hval : ¬ c.val.toNat ≤ 127 := Nat.not_le.2 hc
  intro b hb
  simp only [String.utf8EncodeChar, if_neg hval] at hb
  split at hb
  all_goals try split at hb
  all_goals
    simp only [List.mem_cons, List.not_mem_nil, or_false] at hb
    rcases hb with rfl | rfl | rfl | rfl
    all_goals
      rw [UInt8.toNat_ofNat']
      omega

/-- A byte of ASCII stands only in the character that it is. -/
theorem eq_of_mem_utf8EncodeChar {c : Char} {b : UInt8} (hb : b.toNat < 0x80)
    (h : b ∈ String.utf8EncodeChar c) : c.toNat = b.toNat := by
  by_cases hc : 0x80 ≤ c.toNat
  · exact absurd (le_of_mem_utf8EncodeChar hc b h) (Nat.not_le.2 hb)
  · have hval : c.val.toNat ≤ 127 := Nat.le_of_lt_succ (Nat.not_le.1 hc)
    rw [String.utf8EncodeChar, if_pos hval] at h
    obtain rfl := List.mem_singleton.1 h
    rw [UInt8.toNat_ofNat']
    exact (Nat.mod_eq_of_lt (by omega)).symm

/-! ### Bytes of a text -/

/-- The bytes of a byte array in order. -/
theorem toList_eq_toList_data (bytes : ByteArray) : bytes.toList = bytes.data.toList := by
  have hloop (n i : Nat) (done : List UInt8) (hn : bytes.size - i = n) :
      ByteArray.toList.loop bytes i done = done.reverse ++ bytes.data.toList.drop i := by
    induction n generalizing i done with
    | zero =>
      have hend : bytes.data.toList.drop i = [] :=
        List.drop_eq_nil_iff.2 (Nat.le_of_sub_eq_zero hn)
      rw [ByteArray.toList.loop, if_neg (by omega), hend, List.append_nil]
    | succ n ih =>
      have hi : i < bytes.size := by omega
      have hi' : i < bytes.data.toList.length := hi
      rw [ByteArray.toList.loop, if_pos hi, ih (i + 1) _ (by omega), List.drop_eq_getElem_cons hi']
      simp [ByteArray.get!, hi]
  exact hloop _ 0 [] rfl

theorem encode_eq_flatMap (cs : List Char) : encode cs = cs.flatMap String.utf8EncodeChar := by
  have hbytes : (String.ofList cs).toUTF8 = (cs.flatMap String.utf8EncodeChar).toByteArray := rfl
  rw [encode, hbytes, toList_eq_toList_data, List.toList_data_toByteArray]

theorem encode_append (cs ds : List Char) : encode (cs ++ ds) = encode cs ++ encode ds := by
  rw [encode_eq_flatMap, List.flatMap_append, encode_eq_flatMap, encode_eq_flatMap]

theorem run_encode (cs : List Char) : run .start (encode cs) = (.start, (cs.map some).reverse) := by
  rw [encode_eq_flatMap]
  induction cs with
  | nil => rfl
  | cons c cs ih => rw [List.flatMap_cons, run_append, run_utf8EncodeChar, ih, List.map_cons,
      List.reverse_cons]

/-- A text is read back from its bytes. -/
theorem decode?_encode (cs : List Char) : decode? (encode cs) = some cs := by
  have hpieces : pieces (encode cs) = cs.map some := by
    rw [pieces, run_encode]
    simp [Progress.flush]
  rw [decode?, hpieces]
  simp

/-! ### Lines in bytes

Files are split into lines as bytes and decoded line by line, other texts the other way round.  It
comes to the same for a text that is well formed. -/

/-- A byte of ASCII stands in the bytes of a text only where its character stands in the text. -/
theorem mem_of_mem_encode {cs : List Char} {b : UInt8} (hb : b.toNat < 0x80) (h : b ∈ encode cs) :
    Char.ofNat b.toNat ∈ cs := by
  rw [encode_eq_flatMap] at h
  obtain ⟨c, hc, hmem⟩ := List.mem_flatMap.1 h
  rwa [← eq_of_mem_utf8EncodeChar hb hmem, Char.ofNat_toNat]

theorem encode_nil : encode [] = [] := encode_eq_flatMap []

theorem encode_cons (c : Char) (cs : List Char) :
    encode (c :: cs) = String.utf8EncodeChar c ++ encode cs := by
  rw [encode_eq_flatMap, List.flatMap_cons, encode_eq_flatMap]

/-- A byte of ASCII ends the bytes of a text only if its character ends the text. -/
theorem getLast?_of_getLast?_encode {cs : List Char} {b : UInt8} (hb : b.toNat < 0x80)
    (h : (encode cs).getLast? = some b) : cs.getLast? = some (Char.ofNat b.toNat) := by
  obtain rfl | ⟨init, c, rfl⟩ := List.eq_nil_or_concat' cs
  · rw [encode_nil] at h
    cases h
  · have hne : String.utf8EncodeChar c ≠ [] := String.utf8EncodeChar_ne_nil
    rw [encode_append, encode_cons, encode_nil, List.append_nil,
      List.getLast?_append_of_ne_nil _ hne] at h
    rw [List.getLast?_concat, ← eq_of_mem_utf8EncodeChar hb (List.mem_of_getLast? h),
      Char.ofNat_toNat]

/-- The lines of a text are found in its bytes. -/
theorem linesBy_encode {cs : List Char} {ls : List (List Char)} (h : Lined cs ls) :
    linesBy 10 13 (encode cs) = ls.map encode := by
  have hbytes (line : List Char) : '\n' ∉ line → (10 : UInt8) ∉ encode line :=
    fun hline hmem => hline (mem_of_mem_encode (by decide) hmem)
  have hfeed (rest : List Char) : encode ('\n' :: rest) = 10 :: encode rest := encode_cons '\n' rest
  -- A line feed and a carriage return are bytes of their own and occur in the bytes of no other
  -- character, so the ends of lines are found alike.
  induction h with
  | nil =>
    rw [encode_nil]
    rfl
  | @last line hline hne =>
    have hne' : encode line ≠ [] := by
      obtain ⟨c, cs, rfl⟩ := List.exists_cons_of_ne_nil hne
      rw [encode_cons]
      exact List.append_ne_nil_of_left_ne_nil String.utf8EncodeChar_ne_nil _
    exact linesBy_last (hbytes line hline) hne'
  | @feed line rest ls hline hreturn _ ih =>
    have hlast : (encode line).getLast? ≠ some 13 := fun hlast =>
      hreturn (getLast?_of_getLast?_encode (by decide) hlast)
    rw [encode_append, hfeed, linesBy_of_lineStep (hbytes line hline) (lineStep_feed [] hlast), ih,
      List.map_cons]
  | @returnFeed line rest ls hline _ ih =>
    have hstep : lineStep 10 13 ([], (encode line ++ [13]).reverse) 10 = ([encode line], []) := by
      rw [List.reverse_append]
      exact lineStep_returnFeed [] (encode line)
    have hmem : (10 : UInt8) ∉ encode line ++ [13] := by
      simp [hbytes line hline]
    have hend : encode ('\r' :: '\n' :: rest) = [13] ++ 10 :: encode rest := by
      rw [encode_cons, hfeed]
      rfl
    rw [encode_append, hend, ← List.append_assoc, linesBy_of_lineStep hmem hstep, ih, List.map_cons]

/-- The lines of a text are read back from its bytes. -/
theorem decode?_linesBy_encode (cs : List Char) :
    (linesBy 10 13 (encode cs)).map decode? = (lines cs).map some := by
  rw [linesBy_encode (lines_eq_iff.1 rfl), List.map_map]
  exact List.map_congr_left fun line _ => decode?_encode line

/-- The byte of an ASCII character. -/
def asciiByte (c : Char) : UInt8 := UInt8.ofNat c.toNat

/-- An ASCII text has a byte for every character. -/
theorem encode_ascii {cs : List Char} (h : ∀ c ∈ cs, c.toNat < 0x80) :
    encode cs = cs.map asciiByte := by
  rw [encode_eq_flatMap]
  induction cs with
  | nil => rfl
  | cons c cs ih =>
    obtain ⟨hc, hcs⟩ := List.forall_mem_cons.1 h
    have hbyte : String.utf8EncodeChar c = [asciiByte c] := if_pos (Nat.le_of_lt_succ hc)
    rw [List.flatMap_cons, ih hcs, hbyte, List.singleton_append, List.map_cons]

end ConsoleReplay.Text.Utf8
