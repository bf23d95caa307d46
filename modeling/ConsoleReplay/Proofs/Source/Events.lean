import ConsoleReplay.Proofs.Text.Utf8
import ConsoleReplay.Source.Recording
import Mathlib.Data.List.Forall2

/-!
# The events of a recording

Behind its header a recording has a line for each event.  Which lines are events can be said without
reading them one after the other: they are arrays that begin with a time and a type, and with a text
where something was typed or printed.  A recording is read if all its lines are blank or events, and
what is read of it can be said line by line too: each line lets time pass, the lines of what was
typed or printed give the events, and each event gives a row.  Of the lines that are neither, the
first one is reported.

## Main definitions

* `Double.Within limit x` — a number from zero up to a limit.
* `Entry.Told items entry`, `Entry.On line entry` — what an array and a line tell.
* `timed start entries` — the events of entries, the first of which follows a time.
* `LogRow.Records start number event row` — the row of an event.

## Main results

* `Entry.parse_eq_ok_iff` — what is read of a line is what it tells.
* `eventsOf_eq_ok_iff`, `eventsOf_eq_badEvent` — what is read of lines.
* `rowsFrom_eq_ok_iff` — the rows of events.
* `parse_encode` — the lines of a text are read from its bytes.
* `parse_tells` — **the events of a recording are its lines**.
-/

namespace ConsoleReplay

/-! ### Times -/

/-- A finite double that is a number from zero up to a limit, minus zero among them.  It is told in
units, where doubles are whole numbers. -/
inductive Double.Within (limit : Nat) : Double → Prop
  | intro {negative : Bool} {units : Nat} (hlo : 0 ≤ signedUnits negative units)
      (hhi : signedUnits negative units ≤ (limit * unitsOfOne : Nat)) :
      Within limit (.finite negative units)

namespace Recording

theorem maxInterval_eq : maxInterval = .finite false (31536000 * Double.unitsOfOne) := by
  decide +kernel

/-- The times that are not refused are the numbers up to a year. -/
theorem within_iff {time : Double} :
    time.Within 31536000
      ↔ (!time.isFinite || time.lt .zero) = false ∧ maxInterval.lt time = false := by
  rw [maxInterval_eq]
  constructor
  · rintro ⟨hlo, hhi⟩
    exact ⟨decide_eq_false (Int.not_lt.2 hlo), decide_eq_false (Int.not_lt.2 hhi)⟩
  · rintro ⟨hlo, hhi⟩
    cases time with
    | nan negative => cases hlo
    | infinite negative => cases hlo
    | finite negative units =>
      exact ⟨Int.not_lt.1 (of_decide_eq_false hlo), Int.not_lt.1 (of_decide_eq_false hhi)⟩

/-- What is read as a time is a number up to a year. -/
theorem Entry.timeOf_eq_ok_iff {j : Json} {time : Double} :
    timeOf j = .ok time ↔ j.double? = some time ∧ time.Within 31536000 := by
  rw [timeOf, within_iff]
  cases j.double? with
  | none => simp
  | some x =>
    dsimp only
    -- The bounds are checked one after the other, so the second split knows that the first check
    -- has passed.
    split
    · next hlo =>
      refine iff_of_false (fun h => nomatch h) ?_
      rintro ⟨⟨⟩, hfit, -⟩
      exact absurd hfit (Bool.eq_false_iff.not_left.2 hlo)
    · next hlo =>
      split
      · next hhi =>
        refine iff_of_false (fun h => nomatch h) ?_
        rintro ⟨⟨⟩, -, hfit⟩
        exact absurd hhi (Bool.eq_false_iff.1 hfit)
      · next hhi =>
        constructor
        · rintro ⟨⟩
          exact ⟨rfl, Bool.eq_false_iff.2 hlo, Bool.eq_false_iff.2 hhi⟩
        · rintro ⟨⟨⟩, -⟩
          rfl

/-! ### Lines -/

/-- What the items of an array tell: a time, a type, and what was typed or printed.  Of another
type it is only that time passed. -/
inductive Entry.Told : List Json → Entry → Prop
  | input {time : Json} {interval : Double} (text : String) (more : List Json)
      (htime : time.double? = some interval) (hyear : interval.Within 31536000) :
      Told (time :: .string "i" :: .string text :: more) ⟨interval, some (.input, text)⟩
  | output {time : Json} {interval : Double} (text : String) (more : List Json)
      (htime : time.double? = some interval) (hyear : interval.Within 31536000) :
      Told (time :: .string "o" :: .string text :: more) ⟨interval, some (.output, text)⟩
  | other {time : Json} {interval : Double} {type : String} (data : Json) (more : List Json)
      (htime : time.double? = some interval) (hyear : interval.Within 31536000)
      (htype : type ≠ "i" ∧ type ≠ "o") :
      Told (time :: .string type :: data :: more) ⟨interval, none⟩

/-- What a line tells: it is an array that does. -/
def Entry.On (line : List Char) (entry : Entry) : Prop :=
  ∃ items, Json.parse? line = some (.array items) ∧ (Json.array items).isSound = true
    ∧ Told items entry

theorem directionOfType?_of_ne {type : String} (h : type ≠ "i" ∧ type ≠ "o") :
    directionOfType? type = none := by
  rw [directionOfType?, if_neg h.2, if_neg h.1]

/-- What is read of the items of an array behind a time.  The time is looked at before the type, and
the type before the data. -/
theorem Entry.ofItems_cons {time : Json} {interval : Double} (htime : timeOf time = .ok interval)
    (type : String) (data : Json) (more : List Json) :
    ofItems (time :: .string type :: data :: more)
      = (directionOfType? type).elim (.ok ⟨interval, none⟩) fun direction =>
          data.string?.elim (.error .dataNotString) fun text =>
            .ok ⟨interval, some (direction, text)⟩ := by
  rw [ofItems, htime]
  cases hdirection : directionOfType? type with
  | none =>
    simp only [bind, Except.bind, hdirection]
    rfl
  | some direction =>
    simp only [bind, Except.bind, hdirection]
    cases data <;> rfl

/-- What is read of the items of an array is what they tell. -/
theorem Entry.ofItems_eq_ok_iff {items : List Json} {entry : Entry} :
    ofItems items = .ok entry ↔ Told items entry := by
  constructor
  · intro h
    -- In the order of the program: the time first, then the type, and the data only for the two
    -- types that are kept.  So an entry of another type may have data of any kind.
    match items with
    | [] | [_] | [_, _] => cases h
    | time :: type :: data :: more =>
      cases htime : timeOf time with
      | error e =>
        rw [ofItems, htime] at h
        cases h
      | ok interval =>
        obtain ⟨hnumber, hyear⟩ := timeOf_eq_ok_iff.1 htime
        cases type with
        | string type =>
          rw [ofItems_cons htime] at h
          by_cases hin : type = "i"
          · subst hin
            cases data with
            | string text =>
              obtain rfl := Except.ok.inj h
              exact .input text more hnumber hyear
            | _ => cases h
          by_cases hout : type = "o"
          · subst hout
            cases data with
            | string text =>
              obtain rfl := Except.ok.inj h
              exact .output text more hnumber hyear
            | _ => cases h
          rw [directionOfType?_of_ne ⟨hin, hout⟩] at h
          obtain rfl := Except.ok.inj h
          exact .other data more hnumber hyear ⟨hin, hout⟩
        | _ =>
          rw [ofItems, htime] at h
          cases h
  · rintro (⟨text, more, hnumber, hyear⟩ | ⟨text, more, hnumber, hyear⟩ |
      ⟨data, more, hnumber, hyear, htype⟩)
    · exact ofItems_cons (timeOf_eq_ok_iff.2 ⟨hnumber, hyear⟩) "i" (.string text) more
    · exact ofItems_cons (timeOf_eq_ok_iff.2 ⟨hnumber, hyear⟩) "o" (.string text) more
    · rw [ofItems_cons (timeOf_eq_ok_iff.2 ⟨hnumber, hyear⟩), directionOfType?_of_ne htype]
      rfl

/-- What is read of a line is what it tells. -/
theorem Entry.parse_eq_ok_iff {line : List Char} {entry : Entry} :
    parse line = .ok entry ↔ On line entry := by
  rw [parse, On]
  cases hparse : Json.parse? line with
  | none => simp
  | some j =>
    -- A value that is nested too deeply, or has a part that stands for nothing, is read by the
    -- grammar and rejected here.
    cases hsound : j.isSound with
    | false =>
      refine iff_of_false (fun h => ?_) ?_
      · simp only [hsound] at h
        cases h
      · rintro ⟨items, ⟨⟩, htrue, -⟩
        rw [hsound] at htrue
        cases htrue
    | true =>
      cases j with
      | array items =>
        simp only [hsound, if_true, ofItems_eq_ok_iff]
        constructor
        · exact fun h => ⟨items, rfl, hsound, h⟩
        · rintro ⟨_, ⟨⟩, -, h⟩
          exact h
      | _ =>
        simp only [hsound, if_true]
        refine iff_of_false (fun h => nomatch h) ?_
        rintro ⟨items, ⟨⟩, -⟩

/-! ### Lines in order

Times add up over all lines, events and others, and the sums are rounded one after the other.  So
they are told by the same additions in the same order. -/

/-- The times at which entries come, the first of which follows a time. -/
def clock (start : Double) (entries : List Entry) : List Double :=
  (entries.scanl (fun time entry => time.add entry.interval) start).tail

/-- The events of entries, the first of which follows a time.  Every entry lets its time pass; it
gives an event if something was typed or printed then. -/
def timed (start : Double) (entries : List Entry) : List Event :=
  (entries.zip (clock start entries)).filterMap fun placed =>
    placed.1.content.map fun content =>
      ⟨placed.2, placed.1.interval, content.1, content.2⟩

theorem clock_cons (start : Double) (entry : Entry) (entries : List Entry) :
    clock start (entry :: entries)
      = start.add entry.interval :: clock (start.add entry.interval) entries := by
  cases entries <;> simp [clock, List.scanl_cons]

theorem timed_cons (start : Double) (entry : Entry) (entries : List Entry) :
    timed start (entry :: entries)
      = (entry.content.map fun content =>
          Event.mk (start.add entry.interval) entry.interval content.1 content.2).toList
        ++ timed (start.add entry.interval) entries := by
  rw [timed, clock_cons, List.zip_cons_cons, List.filterMap_cons]
  dsimp only
  cases entry.content with
  | none => rfl
  | some content => rfl

/-- The first line that is not blank lets time pass, and the lines behind it follow. -/
theorem eventsOf_cons_of_on {line : List Char} {entry : Entry}
    (hblank : Text.blankLine line = false) (h : Entry.On line entry) (number : Nat)
    (elapsed : Double) (lines : List (Option (List Char))) :
    eventsOf number elapsed (some line :: lines)
      = (eventsOf (number + 1) (elapsed.add entry.interval) lines).map
          ((entry.content.map fun content =>
            Event.mk (elapsed.add entry.interval) entry.interval content.1 content.2).toList
              ++ ·) := by
  rw [eventsOf, hblank, Entry.parse_eq_ok_iff.2 h]
  rfl

theorem eventsOf_cons_of_blank {line : List Char} (hblank : Text.blankLine line = true)
    (number : Nat) (elapsed : Double) (lines : List (Option (List Char))) :
    eventsOf number elapsed (some line :: lines) = eventsOf (number + 1) elapsed lines := by
  rw [eventsOf, hblank]
  rfl

/-- Lines are read if each of them is blank or tells an entry, and the events are those of the
entries. -/
theorem eventsOf_eq_ok_iff {lines : List (List Char)} {number : Nat} {elapsed : Double}
    {events : List Event} :
    eventsOf number elapsed (lines.map some) = .ok events
      ↔ ∃ entries, List.Forall₂ Entry.On (lines.filter (!Text.blankLine ·)) entries
          ∧ events = timed elapsed entries := by
  induction lines generalizing number elapsed events with
  | nil =>
    constructor
    · rintro ⟨⟩
      exact ⟨[], .nil, rfl⟩
    · rintro ⟨_, ⟨⟩, rfl⟩
      rfl
  | cons line lines ih =>
    rw [List.map_cons]
    cases hblank : Text.blankLine line with
    | true => rw [eventsOf_cons_of_blank hblank, ih, List.filter_cons_of_neg (by simp [hblank])]
    | false =>
      -- The entry of this line comes first, and its time has passed for the lines behind it.
      rw [List.filter_cons_of_pos (by simp [hblank])]
      constructor
      · intro h
        cases hparse : Entry.parse line with
        | error e =>
          rw [eventsOf, hblank, hparse] at h
          cases h
        | ok entry =>
          have hon := Entry.parse_eq_ok_iff.1 hparse
          rw [eventsOf_cons_of_on hblank hon] at h
          cases hrest : eventsOf (number + 1) (elapsed.add entry.interval) (lines.map some) with
          | error e =>
            rw [hrest] at h
            cases h
          | ok rest =>
            obtain ⟨entries, hentries, rfl⟩ := ih.1 hrest
            rw [hrest] at h
            refine ⟨entry :: entries, .cons hon hentries, ?_⟩
            rw [timed_cons]
            exact (Except.ok.inj h).symm
      · rintro ⟨told, htold, rfl⟩
        obtain ⟨entry, entries, hon, hentries, rfl⟩ := List.forall₂_cons_left_iff.1 htold
        rw [eventsOf_cons_of_on hblank hon, ih.2 ⟨entries, hentries, rfl⟩, timed_cons]
        rfl

/-- The first line that is neither blank nor an event is reported by its number. -/
theorem eventsOf_eq_badEvent {before : List (List Char)} {line : List Char} {e : EntryError}
    (hbefore : ∀ l ∈ before, Text.blankLine l = true ∨ ∃ entry, Entry.On l entry)
    (hblank : Text.blankLine line = false) (hline : Entry.parse line = .error e)
    (after : List (List Char)) (number : Nat) (elapsed : Double) :
    eventsOf number elapsed ((before ++ line :: after).map some)
      = .error (.badEvent (number + before.length) e) := by
  -- The number and the time run along; only the number can be seen in the error.
  induction before generalizing number elapsed with
  | nil =>
    rw [List.nil_append, List.map_cons, eventsOf, hblank, hline]
    rfl
  | cons l before ih =>
    obtain ⟨hl, hbefore⟩ := List.forall_mem_cons.1 hbefore
    have hnumber : number + 1 + before.length = number + (l :: before).length := by
      rw [List.length_cons]
      omega
    rw [List.cons_append, List.map_cons]
    cases hshown : Text.blankLine l with
    | true => rw [eventsOf_cons_of_blank hshown, ih hbefore, hnumber]
    | false =>
      obtain ⟨entry, hon⟩ := hl.resolve_left (ne_true_of_eq_false hshown)
      rw [eventsOf_cons_of_on hshown hon, ih hbefore, hnumber]
      rfl

/-- The lines of a text are read from its bytes. -/
theorem parse_encode (content : List Char) :
    parse (Text.Utf8.encode content) = ofLines ((Text.lines content).map some) := by
  unfold parse
  rw [Text.Utf8.decode?_linesBy_encode]

end Recording

/-! ### Rows -/

/-- The offset of an event to the nearest millisecond, held to 64 bits. -/
def Recording.Event.milliseconds (event : Recording.Event) : Int :=
  (event.offset.mul (.ofNat 1000)).roundToInt leastSigned greatestSigned

/-- The row of an event: it has a number, the direction and the data of the event, and the time at
its offset from the start. -/
structure LogRow.Records (start : Instant) (number : Nat) (event : Recording.Event) (row : LogRow) :
    Prop where
  sequence : row.sequence = number
  isInput : row.isInput = true ↔ event.direction = .input
  content : row.content = event.data
  timestamp : start.addMilliseconds? event.milliseconds = some row.timestamp

namespace Recording

theorem rowOf_eq_ok_iff {start : Instant} {number : Nat} {event : Event} {row : LogRow} :
    rowOf start number event = .ok row ↔ row.Records start number event := by
  -- The instant is the only thing that can be missing.
  have hrow : rowOf start number event
      = (start.addMilliseconds? event.milliseconds).elim (.error (.outOfRange number event.offset))
          fun timestamp => .ok ⟨number, timestamp, event.direction = .input, event.data⟩ := by
    unfold rowOf Event.milliseconds
    generalize (event.offset.mul (.ofNat 1000)).roundToInt leastSigned greatestSigned = ms
    dsimp only
    cases start.addMilliseconds? ms <;> rfl
  rw [hrow]
  constructor
  · intro h
    cases htimestamp : start.addMilliseconds? event.milliseconds with
    | none =>
      rw [htimestamp] at h
      cases h
    | some timestamp =>
      rw [htimestamp] at h
      obtain rfl := Except.ok.inj h
      exact ⟨rfl, decide_eq_true_iff, rfl, htimestamp⟩
  · obtain ⟨sequence, timestamp, isInput, content⟩ := row
    rintro ⟨rfl, hinput, rfl, htimestamp⟩
    have hdirection : isInput = decide (event.direction = .input) :=
      Bool.eq_iff_iff.2 (hinput.trans decide_eq_true_iff.symm)
    rw [htimestamp, hdirection]
    rfl

/-- The rows of events are made one after the other, each with the next number. -/
theorem rowsFrom_eq_ok_iff {start : Instant} {number : Nat} {events : List Event}
    {rows : List LogRow} :
    rowsFrom start number events = .ok rows
      ↔ List.Forall₂ (fun numbered row => row.Records start numbered.2 numbered.1)
          (events.zipIdx number) rows := by
  -- The numbers are those of the enumeration from the first one on, so each row knows its own.
  induction events generalizing number rows with
  | nil =>
    rw [rowsFrom, List.zipIdx_nil, List.forall₂_nil_left_iff]
    exact ⟨fun h => (Except.ok.inj h).symm, fun h => congrArg _ h.symm⟩
  | cons event events ih =>
    rw [List.zipIdx_cons, List.forall₂_cons_left_iff, rowsFrom]
    constructor
    · intro h
      cases hrow : rowOf start number event with
      | error e =>
        rw [hrow] at h
        cases h
      | ok row =>
        cases hrest : rowsFrom start (number + 1) events with
        | error e =>
          rw [hrow, hrest] at h
          cases h
        | ok rest =>
          rw [hrow, hrest] at h
          exact ⟨row, rest, rowOf_eq_ok_iff.1 hrow, ih.1 hrest, (Except.ok.inj h).symm⟩
    · rintro ⟨row, rest, hrow, hrest, rfl⟩
      rw [rowOf_eq_ok_iff.2 hrow, ih.2 hrest]
      rfl

/-! ### Recordings -/

/-- Lines each of which tells an entry tell entries in order. -/
theorem forall_exists_on_iff {lines : List (List Char)} :
    (∀ line ∈ lines, ∃ entry, Entry.On line entry)
      ↔ ∃ entries, List.Forall₂ Entry.On lines entries := by
  constructor
  · intro h
    induction lines with
    | nil => exact ⟨[], .nil⟩
    | cons line lines ih =>
      obtain ⟨⟨entry, hon⟩, hlines⟩ := List.forall_mem_cons.1 h
      obtain ⟨entries, hentries⟩ := ih hlines
      exact ⟨entry :: entries, .cons hon hentries⟩
  · rintro ⟨entries, h⟩
    induction h with
    | nil => exact List.forall_mem_nil _
    | cons hon _ ih => exact List.forall_mem_cons.2 ⟨⟨_, hon⟩, ih⟩

theorem map_eq_ok_iff {ε α β : Type} {f : α → β} {result : Except ε α} {b : β} :
    result.map f = .ok b ↔ ∃ a, result = .ok a ∧ f a = b := by
  cases result <;> simp [Except.map]

/-- What is read behind a header. -/
theorem parse_of_header {content first : List Char} {rest : List (List Char)} {header : Header}
    (hlines : Text.lines content = first :: rest)
    (hheader : (Json.parse? first).bind Header.ofJson? = some header)
    (hversion : header.version = 3) :
    parse (Text.Utf8.encode content)
      = (eventsOf 2 .zero (rest.map some)).map (Recording.mk header) := by
  rw [parse_encode, hlines, List.map_cons, ofLines, hheader]
  exact if_pos hversion

/-- **The events of a recording are its lines.**  Take a text whose first line is a header of
version 3.  It is read exactly if every other line is blank or tells an entry.  Then the events are
what was typed or printed, in the order of the lines, each at the sum of all times up to its line;
and they give the rows, if they do: one for each, numbered from one on.  If not, the first line that
is neither blank nor tells an entry is reported by its number. -/
theorem parse_tells {content first : List Char} {rest : List (List Char)} {header : Header}
    (hlines : Text.lines content = first :: rest)
    (hheader : (Json.parse? first).bind Header.ofJson? = some header)
    (hversion : header.version = 3) :
    let parsed := parse (Text.Utf8.encode content)
    ((∃ r, parsed = .ok r)
        ↔ ∀ line ∈ rest, Text.blankLine line = false → ∃ entry, Entry.On line entry)
      ∧ (∀ r, parsed = .ok r → r.header = header
          ∧ (∃ entries, List.Forall₂ Entry.On (rest.filter (!Text.blankLine ·)) entries
              ∧ r.events = timed .zero entries)
          ∧ ∀ rows, r.toRows = .ok rows
              ↔ List.Forall₂ (fun numbered row => row.Records r.startTime numbered.2 numbered.1)
                  (r.events.zipIdx 1) rows)
      ∧ ∀ before line after, rest = before ++ line :: after →
          (∀ l ∈ before, Text.blankLine l = true ∨ ∃ entry, Entry.On l entry) →
          Text.blankLine line = false → (¬ ∃ entry, Entry.On line entry) →
          ∃ e, parsed = .error (.badEvent (before.length + 2) e)
            ∧ (RecordingError.badEvent (before.length + 2) e).fault.headline
              = s!"Failed to parse event on line {before.length + 2}" := by
  rw [parse_of_header hlines hheader hversion]
  -- The program skips blank lines as it meets them; without them the condition is one on the
  -- lines that are left.
  have hshown : (∀ line ∈ rest, Text.blankLine line = false → ∃ entry, Entry.On line entry)
      ↔ ∃ entries, List.Forall₂ Entry.On (rest.filter (!Text.blankLine ·)) entries := by
    rw [← forall_exists_on_iff]
    simp [List.mem_filter]
  intro parsed
  refine ⟨⟨?_, fun h => ?_⟩, fun r hr => ?_, ?_⟩
  · rintro ⟨r, hr⟩
    obtain ⟨events, hevents, -⟩ := map_eq_ok_iff.1 hr
    obtain ⟨entries, hentries, -⟩ := eventsOf_eq_ok_iff.1 hevents
    exact hshown.2 ⟨entries, hentries⟩
  · obtain ⟨entries, hentries⟩ := hshown.1 h
    exact ⟨_, map_eq_ok_iff.2 ⟨_, eventsOf_eq_ok_iff.2 ⟨entries, hentries, rfl⟩, rfl⟩⟩
  · obtain ⟨events, hevents, rfl⟩ := map_eq_ok_iff.1 hr
    exact ⟨rfl, eventsOf_eq_ok_iff.1 hevents, fun rows => rowsFrom_eq_ok_iff⟩
  · rintro before line after rfl hbefore hblank hline
    cases hparse : Entry.parse line with
    | ok entry => exact absurd ⟨entry, Entry.parse_eq_ok_iff.1 hparse⟩ hline
    | error e =>
      have hbad := eventsOf_eq_badEvent hbefore hblank hparse after 2 .zero
      rw [Nat.add_comm] at hbad
      exact ⟨e, congrArg (Except.map (Recording.mk header)) hbad, rfl⟩

/-- Output, a blank line, a marker and input, and behind them an event that is too short. -/
theorem parse_tells_marker :
    let first := "\x7b\"version\": 3\x7d".toList
    let rest := ["[0.5, \"o\", \"> \"]".toList, " \t".toList, "[0.25, \"m\", null]".toList,
      "[1, \"i\", \"x\", 7]".toList]
    let short := "[0.1, \"o\"]".toList
    let content := (first :: rest).flatMap (· ++ ['\n'])
    let rows : List LogRow :=
      [⟨1, ⟨0, 0, 500000000⟩, false, "> "⟩, ⟨2, ⟨0, 1, 750000000⟩, true, "x"⟩]
    ∃ r e, parse (Text.Utf8.encode content) = .ok r
      ∧ List.Forall₂ (fun numbered row => LogRow.Records .epoch numbered.2 numbered.1 row)
          (r.events.zipIdx 1) rows
      ∧ parse (Text.Utf8.encode (content ++ short)) = .error (.badEvent 6 e) := by
  intro first rest short content rows
  have hlines : Text.lines content = first :: rest := by decide +kernel
  have hlines' : Text.lines (content ++ short) = first :: (rest ++ [short]) := by decide +kernel
  have hheader : (Json.parse? first).bind Header.ofJson? = some ⟨3, none, none, none⟩ := by
    decide +kernel
  have hparse : (parse (Text.Utf8.encode content)).bind toRows = .ok rows := by
    rw [parse_encode]
    decide +kernel
  obtain ⟨r, hread, hrows⟩ : ∃ r, parse (Text.Utf8.encode content) = .ok r
      ∧ r.toRows = .ok rows := by
    cases hread : parse (Text.Utf8.encode content) with
    | error e =>
      rw [hread] at hparse
      cases hparse
    | ok r =>
      rw [hread] at hparse
      exact ⟨r, rfl, hparse⟩
  obtain ⟨hok, htells, -⟩ := parse_tells hlines hheader rfl
  obtain ⟨hhead, -, hrecords⟩ := htells r hread
  have hstart : r.startTime = .epoch := by
    rw [startTime, hhead]
    rfl
  -- The lines in front of the short one are good, since the text without it is read.
  have hbefore : ∀ l ∈ rest, Text.blankLine l = true ∨ ∃ entry, Entry.On l entry := fun l hl =>
    (Bool.eq_false_or_eq_true _).imp_right (hok.1 ⟨r, hread⟩ l hl)
  have hshort : ¬ ∃ entry, Entry.On short entry := by
    rintro ⟨entry, hon⟩
    have htooShort : Entry.parse short = .error .tooShort := by decide +kernel
    rw [Entry.parse_eq_ok_iff.2 hon] at htooShort
    cases htooShort
  obtain ⟨-, -, hbad⟩ := parse_tells hlines' hheader rfl
  obtain ⟨e, he, -⟩ := hbad rest short [] rfl hbefore (by decide) hshort
  refine ⟨r, e, hread, ?_, he⟩
  rw [← hstart]
  exact (hrecords _).1 hrows

end Recording

end ConsoleReplay
