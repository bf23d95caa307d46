import ConsoleReplay.Proofs.Text.Utf8
import ConsoleReplay.Screen.Session
import Mathlib.Data.List.TakeWhile

/-!
# Output that is read in pieces

An output is read in pieces of any sizes, and a cut may fall inside a character or a
malformed sequence.  Each time the session is fed what is complete, and the rest is
held back until more is read.  All in all the session receives the characters of the
output decoded at once: none is lost, doubled or replaced because of a cut.

## Main definitions

* `LiveSession.fed session cs` — an unfinished session after a text.

## Main results

* `close_foldlM_take` — what has been held back and what is still to be read reach
  the session as one decoded text.
* `render_of_open` — an output that is read in pieces, told as one text.
* `render_eq_finish_feed` — **reading in pieces is reading at once**.
-/

namespace ConsoleReplay

namespace LiveSession

open Text.Utf8 (decodeLossy completeLength decodeLossy_take_completeLength)

/-- The session after a text, if it is not finished. -/
def fed (session : LiveSession) (cs : List Char) : LiveSession :=
  { session with terminal := session.terminal.feed cs }

theorem feed_of_open {session : LiveSession} (h : session.finished = false) (cs : List Char) :
    session.feed cs = .ok (session.fed cs) := by
  rw [feed, if_neg (by rw [h]; exact Bool.false_ne_true)]
  rfl

@[simp] theorem fed_append (session : LiveSession) (cs ds : List Char) :
    session.fed (cs ++ ds) = (session.fed cs).fed ds := by
  simp only [fed, Terminal.feed_append]

/-- A piece that is read reaches an unfinished session up to its complete length,
together with what was held back before. -/
theorem take_of_open {session : LiveSession} (h : session.finished = false)
    (held piece : List UInt8) :
    Intake.take ⟨session, held⟩ piece
      = .ok ⟨session.fed (decodeLossy ((held ++ piece).take (completeLength (held ++ piece)))),
          (held ++ piece).drop (completeLength (held ++ piece))⟩ := by
  simp only [Intake.take]
  rw [feed_of_open h]
  rfl

/-- At the end of the output what was held back reaches the session as it is. -/
theorem close_of_open {session : LiveSession} (h : session.finished = false)
    (held : List UInt8) :
    Intake.close ⟨session, held⟩ = .ok (session.fed (decodeLossy held)) := by
  cases held with
  | nil => rfl
  | cons b held => exact feed_of_open h _

/-- What has been held back and what is still to be read reach an unfinished session as
one decoded text. -/
theorem close_foldlM_take {session : LiveSession} (h : session.finished = false)
    (held : List UInt8) (reads : List (List UInt8)) :
    reads.foldlM Intake.take ⟨session, held⟩ >>= Intake.close
      = .ok (session.fed (decodeLossy (held ++ reads.flatten))) := by
  -- What is held back differs from read to read, so the induction is over all of it.
  induction reads generalizing session held with
  | nil =>
    rw [List.flatten_nil, List.append_nil]
    exact close_of_open h held
  | cons piece reads ih =>
    let n := completeLength (held ++ piece)
    have hopen : (session.fed (decodeLossy ((held ++ piece).take n))).finished = false := h
    calc
      (piece :: reads).foldlM Intake.take ⟨session, held⟩ >>= Intake.close
          = reads.foldlM Intake.take ⟨session.fed (decodeLossy ((held ++ piece).take n)),
              (held ++ piece).drop n⟩ >>= Intake.close := by
            rw [List.foldlM_cons, take_of_open h]
            rfl
      _ = .ok (session.fed (decodeLossy ((held ++ piece).take n)
              ++ decodeLossy ((held ++ piece).drop n ++ reads.flatten))) := by
            rw [ih hopen, fed_append]
      _ = .ok (session.fed (decodeLossy (held ++ (piece :: reads).flatten))) := by
            rw [decodeLossy_take_completeLength, List.flatten_cons, List.append_assoc]

/-- An unfinished session that is fed an output in pieces ends finished, and has been fed the
whole output.  An empty read would be taken for the end of the output, so there must be none. -/
theorem render_of_open {session : LiveSession} (h : session.finished = false)
    {reads : List (List UInt8)} (hreads : ∀ read ∈ reads, read ≠ []) :
    session.render reads = .ok (session.fed (decodeLossy reads.flatten)).finish := by
  -- Reading stops at the first empty read, and there is none.
  have hall : reads.takeWhile (!·.isEmpty) = reads := by
    refine List.takeWhile_eq_self_iff.2 fun read hread => ?_
    rw [List.isEmpty_eq_false_iff.2 (hreads read hread)]
    rfl
  have hclose := close_foldlM_take h [] reads
  rw [List.nil_append] at hclose
  calc
    session.render reads
        = reads.foldlM Intake.take ⟨session, []⟩ >>= Intake.close >>= fun s => .ok s.finish := by
          rw [render, hall, bind_assoc]
          rfl
    _ = .ok (session.fed (decodeLossy reads.flatten)).finish := by
          rw [hclose]
          rfl

/-- **Reading in pieces is reading at once.**  However the bytes of an output are cut
into reads, an unfinished session ends as it would if it were fed the whole output,
decoded at once, and then finished. -/
theorem render_eq_finish_feed {session : LiveSession} (h : session.finished = false)
    {bytes : List UInt8} {reads : List (List UInt8)} (hbytes : reads.flatten = bytes)
    (hreads : ∀ read ∈ reads, read ≠ []) :
    ∃ fed, session.feed (decodeLossy bytes) = .ok fed ∧ session.render reads = .ok fed.finish := by
  subst hbytes
  exact ⟨session.fed (decodeLossy reads.flatten), feed_of_open h _, render_of_open h hreads⟩

/-- Cuts inside an `é`, inside a box character and before a byte that is never valid, which
shows as a replacement character. -/
theorem render_accented_pieces :
    ∃ fed, (start 20 4).feed (decodeLossy [0x63, 0xc3, 0xa9, 0xe2, 0x94, 0x80, 0xff]) = .ok fed
      ∧ (start 20 4).render [[0x63, 0xc3], [0xa9, 0xe2], [0x94], [0x80, 0xff]] = .ok fed.finish
      ∧ fed.finish.screen.text = "c\u00e9\u2500\ufffd\n\n\n" := by
  have hopen : (start 20 4).finished = false := rfl
  have hreads : ∀ read ∈ [[0x63, 0xc3], [0xa9, 0xe2], [0x94], [(0x80 : UInt8), 0xff]],
      read ≠ [] := by
    decide
  obtain ⟨fed, hfeed, hrender⟩ := render_eq_finish_feed hopen rfl hreads
  refine ⟨fed, hfeed, hrender, ?_⟩
  have hfed : fed = (start 20 4).fed (decodeLossy [0x63, 0xc3, 0xa9, 0xe2, 0x94, 0x80, 0xff]) :=
    Except.ok.inj (hfeed.symm.trans (feed_of_open rfl _))
  rw [hfed]
  decide +kernel

end LiveSession

end ConsoleReplay
