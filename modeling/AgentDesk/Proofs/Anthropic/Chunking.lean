import AgentDesk.Anthropic.Stream
import AgentDesk.Proofs.Anthropic.Notices
import AgentDesk.Proofs.Text.Pieces
/-!
# The events of an answer do not depend on its chunks

The body of an answer comes in chunks that may end anywhere. What is read from it depends on the
whole body only: it is what the lines of the body say, decoded one after another, up to the first
event that ends the stream. If no line says such an event, the stream ends with a failure.

## Main definitions

* `untilEnd` — the events up to the end of a stream.
* `Anthropic.bodyLines` — the lines of a body that came in one piece.
* `Anthropic.Decoder.steps` — the decoding of events without regard to their end.
* `Anthropic.StreamReader.After` — what a reader is behind a body.
-/

namespace AgentDesk

/-- The events up to the first one that ends the stream. -/
def untilEnd : List StreamEvent → List StreamEvent
  | [] => []
  | e :: es => if e.ends then [e] else e :: untilEnd es

theorem untilEnd_append_of_open {es : List StreamEvent} (h : ∀ e ∈ es, e.ends = false)
    (rest : List StreamEvent) : untilEnd (es ++ rest) = es ++ untilEnd rest := by
  induction es with
  | nil => rfl
  | cons e es ih =>
    have he : e.ends = false := h e (by simp)
    have hes : untilEnd (es ++ rest) = es ++ untilEnd rest := ih fun x hx => h x (by simp [hx])
    simp [untilEnd, he, hes]

/-- A stream that ends somewhere is cut behind the one event that ends it. -/
theorem exists_untilEnd {es : List StreamEvent} (h : ∃ e ∈ es, e.ends) :
    ∃ said last, untilEnd es = said ++ [last] ∧ (∀ e ∈ said, e.ends = false) ∧ last.ends := by
  induction es with
  | nil => simp at h
  | cons e es ih =>
    cases he : e.ends with
    | true => exact ⟨[], e, by simp [untilEnd, he], by simp, he⟩
    | false =>
      obtain ⟨x, hx, hends⟩ := h
      have hne : x ≠ e := by
        rintro rfl
        simp [he] at hends
      obtain ⟨said, last, hcut, hsaid, hlast⟩ := ih ⟨x, List.mem_of_ne_of_mem hne hx, hends⟩
      refine ⟨e :: said, last, by simp [untilEnd, he, hcut], ?_, hlast⟩
      simpa [he] using hsaid

namespace Anthropic

/-- The lines of a body: the pieces between its line ends. What follows the last line end is no
line. -/
def bodyLines (body : List UInt8) : List String :=
  (body.splitOn lineEnd).dropLast.map LineBuffer.lineText

namespace Decoder

/-- Decodes events one after another, also behind the end. -/
def steps (d : Decoder) : List Json → Result
  | [] => ([], d)
  | event :: rest =>
    let (said, d) := d.step event
    let (more, d) := steps d rest
    (said ++ more, d)

/-! ## Lines -/

theorem readLines_append (d : Decoder) (as bs : List String) :
    d.readLines (as ++ bs) =
      ((d.readLines as).1 ++ ((d.readLines as).2.readLines bs).1,
        ((d.readLines as).2.readLines bs).2) := by
  induction as generalizing d with
  | nil => rfl
  | cons a as ih => simp [readLines, ih]

/-- Behind the end nothing is read. -/
theorem readLines_of_ended {d : Decoder} (h : d.ended) (lines : List String) :
    d.readLines lines = ([], d) := by
  induction lines with
  | nil => rfl
  | cons line lines ih => simp [readLines, readLine, h, ih]

/-- **Reading stops where decoding would go on**: what is read from lines, and a failure if they do
not end the stream, is what their events say, cut at its end. -/
theorem untilEnd_steps {d : Decoder} (h : d.ended = false) (lines : List String)
    {failure : StreamEvent} (hf : failure.ends) :
    untilEnd ((d.steps (lines.filterMap eventOf?)).1 ++ [failure]) =
      if (d.readLines lines).2.ended then (d.readLines lines).1
      else (d.readLines lines).1 ++ [failure] := by
  -- Induction on the lines; the decoder changes only at lines that carry an event.
  induction lines generalizing d with
  | nil => simp [steps, readLines, untilEnd, h, hf]
  | cons line lines ih =>
    cases hevent : eventOf? line with
    | none => simpa [readLines, readLine, h, hevent] using ih h
    | some event =>
      have hread : d.readLine line = d.take (noticeOf event) := by
        simp [readLine, h, hevent, step_eq_take]
      rcases d.take_cases (noticeOf event) with ⟨hopen, hended⟩ | ⟨last, hsaid, hlast, hended⟩
      · have hrest := ih (hended.trans h)
        simp only [List.filterMap_cons, hevent, steps, step_eq_take, readLines, hread,
          List.append_assoc]
        rw [untilEnd_append_of_open hopen, hrest]
        split <;> rfl
      · have hstop := readLines_of_ended hended lines
        simp [hevent, steps, step_eq_take, readLines, hread, hsaid, hstop, hended, untilEnd, hlast]

end Decoder

/-! ## Chunks -/

namespace StreamReader

/-- What a reader is behind a body, and what it said on the way: the decoder has read the lines of
the body, and the bytes behind the last line end are kept. -/
structure After (body : List UInt8) (said : List StreamEvent) (r : StreamReader) : Prop where
  said : said = (Decoder.start.readLines (bodyLines body)).1
  decoder : r.decoder = (Decoder.start.readLines (bodyLines body)).2
  pending : r.buffer.pending = (body.splitOn lineEnd).getLastD []

variable {body : List UInt8} {said : List StreamEvent} {r : StreamReader}

theorem after_start : After [] [] .start := ⟨rfl, rfl, rfl⟩

/-- **A chunk may end anywhere**: it completes the line that was begun before. -/
theorem After.readChunk (h : After body said r) (chunk : List UInt8) :
    After (body ++ chunk) (said ++ (r.readChunk chunk).1) (r.readChunk chunk).2 := by
  have hpieces : (body ++ chunk).splitOn lineEnd = (body.splitOn lineEnd).dropLast ++
      (r.buffer.pending ++ chunk).splitOn lineEnd := by
    rw [h.pending]
    exact Text.splitOnP_append _ body chunk
  have hne : (r.buffer.pending ++ chunk).splitOn lineEnd ≠ [] := List.splitOnP_ne_nil _ _
  have hlines : bodyLines (body ++ chunk) = bodyLines body ++ (r.buffer.push chunk).1 := by
    rw [bodyLines, hpieces, List.dropLast_append_of_ne_nil hne, List.map_append]
    simp only [LineBuffer.push, Text.splitOn_eq_splitOnP]
    rfl
  refine ⟨?_, ?_, ?_⟩
  · rw [hlines, Decoder.readLines_append, ← h.said, ← h.decoder]
    rfl
  · rw [hlines, Decoder.readLines_append, ← h.decoder]
    rfl
  · have hpending : (r.readChunk chunk).2.buffer.pending =
        ((r.buffer.pending ++ chunk).splitOn lineEnd).getLastD [] := by
      show (Text.splitOn (· == lineEnd) (r.buffer.pending ++ chunk)).getLastD [] = _
      rw [Text.splitOn_eq_splitOnP]
      rfl
    rw [hpieces, hpending, List.getLastD_eq_getLast?, List.getLastD_eq_getLast?,
      List.getLast?_append, List.getLast?_eq_some_getLast hne]
    rfl

theorem After.readChunks (h : After body said r) (chunks : List (List UInt8)) :
    After (body ++ chunks.flatten) (said ++ (r.readChunks chunks).1) (r.readChunks chunks).2 := by
  induction chunks generalizing body said r with
  | nil => simpa [StreamReader.readChunks] using h
  | cons chunk chunks ih =>
    simpa [StreamReader.readChunks] using ih (h.readChunk chunk)

end StreamReader

/-- The events of a body that came in one piece: what its lines say, up to the end of the stream,
with a failure behind it for a body that does not end it. -/
def bodyEvents (body : List UInt8) (fault : Option String) : List StreamEvent :=
  untilEnd ((Decoder.start.steps ((bodyLines body).filterMap eventOf?)).1 ++
    [.failed (.interrupted (fault.getD unfinished))])

theorem events_eq_bodyEvents (chunks : List (List UInt8)) (fault : Option String) :
    events chunks fault = bodyEvents chunks.flatten fault := by
  have hread := StreamReader.after_start.readChunks chunks
  rw [List.nil_append, List.nil_append] at hread
  rw [bodyEvents, Decoder.untilEnd_steps (by rfl) _ (by rfl), ← hread.said, ← hread.decoder]
  rfl

/-- **The events of an answer do not depend on its chunks.** However the same body is cut, also
inside a character or a line end, and whether or not the connection breaks behind it, the events are
the same. They are those of the body in one piece, and exactly the last of them ends the stream. -/
theorem events_of_flatten_eq {chunks chunks' : List (List UInt8)}
    (h : chunks.flatten = chunks'.flatten) (fault : Option String) :
    events chunks fault = events chunks' fault ∧
    events chunks fault = bodyEvents chunks.flatten fault ∧
    ∃ said last, events chunks fault = said ++ [last] ∧ (∀ e ∈ said, e.ends = false) ∧
      last.ends := by
  refine ⟨?_, events_eq_bodyEvents chunks fault, ?_⟩
  · rw [events_eq_bodyEvents, events_eq_bodyEvents, h]
  · rw [events_eq_bodyEvents]
    exact exists_untilEnd ⟨_, List.mem_append_right _ (List.mem_singleton_self _), rfl⟩

/-- The body of an answer that says one character of two bytes; its lines end in a carriage return
and a line feed. -/
def accentBody : List UInt8 :=
  ("data: \x7b\"type\":\"content_block_delta\",\"delta\":" ++
    "\x7b\"type\":\"text_delta\",\"text\":\"é\"\x7d\x7d\r\n" ++
    "data: \x7b\"type\":\"message_stop\"\x7d\r\n").toUTF8.toList

/-- The body cut inside its character and inside its first line end, with a chunk without bytes. -/
def accentChunks : List (List UInt8) :=
  [accentBody.take 74, [], (accentBody.drop 74).take 5, accentBody.drop 79]

theorem events_accentChunks :
    accentChunks.flatten = [accentBody].flatten ∧
    events accentChunks none = [.content "é", .complete ⟨"é", [], .zero, .endTurn⟩] := by
  have hflatten : accentChunks.flatten = [accentBody].flatten := by decide +kernel
  obtain ⟨hsame, -, -⟩ := events_of_flatten_eq hflatten none
  exact ⟨hflatten, hsame.trans (by decide +kernel)⟩

end Anthropic

end AgentDesk
