import AgentDesk.Proofs.Message.Readings
import AgentDesk.Proofs.Turn.Closing
import AgentDesk.Proofs.Turn.Requests
/-!
# Which calls a round runs

The calls that are run behind a stream are those of its message when it closes. An answer that lists
calls puts them in the place of all that were announced before. An answer without any leaves the
announced calls as they are, and these are run, whether their input is complete or not.

## Main definitions

* `Exchange.delivered?` — the event that a stream delivered.
* `TurnPhase.pending` — the calls that are still to be run.
* `startedCalls` — the calls whose tools a turn asks to start before it records a message.
* `listedCalls` — the calls that the answer of a stream lists.
-/

namespace AgentDesk

/-- The event that a stream delivered. -/
def Exchange.delivered? : Exchange → Option StreamEvent
  | ⟨.nextEvent, (reply : NextEvent)⟩ =>
    match reply with
    | .event e => some e
    | .canceled | .closed => none
  | _ => none

/-- Whether a stream has closed. -/
def Exchange.closes : Exchange → Bool
  | ⟨.nextEvent, (reply : NextEvent)⟩ =>
    match reply with
    | .closed => true
    | .canceled | .event _ => false
  | _ => false

/-- The stream has closed. -/
abbrev Exchange.closing : Exchange := ⟨.nextEvent, NextEvent.closed⟩

/-- The calls whose tools a turn asks to start before it records a message. -/
def startedCalls : List Exchange → List ToolCall
  | [] => []
  | ⟨.startTool _ call, _⟩ :: es => call :: startedCalls es
  | ⟨.createMessage _, _⟩ :: _ => []
  | _ :: es => startedCalls es

/-- The calls that the answer of a stream lists, marked as finished; none if no answer came. -/
def listedCalls (answer : Option Answer) : List ToolCall :=
  answer.elim [] fun a => a.toolCalls.map ToolCall.finish

/-- The calls behind the answer of a stream, if one came. -/
theorem announcedCalls_answer (calls : List ToolCall) (answer : Option Answer) :
    announcedCalls calls (answer.map StreamEvent.complete).toList =
      if listedCalls answer = [] then calls else listedCalls answer := by
  cases answer with
  | none => rfl
  | some a =>
    have hlisted : listedCalls (some a) = [] ↔ a.toolCalls = [] := List.map_eq_nil_iff
    simp only [hlisted]
    rfl

/-- Events without an answer leave no call only if there was none and none is announced. -/
theorem announcedCalls_eq_nil_iff {events : List StreamEvent} (h : ∀ a, .complete a ∉ events)
    {calls : List ToolCall} :
    announcedCalls calls events = [] ↔ calls = [] ∧ ∀ c, .toolStart c ∉ events := by
  induction events generalizing calls with
  | nil => simp [announcedCalls]
  | cons e events ih =>
    have htail : ∀ a, .complete a ∉ events := fun a ha => h a (List.mem_cons_of_mem e ha)
    refine (ih htail).trans ?_
    cases e with
    | complete a => exact absurd List.mem_cons_self (h a)
    | toolStart c =>
      have hne : c.recordIn calls ≠ [] := ToolCall.recordIn_ne_nil c calls
      exact iff_of_false (fun hnil => hne hnil.1) fun hnone => hnone.2 c List.mem_cons_self
    | toolDelta id d | toolStop id => simp [StreamEvent.onCalls, ToolCall.changeIn_eq_nil_iff]
    | thinking | signature | content | failed => simp [StreamEvent.onCalls]

namespace TurnPhase

variable {setup : TurnSetup} {p p' : TurnPhase} {now : Timestamp} {history : List Message}
  {m : Message} {read rest es : List Exchange} {progress : TurnProgress}

/-- The course of a turn from where an answer leads. -/
def CourseFrom (setup : TurnSetup) (first : TurnProgress) (es : List Exchange)
    (progress : TurnProgress) : Prop :=
  match first with
  | .next p => Course setup p es progress
  | .stop outcome => es = [] ∧ progress = .stop outcome

theorem Course.cons_inv {e : Exchange} (h : Course setup p (e :: es) progress) : ∃ now reply,
    e = ⟨p.request setup, reply⟩ ∧ CourseFrom setup (p.resume setup now reply) es progress := by
  cases h with
  | @stops _ now reply _ hstop =>
    refine ⟨now, reply, rfl, ?_⟩
    rw [hstop]
    exact ⟨rfl, rfl⟩
  | @goesOn _ _ now reply _ _ hnext hrest =>
    refine ⟨now, reply, rfl, ?_⟩
    rw [hnext]
    exact hrest

/-- One more step at the end of a course. -/
theorem Course.snoc {p'' : TurnPhase} (h : Course setup p es (.next p')) (now : Timestamp)
    (reply : (p'.request setup).Reply) (hnext : p'.resume setup now reply = .next p'') :
    Course setup p (es ++ [⟨p'.request setup, reply⟩]) (.next p'') := by
  generalize hfirst : TurnProgress.next p' = first at h
  induction h with
  | here p =>
    cases hfirst
    exact .goesOn hnext (.here p'')
  | stops => cases hfirst
  | goesOn hstep _ ih => exact .goesOn hstep (ih hfirst)

/-! ## Reading a stream -/

/-- A turn that sees its stream close, but asks for something else first, goes on. -/
theorem Course.goes_on (h : Course setup p (read ++ Exchange.closing :: rest) progress)
    (hp : p.request setup ≠ .nextEvent) : ∃ now reply read' p',
      read = ⟨p.request setup, reply⟩ :: read' ∧ p.resume setup now reply = .next p' ∧
        Course setup p' (read' ++ Exchange.closing :: rest) progress := by
  cases read with
  | nil =>
    obtain ⟨now, reply, he, -⟩ := h.cons_inv
    exact absurd (congrArg Exchange.request he).symm hp
  | cons e read =>
    obtain ⟨now, reply, rfl, hfrom⟩ := h.cons_inv
    cases hprogress : p.resume setup now reply with
    | next p' =>
      rw [hprogress] at hfrom
      exact ⟨now, reply, read, p', rfl, hprogress, hfrom⟩
    | stop outcome =>
      rw [hprogress] at hfrom
      exact absurd hfrom.1 (by simp)

/-- A turn that has given up its stream does not see it close. -/
theorem not_course_failing {calls : List ToolCall} {cause : TurnFailure} :
    ¬ Course setup (.failing m calls cause) (read ++ Exchange.closing :: rest) progress := by
  intro h
  obtain ⟨now, reply, read', p', -, hnext, h'⟩ := h.goes_on (by simp [request])
  simp only [resume] at hnext
  split at hnext <;> cases hnext
  obtain ⟨now', reply', read'', p'', -, hnext', -⟩ := h'.goes_on (by simp [request])
  cases hnext'

/-- A turn that accounts for an answer goes on with the stream. -/
theorem Course.account {tokens : Tokens}
    (h : Course setup (.accounting history m tokens) (read ++ Exchange.closing :: rest) progress) :
    ∃ es read', read = es ++ read' ∧ es.filterMap Exchange.delivered? = [] ∧
      es.filterMap Exchange.saved? = [] ∧
      Course setup (.streaming history m) (read' ++ Exchange.closing :: rest) progress := by
  obtain ⟨now, session, read₁, p₁, rfl, hnext₁, h₁⟩ := h.goes_on (by simp [request])
  cases (session : Except StoreFailure Session) with
  | error cause =>
    cases hnext₁
    exact absurd h₁ not_course_failing
  | ok session =>
    cases hnext₁
    obtain ⟨now', charged, read₂, p₂, rfl, hnext₂, h₂⟩ := h₁.goes_on (by simp [request])
    cases (charged : Except StoreFailure Session) with
    | error cause =>
      cases hnext₂
      exact absurd h₂ not_course_failing
    | ok charged =>
      cases hnext₂
      exact ⟨[_, _], read₂, rfl, rfl, rfl, h₂⟩

/-- A turn that saves its message goes on with the stream. -/
theorem Course.save {tokens : Option Tokens}
    (h : Course setup (.saving history m tokens) (read ++ Exchange.closing :: rest) progress) :
    ∃ es read', read = es ++ read' ∧ es.filterMap Exchange.delivered? = [] ∧
      es.filterMap Exchange.saved? = [m] ∧
      Course setup (.streaming history m) (read' ++ Exchange.closing :: rest) progress := by
  obtain ⟨now, saved, read₁, p₁, rfl, hnext, h₁⟩ := h.goes_on (by simp [request])
  cases (saved : Except StoreFailure Unit) with
  | error cause =>
    cases hnext
    exact absurd h₁ not_course_failing
  | ok done =>
    cases tokens with
    | none =>
      cases hnext
      exact ⟨[_], read₁, rfl, rfl, rfl, h₁⟩
    | some t =>
      cases hnext
      obtain ⟨es, read', rfl, hdelivered, hsaved, hcourse⟩ := h₁.account
      exact ⟨⟨.updateMessage m, Except.ok done⟩ :: es, read', rfl, hdelivered,
        congrArg (List.cons m) hsaved, hcourse⟩

/-- A turn that reads a stream sees it close, or applies an event to its message and saves it. -/
theorem Course.read_event
    (h : Course setup (.streaming history m) (read ++ Exchange.closing :: rest) progress)
    (hopen : read.any Exchange.closes = false) :
    (read = [] ∧ ∃ now, CourseFrom setup (afterStream now history m) rest progress) ∨
    ∃ now e m' tokens es read', read = es ++ read' ∧ es ≠ [] ∧
      applyEvent now m e = .ok (m', tokens) ∧ es.filterMap Exchange.delivered? = [e] ∧
      es.filterMap Exchange.saved? = [m'] ∧
      Course setup (.streaming history m') (read' ++ Exchange.closing :: rest) progress := by
  cases read with
  | nil =>
    obtain ⟨now, reply, he, hfrom⟩ := h.cons_inv
    cases he
    exact .inl ⟨rfl, now, hfrom⟩
  | cons first read =>
    refine .inr ?_
    obtain ⟨now, reply, rfl, hfrom⟩ := h.cons_inv
    cases (reply : NextEvent) with
    | canceled => exact absurd hfrom not_course_failing
    | closed => cases hopen
    | event e =>
      cases happly : applyEvent now m e with
      | error cause =>
        simp only [resume, happly] at hfrom
        exact absurd hfrom not_course_failing
      | ok result =>
        obtain ⟨m', tokens⟩ := result
        simp only [resume, happly] at hfrom
        obtain ⟨es, read', rfl, hdelivered, hsaved, hcourse⟩ := Course.save hfrom
        exact ⟨now, e, m', tokens, ⟨.nextEvent, NextEvent.event e⟩ :: es, read', rfl, by simp,
          happly, congrArg (List.cons e) hdelivered, hsaved, hcourse⟩

/-- **A stream that closes leaves a message with the calls that its events left.** The message was
saved once for each event; it is the last version. -/
theorem Course.read_stream
    (h : Course setup (.streaming history m) (read ++ Exchange.closing :: rest) progress)
    (hopen : read.any Exchange.closes = false) :
    ∃ now m', (m :: read.filterMap Exchange.saved?).getLast? = some m' ∧
      (read.filterMap Exchange.saved?).length = (read.filterMap Exchange.delivered?).length ∧
      m'.id = m.id ∧
      m'.toolCalls = announcedCalls m.toolCalls (read.filterMap Exchange.delivered?) ∧
      CourseFrom setup (afterStream now history m') rest progress := by
  -- Induction on the exchanges, an event at a time.
  induction hlength : read.length using Nat.strongRecOn generalizing read m with
  | ind n ih =>
    rcases h.read_event hopen with ⟨rfl, now, hfrom⟩ |
      ⟨now, e, m₁, tokens, es, read', rfl, hne, happly, hdelivered, hsaved, hcourse⟩
    · exact ⟨now, m, rfl, rfl, rfl, rfl, hfrom⟩
    · have hshort : read'.length < n := by
        rw [← hlength, List.length_append]
        exact Nat.lt_add_of_pos_left (List.length_pos_iff.mpr hne)
      have hopen' : read'.any Exchange.closes = false := by
        rw [List.any_append, Bool.or_eq_false_iff] at hopen
        exact hopen.2
      obtain ⟨now', m', hlast, hsaves, hid, hcalls, hfrom⟩ := ih _ hshort hcourse hopen' rfl
      refine ⟨now', m', ?_, ?_, hid.trans (applyEvent_keeps happly).1, ?_, hfrom⟩
      · rw [List.filterMap_append, hsaved, List.singleton_append, List.getLast?_cons_cons, hlast]
      · simp only [List.filterMap_append, hsaved, hdelivered, List.length_append, hsaves,
          List.length_singleton]
      · rw [hcalls, List.filterMap_append, hdelivered, toolCalls_applyEvent happly]
        rfl

/-! ## Running the calls -/

/-- The calls that are still to be run. -/
def pending : TurnPhase → List ToolCall
  | .dispatching _ _ _ call rest => call :: rest
  | .awaiting _ _ _ _ rest => rest
  | _ => []

/-- No stream is open, or about to be opened. -/
def Streamless : TurnPhase → Prop
  | .opening _ _ | .streaming _ _ | .saving _ _ _ | .accounting _ _ _ | .charging _ _ _ => False
  | _ => True

theorem pending_nextCall (history : List Message) (m : Message) (results : List ToolResult)
    (calls : List ToolCall) : (nextCall history m results calls).pending <+: calls ∧
      (nextCall history m results calls).Streamless := by
  cases calls <;> exact ⟨List.prefix_rfl, trivial⟩

theorem pending_record (history : List Message) (prompts : List String) :
    (record history prompts).pending <+: [] ∧ (record history prompts).Streamless := by
  rcases record_cases history prompts with ⟨h, -⟩ | ⟨q, rest, h⟩ <;> rw [h] <;>
    exact ⟨List.prefix_rfl, trivial⟩

theorem afterRound_pending {tools : Option Message}
    (h : afterRound now history m tools = .next p) : p.pending = [] ∧ p.Streamless := by
  rcases afterRound_eq_next h with ⟨t, -, rfl⟩ | ⟨-, rfl⟩ | ⟨-, rfl⟩ <;> exact ⟨rfl, trivial⟩

theorem startedCalls_cons {e : Exchange} (hcreate : ∀ draft, e.request ≠ .createMessage draft)
    (es : List Exchange) : startedCalls (e :: es) = startedCalls [e] ++ startedCalls es := by
  obtain ⟨r, reply⟩ := e
  cases r with
  | createMessage draft => exact absurd rfl (hcreate draft)
  | _ => rfl

/-- A step that records no message starts the first of the pending calls, or none; it leaves the
calls behind it, or none. -/
theorem pending_resume {reply : (p.request setup).Reply} (hp : p.Streamless)
    (hcreate : ∀ draft, p.request setup ≠ .createMessage draft)
    (hnext : p.resume setup now reply = .next p') :
    startedCalls [⟨p.request setup, reply⟩] ++ p'.pending <+: p.pending ∧ p'.Streamless := by
  cases p with
  | opening | streaming | saving | accounting | charging => cases hp
  | prompting | answering | recording | queuing | excusing => exact absurd rfl (hcreate _)
  | listing | reading | round | failing =>
    simp only [resume, storeFailed] at hnext
    split at hnext <;> cases hnext
    exact ⟨List.nil_prefix, trivial⟩
  | dispatching history m results call rest =>
    refine and_congr_left' (List.prefix_cons_inj call) |>.mpr ?_
    simp only [resume] at hnext
    split at hnext <;> cases hnext
    · exact ⟨List.nil_prefix, trivial⟩
    · exact pending_nextCall ..
    · exact ⟨List.prefix_rfl, trivial⟩
  | awaiting history m results call rest =>
    simp only [resume] at hnext
    split at hnext <;> cases hnext
    · exact ⟨List.nil_prefix, trivial⟩
    · exact pending_nextCall ..
    · exact ⟨List.nil_prefix, trivial⟩
    · exact pending_nextCall ..
  | stopping history m results =>
    cases hnext
    exact ⟨List.nil_prefix, trivial⟩
  | draining history =>
    cases hnext
    exact pending_record history reply
  | taking history m =>
    simp only [resume] at hnext
    split at hnext
    · cases hnext
    · split at hnext <;> cases hnext
      · exact ⟨List.nil_prefix, trivial⟩
      · exact pending_record history reply
  | closing m => cases hnext

/-- **The tools that are started before a message is recorded are those of the pending calls, in
order.** -/
theorem Course.startedCalls_prefix (h : Course setup p es progress) (hp : p.Streamless) :
    startedCalls es <+: p.pending := by
  induction h with
  | here p => exact List.nil_prefix
  | @stops p now reply outcome hstop =>
    cases p with
    | dispatching history m results call rest => exact List.prefix_append [call] rest
    | _ => exact List.nil_prefix
  | @goesOn p p' now reply es progress hnext hrest ih =>
    by_cases hcreate : ∃ draft, p.request setup = .createMessage draft
    · cases p with
      | prompting | answering | recording | queuing | excusing => exact List.nil_prefix
      | _ => exact absurd hcreate (by simp [request])
    · have hne : ∀ draft, p.request setup ≠ .createMessage draft := fun draft h =>
        hcreate ⟨draft, h⟩
      obtain ⟨hpending, hstreamless⟩ := pending_resume hp hne hnext
      rw [startedCalls_cons hne]
      exact ((List.prefix_append_right_inj _).mpr (ih hstreamless)).trans hpending

/-! ## Behind a stream -/

/-- The calls that are to be run where an answer leads. -/
def pendingIn : TurnProgress → List ToolCall
  | .next p => p.pending
  | .stop _ => []

theorem pendingIn_afterStream (now : Timestamp) (history : List Message) (m : Message) :
    pendingIn (afterStream now history m) = m.toolCalls := by
  unfold afterStream
  cases hcalls : m.toolCalls with
  | cons call rest => rfl
  | nil =>
    cases hround : afterRound now history m none with
    | stop outcome => rfl
    | next p => exact (afterRound_pending hround).1

theorem startedCalls_of_afterStream
    (h : CourseFrom setup (afterStream now history m) es progress) :
    startedCalls es <+: m.toolCalls := by
  have hpending := pendingIn_afterStream now history m
  cases hprogress : afterStream now history m with
  | stop outcome =>
    rw [hprogress] at h
    rw [h.1]
    exact List.nil_prefix
  | next p =>
    rw [hprogress] at h hpending
    refine hpending ▸ Course.startedCalls_prefix h ?_
    unfold afterStream at hprogress
    split at hprogress
    · exact (afterRound_pending hprogress).2
    · cases hprogress
      trivial

/-- **Which calls are run behind a stream.** Those that its answer lists, marked as finished, are
the calls of the message, if it lists any; then no call that was only announced is kept or run. If
the answer lists none, or never came, the announced calls stay as the events left them, and they are
run. So the answer is authoritative for the calls only if it lists some or none was announced. -/
theorem calls_listed_iff (announced : List StreamEvent) (answer : Option Answer)
    (h : Course setup (.streaming history m) (read ++ Exchange.closing :: rest) progress)
    (hopen : read.any Exchange.closes = false) (hm : m.toolCalls = [])
    (hnone : ∀ a, .complete a ∉ announced)
    (hread : read.filterMap Exchange.delivered? =
      announced ++ (answer.map StreamEvent.complete).toList) :
    ∃ now m', (m :: read.filterMap Exchange.saved?).getLast? = some m' ∧ m'.id = m.id ∧
      m'.toolCalls = (if listedCalls answer = [] then announcedCalls [] announced
        else listedCalls answer) ∧
      CourseFrom setup (afterStream now history m') rest progress ∧
      pendingIn (afterStream now history m') = m'.toolCalls ∧
      startedCalls rest <+: m'.toolCalls ∧
      (m'.toolCalls = listedCalls answer ↔
        listedCalls answer ≠ [] ∨ ∀ c, .toolStart c ∉ announced) := by
  obtain ⟨now, m', hlast, -, hid, hcalls, hfrom⟩ := h.read_stream hopen
  have hkept : m'.toolCalls = if listedCalls answer = [] then announcedCalls [] announced
      else listedCalls answer := by
    rw [hcalls, hread, hm, announcedCalls_append, announcedCalls_answer]
  refine ⟨now, m', hlast, hid, hkept, hfrom, pendingIn_afterStream now history m',
    startedCalls_of_afterStream hfrom, ?_⟩
  rw [hkept]
  by_cases hlisted : listedCalls answer = []
  · rw [if_pos hlisted, hlisted, announcedCalls_eq_nil_iff hnone]
    simp
  · simp [hlisted]

/-- The message of a round before anything was streamed. -/
def briefAnswer : Message := (assistantDraft briefTurn.model).toMessage "s#2" "s" default

/-- A call is announced with half of its input, and the answer lists none: the call is kept and run
as it stands. It is run as well if the stream closes without an answer. -/
theorem exists_started_not_listed :
    (∃ read rest progress m',
      Course briefTurn (.streaming [] briefAnswer) (read ++ Exchange.closing :: rest) progress ∧
      read.filterMap Exchange.delivered? =
        [.toolStart briefCall, .toolDelta "c1" "\x7b", .complete ⟨"", [], .zero, .endTurn⟩] ∧
      (briefAnswer :: read.filterMap Exchange.saved?).getLast? = some m' ∧
      m'.toolCalls = [briefCall.extend "\x7b"] ∧
      m'.toolCalls ≠ listedCalls (some ⟨"", [], .zero, .endTurn⟩) ∧
      startedCalls rest = m'.toolCalls) ∧
    ∃ read rest progress m',
      Course briefTurn (.streaming [] briefAnswer) (read ++ Exchange.closing :: rest) progress ∧
      read.filterMap Exchange.delivered? = [.toolStart briefCall, .toolDelta "c1" "\x7b"] ∧
      (briefAnswer :: read.filterMap Exchange.saved?).getLast? = some m' ∧
      m'.toolCalls ≠ listedCalls none ∧ startedCalls rest = m'.toolCalls := by
  have h : Course briefTurn (.streaming [] briefAnswer) [] _ := .here _
  have h := h.snoc default (NextEvent.event (.toolStart briefCall)) rfl
  have h := h.snoc default (Except.ok ()) rfl
  have h := h.snoc default (NextEvent.event (.toolDelta "c1" "\x7b")) rfl
  have announced := h.snoc default (Except.ok ()) rfl
  have hstart : ¬ ∀ c, StreamEvent.toolStart c ∉
      [.toolStart briefCall, .toolDelta "c1" "\x7b"] := fun h => h briefCall (by simp)
  constructor
  · have h := announced.snoc default
      (NextEvent.event (.complete ⟨"", [], .zero, .endTurn⟩)) rfl
    have h := h.snoc default (Except.ok ()) rfl
    have h := h.snoc default (Except.ok default) rfl
    have h := h.snoc default (Except.ok default) rfl
    have h := h.snoc default NextEvent.closed rfl
    have h := h.snoc default ToolStart.started rfl
    have h : Course briefTurn (.streaming [] briefAnswer)
      ([_, _, _, _, _, _, _, _] ++ Exchange.closing :: [_]) _ := h
    obtain ⟨now, m', hsaved, -, hcalls, -, -, -, hiff⟩ := calls_listed_iff
      [.toolStart briefCall, .toolDelta "c1" "\x7b"] (some ⟨"", [], .zero, .endTurn⟩) h rfl rfl
      (by simp) rfl
    refine ⟨_, _, _, m', h, rfl, hsaved, hcalls, fun heq => ?_, hcalls.symm⟩
    rcases hiff.mp heq with hlisted | hnone
    · exact hlisted rfl
    · exact hstart hnone
  · have h := announced.snoc default NextEvent.closed rfl
    have h := h.snoc default ToolStart.started rfl
    have h : Course briefTurn (.streaming [] briefAnswer)
      ([_, _, _, _] ++ Exchange.closing :: [_]) _ := h
    obtain ⟨now, m', hsaved, -, hcalls, -, -, -, hiff⟩ := calls_listed_iff
      [.toolStart briefCall, .toolDelta "c1" "\x7b"] none h rfl rfl (by simp) rfl
    refine ⟨_, _, _, m', h, rfl, hsaved, fun heq => ?_, hcalls.symm⟩
    rcases hiff.mp heq with hlisted | hnone
    · exact hlisted rfl
    · exact hstart hnone

end TurnPhase

end AgentDesk
