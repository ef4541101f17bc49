import AgentDesk.Proofs.Turn.Halting
/-!
# How a canceled turn closes its message

A turn that was canceled before its round was done ends as canceled. If it had a message of the
assistant, then the last version of it that it saves is closed by one mark, which says that it was
canceled; and the results that it records from then on are one for each call of that version.

## Main definitions

* `Exchange.Accepted`, `Exchange.saved?`, `Exchange.created?` — what a store was told.
* `TurnPhase.Course` — the course of a turn along its exchanges.
* `TurnPhase.Unfinished` — a phase in which the round is not done.
* `ClosesCanceled` — how a message ends up along some exchanges.
* `TurnPhase.Finishes` — what a canceled turn makes of its course.
-/

namespace AgentDesk

namespace Exchange

/-- A store that is asked for something does it. -/
def Accepted : Exchange → Prop
  | ⟨.listMessages, (reply : Except StoreFailure (List Message))⟩ => ∃ ms, reply = .ok ms
  | ⟨.readSession, (reply : Except StoreFailure Session)⟩ => ∃ s, reply = .ok s
  | ⟨.saveSession _, (reply : Except StoreFailure Session)⟩ => ∃ s, reply = .ok s
  | ⟨.createMessage _, (reply : Except StoreFailure Message)⟩ => ∃ m, reply = .ok m
  | ⟨.updateMessage _, (reply : Except StoreFailure Unit)⟩ => reply = .ok ()
  | _ => True

instance decidableExistsOk (r : Except ε α) : Decidable (∃ a, r = .ok a) :=
  match r with
  | .ok a => isTrue ⟨a, rfl⟩
  | .error _ => isFalse nofun

instance decidableOk (r : Except ε Unit) : Decidable (r = .ok ()) :=
  match r with
  | .ok () => isTrue rfl
  | .error _ => isFalse nofun

instance decidableAccepted : (e : Exchange) → Decidable e.Accepted
  | ⟨.listMessages, (reply : Except StoreFailure (List Message))⟩ =>
    inferInstanceAs (Decidable (∃ ms, reply = .ok ms))
  | ⟨.readSession, (reply : Except StoreFailure Session)⟩ =>
    inferInstanceAs (Decidable (∃ s, reply = .ok s))
  | ⟨.saveSession _, (reply : Except StoreFailure Session)⟩ =>
    inferInstanceAs (Decidable (∃ s, reply = .ok s))
  | ⟨.createMessage _, (reply : Except StoreFailure Message)⟩ =>
    inferInstanceAs (Decidable (∃ m, reply = .ok m))
  | ⟨.updateMessage _, (reply : Except StoreFailure Unit)⟩ =>
    inferInstanceAs (Decidable (reply = .ok ()))
  | ⟨.isCanceled, _⟩ | ⟨.openStream _, _⟩ | ⟨.nextEvent, _⟩ | ⟨.startTool _ _, _⟩
  | ⟨.awaitTool, _⟩ | ⟨.drainQueue, _⟩ | ⟨.finishOrTake, _⟩ => isTrue trivial

/-- The message that was saved. -/
def saved? : Exchange → Option Message
  | ⟨.updateMessage m, (reply : Except StoreFailure Unit)⟩ =>
    match reply with
    | .ok () => some m
    | .error _ => none
  | _ => none

/-- The message that was created. -/
def created? : Exchange → Option Message
  | ⟨.createMessage _, (reply : Except StoreFailure Message)⟩ =>
    match reply with
    | .ok m => some m
    | .error _ => none
  | _ => none

/-- The results of tools that were recorded. -/
def results (e : Exchange) : List ToolResult := (e.created?.map Message.toolResults).getD []

/-- A store does what it is asked for, and a turn that was canceled learns of it. -/
structure Halting (e : Exchange) : Prop where
  accepted : e.Accepted
  honest : e.request.Honest e.reply
  halted : e.request.Halted e.reply

end Exchange

/-- The last version of a message that is saved is closed as canceled and by nothing else, and the
results that are recorded are one for each of its calls. -/
def ClosesCanceled (id : String) (es : List Exchange) : Prop :=
  ∃ m, (es.filterMap Exchange.saved?).getLast? = some m ∧ m.id = id ∧
    m.marks.map (·.reason) = [.canceled] ∧
      (es.flatMap Exchange.results).map (·.callId) = m.callIds

theorem ClosesCanceled.cons {id : String} {es : List Exchange} {e : Exchange}
    (h : ClosesCanceled id es) (he : e.results = []) : ClosesCanceled id (e :: es) := by
  obtain ⟨m, hlast, hid, hmarks, hresults⟩ := h
  refine ⟨m, ?_, hid, hmarks, by simpa [he] using hresults⟩
  rw [List.filterMap_cons]
  split
  · exact hlast
  · rw [List.getLast?_cons, hlast]
    rfl

namespace TurnPhase

/-- The course of a turn from a phase along its exchanges. -/
inductive Course (setup : TurnSetup) : TurnPhase → List Exchange → TurnProgress → Prop where
  | here (p : TurnPhase) : Course setup p [] (.next p)
  | stops {p : TurnPhase} {now : Timestamp} {reply : (p.request setup).Reply}
    {outcome : Except TurnFailure Message} :
    p.resume setup now reply = .stop outcome →
    Course setup p [⟨p.request setup, reply⟩] (.stop outcome)
  | goesOn {p p' : TurnPhase} {now : Timestamp} {reply : (p.request setup).Reply}
    {es : List Exchange} {progress : TurnProgress} :
    p.resume setup now reply = .next p' → Course setup p' es progress →
    Course setup p (⟨p.request setup, reply⟩ :: es) progress

/-- The round is not done: it is still to begin, or its stream has not closed yet, or its tools have
not all ended. -/
def Unfinished : TurnPhase → Prop
  | .listing | .reading _ | .prompting _ | .round _ | .answering _ | .opening _ _
  | .streaming _ _ | .saving _ _ _ | .accounting _ _ _ | .charging _ _ _
  | .dispatching _ _ _ _ _ | .awaiting _ _ _ _ _ | .draining _ | .queuing _ _ _ => True
  | _ => False

/-! ## Following a course to its end -/

variable {setup : TurnSetup} {id : String} {p : TurnPhase} {m : Message} {es : List Exchange}
  {outcome : Except TurnFailure Message}

theorem Course.inv (h : Course setup p es (.stop outcome)) : ∃ now reply rest,
    es = ⟨p.request setup, reply⟩ :: rest ∧
      ((rest = [] ∧ p.resume setup now reply = .stop outcome) ∨
        ∃ p', p.resume setup now reply = .next p' ∧ Course setup p' rest (.stop outcome)) := by
  cases h with
  | stops hstop => exact ⟨_, _, [], rfl, .inl ⟨rfl, hstop⟩⟩
  | goesOn hnext hrest => exact ⟨_, _, _, rfl, .inr ⟨_, hnext, hrest⟩⟩

/-- A canceled turn ends as canceled, and along its exchanges something holds. -/
def Finishes (setup : TurnSetup) (Q : List Exchange → Prop) (p : TurnPhase) : Prop :=
  ∀ es outcome, Course setup p es (.stop outcome) → (∀ e ∈ es, e.Halting) →
    outcome = .error .canceled ∧ Q es

/-- One step closer to the end. -/
theorem finishes_of_next {Q : List Exchange → Prop}
    (hnext : ∀ now reply, Exchange.Halting ⟨p.request setup, reply⟩ →
      ∃ p' Q', p.resume setup now reply = .next p' ∧ Finishes setup Q' p' ∧
        ∀ es, Q' es → Q (⟨p.request setup, reply⟩ :: es)) : Finishes setup Q p := by
  intro es outcome h hes
  obtain ⟨now, reply, rest, rfl, hrest⟩ := h.inv
  obtain ⟨p', Q', hp', hfinishes, hQ⟩ := hnext now reply (hes _ (by simp))
  rcases hrest with ⟨-, hstop⟩ | ⟨p'', hp'', hcourse⟩
  · cases hp'.symm.trans hstop
  · obtain rfl := TurnProgress.next.inj (hp'.symm.trans hp'')
    obtain ⟨hcanceled, hq⟩ := hfinishes rest outcome hcourse fun e he => hes e (by simp [he])
    exact ⟨hcanceled, hQ rest hq⟩

/-- No message of the assistant is created. -/
def NoRound (es : List Exchange) : Prop :=
  ∀ m ∈ es.filterMap Exchange.created?, m.role ≠ .assistant

theorem NoRound.cons {e : Exchange} (h : NoRound es)
    (he : ∀ m, e.created? = some m → m.role ≠ .assistant) : NoRound (e :: es) := by
  intro m hm
  obtain ⟨e', he', hcreated⟩ := List.mem_filterMap.mp hm
  rcases List.mem_cons.mp he' with rfl | hmem
  · exact he m hcreated
  · exact h m (List.mem_filterMap.mpr ⟨e', hmem, hcreated⟩)

/-- The message of the round is closed as canceled, and there is no further round. -/
def Closes (id : String) (es : List Exchange) : Prop := NoRound es ∧ ClosesCanceled id es

/-- Whatever creates no message may come before. -/
theorem Closes.cons {e : Exchange} (he : e.created? = none) (es : List Exchange)
    (h : Closes id es) : Closes id (e :: es) :=
  ⟨h.1.cons fun m hm => by simp [he] at hm, h.2.cons (by simp [Exchange.results, he])⟩

/-! ## Closing a message -/

theorem results_eq {r : List ToolResult} {model : Model} {m : Message}
    (h : m.parts = (resultsDraft model r).parts) : m.toolResults = r := by
  simp [Message.toolResults, h, resultsDraft, List.filterMap_map, Function.comp_def,
    Part.toolResult?]

/-- A message that is saved, and the results of its calls that are recorded behind it. -/
theorem closes_pair {model : Model} {u : Except StoreFailure Unit}
    {t : Except StoreFailure Message} {r : List ToolResult}
    (hmarks : m.marks.map (·.reason) = [.canceled]) (hids : r.map (·.callId) = m.callIds)
    (hu : Exchange.Halting ⟨.updateMessage m, u⟩)
    (ht : Exchange.Halting ⟨.createMessage (resultsDraft model r), t⟩) :
    Closes m.id [⟨.updateMessage m, u⟩, ⟨.createMessage (resultsDraft model r), t⟩] := by
  obtain rfl : u = .ok () := hu.accepted
  obtain ⟨tools, rfl⟩ : ∃ tools, t = .ok tools := ht.accepted
  obtain ⟨hrole, hparts⟩ := ht.honest tools rfl
  have hresults : tools.toolResults = r := results_eq hparts
  refine ⟨?_, m, rfl, rfl, hmarks, ?_⟩
  · intro m' hm'
    obtain rfl : tools = m' := by simpa [Exchange.created?, eq_comm] using hm'
    simp [hrole, resultsDraft]
  · simpa [Exchange.results, Exchange.created?, hresults] using hids

/-- A failing turn that was canceled saves its message, and then answers its calls. -/
theorem finishes_failing {calls : List ToolCall} (hmarks : m.marks.map (·.reason) = [.canceled])
    (hids : calls.map (·.id) = m.callIds) :
    Finishes setup (Closes m.id) (.failing m calls .canceled) := by
  intro es outcome h hes
  obtain ⟨now, reply, rest, rfl, hrest⟩ := h.inv
  have hsave : Exchange.Halting ⟨.updateMessage m, reply⟩ := hes _ List.mem_cons_self
  cases calls with
  | nil =>
    rcases hrest with ⟨rfl, hstop⟩ | ⟨p', hnext, -⟩
    · cases hstop
      obtain rfl : reply = .ok () := hsave.accepted
      refine ⟨rfl, ?_, m, rfl, rfl, hmarks, hids⟩
      intro m' hm'
      have hnone : m' ∈ ([] : List Message) := hm'
      cases hnone
    · cases hnext
  | cons c calls =>
    rcases hrest with ⟨-, hstop⟩ | ⟨p', hnext, hcourse⟩
    · cases hstop
    · cases hnext
      obtain ⟨now', reply', rest', rfl, hrest'⟩ := hcourse.inv
      rcases hrest' with ⟨rfl, hstop⟩ | ⟨p', hnext, -⟩
      · cases hstop
        refine ⟨rfl, closes_pair hmarks ?_ hsave
          (hes _ (List.mem_cons_of_mem _ List.mem_cons_self))⟩
        rw [map_callId_canceledResults, hids]
      · cases hnext

/-- Tools that were stopped leave their message to be saved, and then its results. -/
theorem finishes_stopping {history : List Message} {results : List ToolResult}
    (hmarks : m.marks.map (·.reason) = [.canceled])
    (hids : results.map (·.callId) = m.callIds) :
    Finishes setup (Closes m.id) (.stopping history m results) := by
  intro es outcome h hes
  obtain ⟨now, reply, rest, rfl, hrest⟩ := h.inv
  have hsave : Exchange.Halting ⟨.updateMessage m, reply⟩ := hes _ List.mem_cons_self
  rcases hrest with ⟨-, hstop⟩ | ⟨p', hnext, hcourse⟩
  · cases hstop
  · cases hnext
    obtain ⟨now', reply', rest', rfl, hrest'⟩ := hcourse.inv
    have hcreate : Exchange.Halting ⟨.createMessage (resultsDraft setup.model results), reply'⟩ :=
      hes _ (List.mem_cons_of_mem _ List.mem_cons_self)
    obtain ⟨tools, rfl⟩ : ∃ tools, reply' = .ok tools := hcreate.accepted
    have hreason : m.finishReason? = some .canceled := by
      rw [Message.finishReason?_eq_head?, hmarks]
      rfl
    have hend : afterRound now' history m (some tools) = .stop (.error .canceled) := by
      simp [afterRound, hreason]
    rcases hrest' with ⟨rfl, hstop⟩ | ⟨p', hnext, -⟩
    · exact ⟨TurnProgress.stop.inj (hstop.symm.trans hend),
        closes_pair hmarks hids hsave hcreate⟩
    · cases hnext.symm.trans hend

theorem marks_closeFor_canceled (now : Timestamp) (m : Message) :
    (closeFor now .canceled m).marks.map (·.reason) = [.canceled] := by
  simp [closeFor, TurnFailure.isCanceled]

theorem finishes_stopTools {now : Timestamp} {history : List Message} {results : List ToolResult}
    {calls : List ToolCall} (hids : results.map (·.callId) ++ calls.map (·.id) = m.callIds) :
    Finishes setup (Closes m.id) (stopTools now history m results calls) := by
  refine finishes_stopping (m := m.addFinish now .canceled requestCanceled "") (by simp) ?_
  rw [List.map_append, map_callId_canceledResults, hids, Message.callIds_addFinish]

theorem finishes_abort (now : Timestamp) (m : Message) :
    Finishes setup (Closes m.id) (abort now m .canceled) := by
  have halike := (alike_finishCalls now m).trans (alike_closeFor now .canceled _)
  rw [halike.id]
  exact finishes_failing (marks_closeFor_canceled ..) halike.callIds

/-! ## From every phase to the end -/

/-- **The message of an unfinished round is closed as canceled.** -/
theorem finishes_message (hp : p.Coherent) (hu : p.Unfinished) (hm : p.message? = some m) :
    Finishes setup (Closes m.id) p := by
  have hstreaming : ∀ history, Finishes setup (Closes m.id) (.streaming history m) := by
    refine fun history => finishes_of_next fun now reply he => ?_
    obtain rfl : reply = .canceled := he.halted
    exact ⟨_, _, rfl, finishes_abort now m, fun es => Closes.cons rfl es⟩
  have hcharging : ∀ history session,
      Finishes setup (Closes m.id) (.charging history m session) := by
    refine fun history session => finishes_of_next fun now reply he => ?_
    obtain ⟨s, rfl⟩ : ∃ s, reply = .ok s := he.accepted
    exact ⟨_, _, rfl, hstreaming history, fun es => Closes.cons rfl es⟩
  have haccounting : ∀ history tokens,
      Finishes setup (Closes m.id) (.accounting history m tokens) := by
    refine fun history tokens => finishes_of_next fun now reply he => ?_
    obtain ⟨s, rfl⟩ : ∃ s, reply = .ok s := he.accepted
    exact ⟨_, _, rfl, hcharging history _, fun es => Closes.cons rfl es⟩
  cases p with
  | opening history m =>
    cases hm
    refine finishes_of_next fun now reply he => ?_
    obtain rfl : reply = .canceled := he.halted
    have halike := alike_closeFor now .canceled m
    refine ⟨_, _, rfl, finishes_failing (marks_closeFor_canceled now m) ?_,
      fun es => halike.id ▸ Closes.cons rfl es⟩
    rw [← halike.callIds, Message.callIds_eq_nil.mpr hp.2]
    rfl
  | streaming history m =>
    cases hm
    exact hstreaming history
  | saving history m tokens =>
    cases hm
    refine finishes_of_next fun now reply he => ?_
    obtain rfl : reply = .ok () := he.accepted
    cases tokens with
    | none => exact ⟨_, _, rfl, hstreaming history, fun es => Closes.cons rfl es⟩
    | some t => exact ⟨_, _, rfl, haccounting history t, fun es => Closes.cons rfl es⟩
  | accounting history m tokens =>
    cases hm
    exact haccounting history tokens
  | charging history m session =>
    cases hm
    exact hcharging history session
  | dispatching history m results call rest =>
    cases hm
    refine finishes_of_next fun now reply he => ?_
    obtain rfl : reply = .canceled := he.halted
    exact ⟨_, _, rfl, finishes_stopTools hp.2, fun es => Closes.cons rfl es⟩
  | awaiting history m results call rest =>
    cases hm
    refine finishes_of_next fun now reply he => ?_
    obtain rfl : reply = .canceled := he.halted
    exact ⟨_, _, rfl, finishes_stopTools hp.2, fun es => Closes.cons rfl es⟩
  | stopping | recording | failing | closing => cases hu
  | listing | reading | prompting | round | answering | draining | taking | queuing
  | excusing => cases hm

/-- Every round that begins along some exchanges is closed as canceled. -/
def ClosesRounds (es : List Exchange) : Prop :=
  ∀ m ∈ es.filterMap Exchange.created?, m.role = .assistant → ClosesCanceled m.id es

theorem NoRound.closesRounds (h : NoRound es) : ClosesRounds es :=
  fun m hm hrole => absurd hrole (h m hm)

/-- A turn that is before its round, or between two rounds, begins none once it meets the question
whether it was canceled. -/
theorem finishes_round (history : List Message) : Finishes setup NoRound (.round history) := by
  intro es outcome h hes
  obtain ⟨now, reply, rest, rfl, hrest⟩ := h.inv
  obtain rfl : reply = true := (hes ⟨.isCanceled, reply⟩ List.mem_cons_self).halted
  rcases hrest with ⟨rfl, hstop⟩ | ⟨p', hnext, -⟩
  · cases hstop
    exact ⟨rfl, fun m hm => nomatch (hm : m ∈ ([] : List Message))⟩
  · cases hnext

/-- The message of a user begins no round. -/
theorem NoRound.cons_user {text : String} {files : List Binary} {u : Message} (h : NoRound es)
    (he : Exchange.Halting ⟨.createMessage (userDraft text files), .ok u⟩) :
    NoRound (⟨.createMessage (userDraft text files), .ok u⟩ :: es) := by
  refine h.cons fun m hm => ?_
  cases hm
  rw [(he.honest u rfl).1]
  simp [userDraft]

/-- Prompts are recorded first. -/
theorem finishes_queuing (rest : List String) : ∀ (history : List Message) (prompt : String),
    Finishes setup NoRound (.queuing history prompt rest) := by
  -- Induction on the prompts behind the first; each of them is the first for the next step.
  induction rest with
  | nil =>
    refine fun history prompt => finishes_of_next fun now reply he => ?_
    obtain ⟨u, rfl⟩ : ∃ u, reply = .ok u := he.accepted
    exact ⟨_, _, rfl, finishes_round _, fun es hes => hes.cons_user he⟩
  | cons p rest ih =>
    refine fun history prompt => finishes_of_next fun now reply he => ?_
    obtain ⟨u, rfl⟩ : ∃ u, reply = .ok u := he.accepted
    exact ⟨_, _, rfl, ih _ p, fun es hes => hes.cons_user he⟩

theorem finishes_record (history : List Message) (prompts : List String) :
    Finishes setup NoRound (record history prompts) := by
  rcases record_cases history prompts with ⟨h, -⟩ | ⟨p, rest, h⟩ <;> rw [h]
  · exact finishes_round history
  · exact finishes_queuing rest history p

/-- A message that is created for a round is closed as canceled. -/
theorem finishes_answering (history : List Message) :
    Finishes setup ClosesRounds (.answering history) := by
  refine finishes_of_next fun now reply he => ?_
  obtain ⟨m, rfl⟩ : ∃ m, reply = .ok m := he.accepted
  obtain ⟨hrole, hparts⟩ := he.honest m rfl
  have hcoherent : Coherent (.opening history m) :=
    ⟨hrole, by simp [Message.toolCalls, hparts, assistantDraft]⟩
  refine ⟨_, _, rfl, finishes_message hcoherent trivial rfl, fun es hes m' hm' hrole' => ?_⟩
  have hresults : Exchange.results ⟨.createMessage (assistantDraft setup.model), .ok m⟩ = [] := by
    simp [Exchange.results, Exchange.created?, Message.toolResults, hparts, assistantDraft]
  rcases List.mem_cons.mp hm' with rfl | hin
  · exact hes.2.cons hresults
  · exact absurd hrole' (hes.1 m' hin)

/-- **A turn that is canceled before its round is done ends as canceled**, and the message of the
round, whether it is there or still to be created, is closed as canceled. -/
theorem finishes_unfinished (hp : p.Coherent) (hu : p.Unfinished) :
    Finishes setup (fun es => ClosesRounds es ∧
      ∀ m, p.message? = some m → ClosesCanceled m.id es) p := by
  have hquiet : p.message? = none → ∀ Q : List Exchange → Prop,
      (∀ es, Q es → ClosesRounds es) → Finishes setup Q p →
      Finishes setup (fun es => ClosesRounds es ∧
        ∀ m, p.message? = some m → ClosesCanceled m.id es) p := by
    intro hnone Q hQ hfinishes es outcome h hes
    obtain ⟨hcanceled, hq⟩ := hfinishes es outcome h hes
    exact ⟨hcanceled, hQ es hq, fun m hm => by simp [hnone] at hm⟩
  have hround : ∀ es, NoRound es → ClosesRounds es := fun es => NoRound.closesRounds
  have hprompting : ∀ history, Finishes setup NoRound (.prompting history) := by
    refine fun history => finishes_of_next fun now reply he => ?_
    obtain ⟨u, rfl⟩ : ∃ u, reply = .ok u := he.accepted
    exact ⟨_, _, rfl, finishes_round _, fun es hes => hes.cons_user he⟩
  have hreading : ∀ history, Finishes setup NoRound (.reading history) := by
    refine fun history => finishes_of_next fun now reply he => ?_
    obtain ⟨s, rfl⟩ : ∃ s, reply = .ok s := he.accepted
    exact ⟨_, _, rfl, hprompting _, fun es hes => hes.cons fun m hm => nomatch hm⟩
  cases p with
  | listing =>
    refine hquiet rfl NoRound hround (finishes_of_next fun now reply he => ?_)
    obtain ⟨history, rfl⟩ : ∃ history, reply = .ok history := he.accepted
    exact ⟨_, _, rfl, hreading history, fun es hes => hes.cons fun m hm => nomatch hm⟩
  | reading history => exact hquiet rfl NoRound hround (hreading history)
  | prompting history => exact hquiet rfl NoRound hround (hprompting history)
  | round history => exact hquiet rfl NoRound hround (finishes_round history)
  | answering history =>
    exact hquiet rfl ClosesRounds (fun _ hes => hes) (finishes_answering history)
  | draining history =>
    refine hquiet rfl NoRound hround (finishes_of_next fun now reply he => ?_)
    exact ⟨_, _, rfl, finishes_record history reply, fun es hes => hes.cons fun m hm => nomatch hm⟩
  | queuing history prompt rest =>
    exact hquiet rfl NoRound hround (finishes_queuing rest history prompt)
  | opening history m | streaming history m | saving history m | accounting history m
  | charging history m | dispatching history m | awaiting history m =>
    intro es outcome h hes
    obtain ⟨hcanceled, hno, hcloses⟩ := finishes_message hp hu rfl es outcome h hes
    refine ⟨hcanceled, hno.closesRounds, fun m' hm' => ?_⟩
    cases hm'
    exact hcloses
  | stopping | recording | taking | failing | excusing | closing => cases hu

end TurnPhase

end AgentDesk
