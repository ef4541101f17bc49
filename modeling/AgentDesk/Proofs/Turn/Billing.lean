import AgentDesk.Proofs.Turn.Streaming
/-!
# What a turn charges its session for

A turn owes its session one charge for each answer that a stream completes. It saves its message
first, then it reads the session, and then it saves the session with the answer accounted for. No
other event and no other phase has anything to do with it.

## Main definitions

* `Exchange.completion?` — the tokens of the answer that an exchange completes.
* `Exchange.Kept` — a store does what it is asked for, and keeps the counters of a session.
* `Bill`, `TurnPhase.bill` — what a turn still has to charge.
* `Bill.Goes` — what an exchange makes of it.
-/

namespace AgentDesk

/-- The session whose row a request may write. -/
def TurnRequest.files? : TurnRequest → Option String
  | .saveSession s => some s.id
  | _ => none

namespace Exchange

/-- The tokens of the answer that an exchange completes. -/
def completion? (e : Exchange) : Option Tokens :=
  match e.delivered? with
  | some (.complete a) => some a.tokens
  | _ => none

/-- The counters of a session that is saved come back as they were. -/
def Counted : Exchange → Prop
  | ⟨.saveSession s, (reply : Except StoreFailure Session)⟩ =>
    ∀ x, reply = .ok x → x.promptTokens = s.promptTokens ∧ x.completionTokens = s.completionTokens
  | _ => True

/-- A store does what it is asked for, and keeps the counters of a session that is saved. -/
structure Kept (e : Exchange) : Prop where
  accepted : e.Accepted
  counted : e.Counted

instance decidableCounted : (e : Exchange) → Decidable e.Counted
  | ⟨.saveSession s, (reply : Except StoreFailure Session)⟩ =>
    match reply with
    | .ok x => decidable_of_iff
        (x.promptTokens = s.promptTokens ∧ x.completionTokens = s.completionTokens)
        ⟨fun h _ hx => Except.ok.inj hx ▸ h, fun h => h x rfl⟩
    | .error _ => isTrue nofun
  | ⟨.listMessages, _⟩ | ⟨.readSession, _⟩ | ⟨.createMessage _, _⟩ | ⟨.updateMessage _, _⟩
  | ⟨.isCanceled, _⟩ | ⟨.openStream _, _⟩ | ⟨.nextEvent, _⟩ | ⟨.startTool _ _, _⟩
  | ⟨.awaitTool, _⟩ | ⟨.drainQueue, _⟩ | ⟨.finishOrTake, _⟩ => isTrue trivial

instance decidableKept (e : Exchange) : Decidable e.Kept :=
  decidable_of_iff (e.Accepted ∧ e.Counted) ⟨fun h => ⟨h.1, h.2⟩, fun h => ⟨h.1, h.2⟩⟩

end Exchange

/-- What a turn still has to charge its session for. -/
inductive Bill where
  /-- Nothing. -/
  | paid
  /-- An answer. -/
  | owed (tokens : Tokens)
  /-- An answer, with the session accounted for it already at hand. -/
  | drawn (session : Session)

instance Bill.decidablePaid : (b : Bill) → Decidable (b = .paid)
  | .paid => isTrue rfl
  | .owed _ | .drawn _ => isFalse nofun

/-- The session whose row is to be written next. -/
def Bill.files? : Bill → Option String
  | .drawn s => some s.id
  | .paid | .owed _ => none

/-- What a phase still has to charge. -/
def TurnPhase.bill : TurnPhase → Bill
  | .saving _ _ (some tokens) | .accounting _ _ tokens => .owed tokens
  | .charging _ _ session => .drawn session
  | _ => .paid

/-- What is still to be charged where an answer leads. -/
def TurnProgress.bill : TurnProgress → Bill
  | .next p => p.bill
  | .stop _ => .paid

/-- What an exchange makes of what a turn has to charge. A turn whose store fails charges nothing
any more. -/
inductive Bill.Goes (m : Model) : Bill → Exchange → Bill → Prop
  | completes (e : Exchange) (tokens : Tokens) (completion : e.completion? = some tokens)
    (files : e.request.files? = none) : Goes m .paid e (.owed tokens)
  | saves (e : Exchange) (tokens : Tokens) (completion : e.completion? = none)
    (files : e.request.files? = none) : Goes m (.owed tokens) e (.owed tokens)
  | reads (tokens : Tokens) (s : Session) : Goes m (.owed tokens)
      ⟨.readSession, (.ok s : Except StoreFailure Session)⟩ (.drawn (Usage.accrue m tokens s))
  | charges (s x : Session) : Goes m (.drawn s)
      ⟨.saveSession s, (.ok x : Except StoreFailure Session)⟩ .paid
  | other (e : Exchange) (completion : e.completion? = none) (files : e.request.files? = none) :
    Goes m .paid e .paid
  | fails (b : Bill) (e : Exchange) (fails : ¬ e.Accepted) : Goes m b e .paid

namespace TurnPhase

variable {setup : TurnSetup} {now : Timestamp} {history : List Message} {m : Message}

/-- A turn writes the row of a session only if it has the session at hand. -/
theorem files?_request (p : TurnPhase) : (p.request setup).files? = p.bill.files? := by
  cases p with
  | saving history m tokens => cases tokens <;> rfl
  | _ => rfl

theorem bill_nextCall (results : List ToolResult) (calls : List ToolCall) :
    (nextCall history m results calls).bill = .paid := by
  cases calls <;> rfl

theorem bill_record (prompts : List String) : (record history prompts).bill = .paid := by
  unfold record
  split <;> rfl

theorem bill_afterRound (tools : Option Message) :
    (afterRound now history m tools).bill = .paid := by
  unfold afterRound
  split <;> rfl

theorem bill_afterStream : (afterStream now history m).bill = .paid := by
  unfold afterStream
  split
  · exact bill_afterRound none
  · rfl

/-- An event that is applied completes an answer if it is the event that says so. -/
theorem tokens_applyEvent {e : StreamEvent} {m' : Message} {tokens : Option Tokens}
    (h : applyEvent now m e = .ok (m', tokens)) :
    (⟨.nextEvent, NextEvent.event e⟩ : Exchange).completion? = tokens := by
  cases e <;> cases h <;> rfl

theorem bill_of_not_accepted (p : TurnPhase) (reply : (p.request setup).Reply)
    (h : ¬ (⟨p.request setup, reply⟩ : Exchange).Accepted) :
    (p.resume setup now reply).bill = .paid := by
  cases p with
  | listing =>
    cases (reply : Except StoreFailure (List Message)) with
    | error cause => rfl
    | ok history => exact absurd ⟨history, rfl⟩ h
  | reading _ | accounting _ _ _ | charging _ _ _ =>
    cases (reply : Except StoreFailure Session) with
    | error cause => rfl
    | ok s => exact absurd ⟨s, rfl⟩ h
  | prompting _ | answering _ | recording _ _ _ | queuing _ _ _ | excusing _ _ =>
    cases (reply : Except StoreFailure Message) with
    | error cause => rfl
    | ok m => exact absurd ⟨m, rfl⟩ h
  | saving _ _ _ | stopping _ _ _ | closing _ =>
    cases (reply : Except StoreFailure Unit) with
    | error cause => rfl
    | ok _ => exact absurd rfl h
  | failing _ _ _ =>
    simp only [resume]
    split <;> rfl
  | _ => exact absurd trivial h

theorem goes_bill_of_accepted (p : TurnPhase) (reply : (p.request setup).Reply)
    (h : (⟨p.request setup, reply⟩ : Exchange).Accepted) :
    Bill.Goes setup.model p.bill ⟨p.request setup, reply⟩ (p.resume setup now reply).bill := by
  have hother : ∀ e b, e.completion? = none → e.request.files? = none → b = Bill.paid →
      Bill.Goes setup.model .paid e b := by
    rintro e b hcompletion hfiles rfl
    exact .other e hcompletion hfiles
  cases p with
  | streaming history m =>
    cases (reply : NextEvent) with
    | canceled => exact .other _ rfl rfl
    | closed => exact hother _ _ rfl rfl bill_afterStream
    | event e =>
      simp only [resume]
      cases happly : applyEvent now m e with
      | error cause =>
        cases e <;> cases happly
        exact .other _ rfl rfl
      | ok r =>
        obtain ⟨m', tokens⟩ := r
        cases tokens with
        | some tokens => exact .completes _ tokens (tokens_applyEvent happly) rfl
        | none => exact .other _ (tokens_applyEvent happly) rfl
  | saving history m tokens =>
    obtain rfl : reply = (.ok () : Except StoreFailure Unit) := h
    cases tokens with
    | some tokens => exact .saves _ tokens rfl rfl
    | none => exact .other _ rfl rfl
  | accounting history m tokens =>
    obtain ⟨s, rfl⟩ : ∃ s, reply = (.ok s : Except StoreFailure Session) := h
    exact .reads tokens s
  | charging history m s =>
    obtain ⟨x, rfl⟩ : ∃ x, reply = (.ok x : Except StoreFailure Session) := h
    exact .charges s x
  | listing | reading _ | prompting _ | round _ | answering _ | opening _ _ | failing _ _ _ =>
    refine hother _ _ rfl rfl ?_
    simp only [resume]
    split <;> rfl
  | dispatching history m results call rest =>
    refine hother _ _ rfl rfl ?_
    cases (reply : ToolStart) with
    | unknown => exact bill_nextCall ..
    | canceled | started => rfl
  | awaiting history m results call rest =>
    refine hother _ _ rfl rfl ?_
    simp only [resume]
    split
    · rfl
    · exact bill_nextCall ..
    · rfl
    · exact bill_nextCall ..
  | recording history m results =>
    refine hother _ _ rfl rfl ?_
    cases (reply : Except StoreFailure Message) with
    | error cause => rfl
    | ok tools => exact bill_afterRound (some tools)
  | draining history => exact hother _ _ rfl rfl (bill_record _)
  | taking history m =>
    refine hother _ _ rfl rfl ?_
    simp only [resume]
    split
    · rfl
    · split
      · rfl
      · exact bill_record _
  | queuing history prompt rest =>
    refine hother _ _ rfl rfl ?_
    simp only [resume]
    split
    · rfl
    · split <;> rfl
  | stopping _ _ _ | excusing _ _ | closing _ => exact hother _ _ rfl rfl rfl

/-- **What a step makes of what a turn has to charge.** -/
theorem goes_bill (setup : TurnSetup) (now : Timestamp) (p : TurnPhase)
    (reply : (p.request setup).Reply) :
    Bill.Goes setup.model p.bill ⟨p.request setup, reply⟩ (p.resume setup now reply).bill := by
  by_cases h : (⟨p.request setup, reply⟩ : Exchange).Accepted
  · exact goes_bill_of_accepted p reply h
  · rw [bill_of_not_accepted p reply h]
    exact .fails p.bill _ h

end TurnPhase

end AgentDesk
