import AgentDesk.Proofs.Turn.Transcript
/-!
# What the turns of a session tell a provider

The turns of a session run one after another, each on the transcript that the earlier ones left. The
transcript is well paired whenever no turn is running. So is every request that a turn makes, unless
the turn slipped: a message was closed as the last one although it had calls, their results were
recorded but not kept in mind, and prompts that had been queued carried the turn on.

## Main definitions

* `Conversation` — what can be reached when the turns of a session run one after another.
* `TurnPhase.Tells` — what a turn keeps in mind for its requests.
-/

namespace AgentDesk

/-- The turns of a session one after another: the transcript, which is empty at first, and the turn
that is running with its phase. What the surroundings answer is free, as long as the store works. -/
inductive Conversation (session : String) (summary : Option String) :
    List Message → Option (TurnSetup × TurnPhase) → Prop where
  | fresh : Conversation session summary [] none
  | begins {log : List Message} (setup : TurnSetup) (hsession : setup.sessionId = session) :
    Conversation session summary log none →
    Conversation session summary log (some (setup, .listing))
  | goesOn {log log' : List Message} {setup : TurnSetup} {p p' : TurnPhase} :
    Conversation session summary log (some (setup, p)) →
    p.Leads setup summary false log log' (.next p') →
    Conversation session summary log' (some (setup, p'))
  | ends {log log' : List Message} {setup : TurnSetup} {p : TurnPhase}
    {outcome : Except TurnFailure Message} :
    Conversation session summary log (some (setup, p)) →
    p.Leads setup summary false log log' (.stop outcome) →
    Conversation session summary log' none

/-- What holds of the turn that is running, if there is one. -/
def Running (P : TurnPhase → Prop) (idle : Prop) : Option (TurnSetup × TurnPhase) → Prop
  | some (_, p) => P p
  | none => idle

/-- Every turn finds the transcript in order, and leaves it in order. -/
theorem Conversation.fits {session : String} {summary : Option String} {log : List Message}
    {turn : Option (TurnSetup × TurnPhase)} (h : Conversation session summary log turn) :
    Running (fun p => p.Coherent ∧ p.Fits log) (Paired log) turn := by
  induction h with
  | fresh => exact .nil
  | begins setup _ _ ih => exact ⟨trivial, ih⟩
  | goesOn _ hstep ih => exact ⟨hstep.coherent ih.1, hstep.fits ih.1 ih.2⟩
  | ends _ hstep ih => exact hstep.fits ih.1 ih.2

namespace TurnPhase

variable {setup : TurnSetup} {canceled : Bool} {now : Timestamp}
  {history log log' : List Message} {m : Message}

/-! ## What a turn keeps in mind -/

/-- A prompt may follow these messages. -/
def TakesPrompt (history : List Message) : Prop :=
  ∀ u : Message, u.role = .user → Told (history ++ [u])

theorem takesPrompt_of_told (h : Told history) : TakesPrompt history := fun u hu =>
  h.append (.plain (by simp [Message.asks, hu]) (by simp [hu]))

/-- The messages that a turn keeps in mind are told without a gap, but for slips. A message that
was closed as the last one may stand at their end until a prompt follows it. -/
def Tells : TurnPhase → Prop
  | .reading history | .prompting history => Paired history
  | .round history | .answering history | .opening history _ | .streaming history _
  | .saving history _ _ | .accounting history _ _ | .charging history _ _
  | .dispatching history _ _ _ _ | .awaiting history _ _ _ _ | .stopping history _ _
  | .recording history _ _ | .draining history => Told history
  | .taking history m => ∃ before, history = before ++ [m] ∧ Told before
  | .queuing history _ _ => TakesPrompt history
  | _ => True

theorem tells_nextCall (h : Told history) (m : Message) (results : List ToolResult)
    (rest : List ToolCall) : (nextCall history m results rest).Tells := by
  cases rest <;> exact h

/-- The prompts that are recorded must be fit to follow, and so must a round if there are none. -/
theorem tells_record {prompts : List String} (hround : prompts.all String.isEmpty → Told history)
    (hqueue : TakesPrompt history) : (record history prompts).Tells := by
  rcases record_cases history prompts with ⟨heq, hall⟩ | ⟨p, rest, heq⟩
  · rw [heq]
    exact hround hall
  · rw [heq]
    exact hqueue

theorem tells_afterRound {tools : Option Message} {p : TurnPhase} (h : Told history)
    (hrole : m.role = .assistant) (htools : ∀ t, tools = some t → m.asks ∧ t.answers m)
    (hp : afterRound now history m tools = .next p) : p.Tells := by
  rcases afterRound_eq_next hp with ⟨t, ht, rfl⟩ | ⟨-, rfl⟩ | ⟨-, rfl⟩
  · obtain ⟨hasks, hanswer⟩ := htools t ht
    have hpair : Told [m, t] :=
      .exchange (.inl (Message.precedes_of_answers hasks hanswer)) (by simp [hrole]) hanswer.1
    exact h.append hpair
  · exact ⟨history, rfl, h⟩
  · trivial

/-- **A turn keeps in mind what it may tell**, if it begins with a transcript in order. -/
theorem Leads.tells {p p' : TurnPhase} (hp : p.Coherent) (hf : p.Fits log) (ht : p.Tells)
    (h : p.Leads setup none canceled log log' (.next p')) : p'.Tells := by
  obtain ⟨now, reply, hs, hnext⟩ := h
  cases p with
  | listing =>
    obtain ⟨rfl, rfl⟩ := hs
    cases hnext
    exact hf
  | reading history =>
    obtain ⟨⟨s, rfl, hsummary⟩, rfl⟩ := hs
    cases hnext
    rw [hsummary]
    exact ht
  | prompting history =>
    obtain ⟨id, now', -, rfl, rfl⟩ := hs
    cases hnext
    exact takesPrompt_of_told ht.told _ rfl
  | round history =>
    simp only [resume] at hnext
    split at hnext <;> cases hnext
    exact ht
  | answering history =>
    obtain ⟨id, now', -, rfl, rfl⟩ := hs
    cases hnext
    exact ht
  | opening history m =>
    simp only [resume] at hnext
    split at hnext <;> cases hnext
    · trivial
    · trivial
    · exact ht
  | streaming history m =>
    simp only [resume] at hnext
    split at hnext
    · cases hnext
      trivial
    · unfold afterStream at hnext
      split at hnext
      · exact tells_afterRound ht hp (by simp) hnext
      · cases hnext
        exact ht
    · split at hnext <;> cases hnext
      · exact ht
      · trivial
  | saving history m tokens =>
    simp only [resume] at hnext
    split at hnext
    · cases hnext
      trivial
    · split at hnext <;> cases hnext <;> exact ht
  | accounting history m tokens | charging history m session =>
    simp only [resume] at hnext
    split at hnext <;> cases hnext
    · trivial
    · exact ht
  | dispatching history m results call rest =>
    simp only [resume] at hnext
    split at hnext <;> cases hnext
    · exact ht
    · exact tells_nextCall ht ..
    · exact ht
  | awaiting history m results call rest =>
    simp only [resume] at hnext
    split at hnext <;> cases hnext
    · exact ht
    · exact tells_nextCall ht ..
    · exact ht
    · exact tells_nextCall ht ..
  | stopping history m results =>
    cases hnext
    exact ht
  | recording history m results =>
    obtain ⟨hrole, hcalls, hids⟩ := hp
    obtain ⟨id, now', -, rfl, rfl⟩ := hs
    refine tells_afterRound ht hrole ?_ hnext
    rintro t ⟨⟩
    exact ⟨⟨hrole, hcalls⟩, answers_resultsDraft hids⟩
  | draining history =>
    cases hnext
    exact tells_record (fun _ => ht) (takesPrompt_of_told ht)
  | taking history m =>
    obtain ⟨hrole, hend⟩ := hp
    simp only [resume] at hnext
    split at hnext
    · cases hnext
    · split at hnext <;> cases hnext
      · exact ht
      · -- Only a prompt that is recorded carries the turn on, so no round begins behind `m` alone.
        rename_i hsome
        obtain ⟨before, rfl, htold⟩ := ht
        exact tells_record (fun hall => absurd hall hsome)
          fun u hu => htold.append_user hrole hend hu
  | queuing history prompt rest =>
    obtain ⟨id, now', -, rfl, rfl⟩ := hs
    have htold : Told (history ++ [(userDraft prompt []).toMessage id setup.sessionId now']) :=
      ht _ rfl
    simp only [resume] at hnext
    split at hnext <;> cases hnext
    · exact htold
    · exact takesPrompt_of_told htold
  | failing m calls cause =>
    simp only [resume] at hnext
    split at hnext <;> cases hnext
    trivial
  | excusing calls cause => cases hnext
  | closing m => cases hnext

end TurnPhase

theorem Conversation.tells {session : String} {log : List Message}
    {turn : Option (TurnSetup × TurnPhase)} (h : Conversation session none log turn) :
    Running TurnPhase.Tells True turn := by
  induction h with
  | fresh => trivial
  | begins => trivial
  | goesOn hbefore hstep ih => exact hstep.tells hbefore.fits.1 hbefore.fits.2 ih
  | ends => trivial

/-- **Which requests are well paired.** In the turns of a session without a summary, a request is
well paired exactly if no message in it slips: unless an answer with calls was closed as the last
one and queued prompts were taken behind it, every call has its results right behind it. -/
theorem paired_request_iff {session : String} {log : List Message} {setup : TurnSetup}
    {p : TurnPhase} {r : ModelRequest} (h : Conversation session none log (some (setup, p)))
    (hr : p.request setup = .openStream r) :
    Paired r.messages ↔ r.messages.IsChain fun m u => ¬ m.Slips u := by
  have htells := h.tells
  cases p with
  | opening history m =>
    cases hr
    exact Told.paired_iff htells
  | _ => cases hr

/-- A turn of the session `s`, and a call that its answer makes. -/
def briefTurn : TurnSetup := ⟨"s", "hello", [], default, [], none, 1000⟩

@[inherit_doc briefTurn]
def briefCall : ToolCall := ⟨"c1", "echo", "", false⟩

/-- The first answer makes a call and is closed as the last one, and then a queued prompt is taken:
the second request tells of the call, but not of its result. -/
theorem exists_request_not_paired :
    ∃ log p r, Conversation "s" none log (some (briefTurn, p)) ∧
      p.request briefTurn = .openStream r ∧ ¬ Paired r.messages := by
  have h : Conversation "s" none [] (some (briefTurn, .listing)) := .begins briefTurn rfl .fresh
  have h := h.goesOn ⟨default, .ok [], ⟨rfl, rfl⟩, rfl⟩
  have h := h.goesOn ⟨default, .ok default, ⟨⟨default, rfl, rfl⟩, rfl⟩, rfl⟩
  have h := h.goesOn ⟨default, _, ⟨"s#1", default, by simp, rfl, rfl⟩, rfl⟩
  have h := h.goesOn ⟨default, false, ⟨by simp, rfl⟩, rfl⟩
  have h := h.goesOn ⟨default, _, ⟨"s#2", default, by decide, rfl, rfl⟩, rfl⟩
  have h := h.goesOn ⟨default, .opened, ⟨by simp, rfl⟩, rfl⟩
  have h := h.goesOn
    ⟨default, .event (.complete ⟨"", [briefCall], .zero, .endTurn⟩), ⟨by simp, rfl⟩, rfl⟩
  have h := h.goesOn ⟨default, .ok (), ⟨rfl, default, rfl⟩, rfl⟩
  have h := h.goesOn ⟨default, .ok default, ⟨⟨default, rfl, rfl⟩, rfl⟩, rfl⟩
  have h := h.goesOn ⟨default, .ok default, ⟨⟨default, rfl⟩, rfl⟩, rfl⟩
  have h := h.goesOn ⟨default, .closed, ⟨by simp, rfl⟩, rfl⟩
  have h := h.goesOn ⟨default, .unknown, ⟨by simp, rfl⟩, rfl⟩
  have h := h.goesOn ⟨default, _, ⟨"s#3", default, by decide, rfl, rfl⟩, rfl⟩
  have h := h.goesOn ⟨default, ["more"], ⟨by simp, rfl⟩, rfl⟩
  have h := h.goesOn ⟨default, _, ⟨"s#4", default, by decide, rfl, rfl⟩, rfl⟩
  have h := h.goesOn ⟨default, false, ⟨by simp, rfl⟩, rfl⟩
  have h := h.goesOn ⟨default, _, ⟨"s#5", default, by decide, rfl, rfl⟩, rfl⟩
  refine ⟨_, _, _, h, rfl, ?_⟩
  rw [paired_request_iff h rfl]
  intro hchain
  have hslip := (List.isChain_cons_cons.mp (List.isChain_cons_cons.mp hchain).2).1
  exact hslip ⟨⟨rfl, by decide⟩, rfl, rfl⟩

end AgentDesk
