import AgentDesk.Proofs.Turn.Halting
import AgentDesk.Proofs.Turn.Overlap
import Mathlib.Data.Fintype.EquivFin
/-!
# A session across cancel and restart

A session is serialized across a restart if the transcript is in order once both turns are over, and
the first request of the new turn tells of no call without its results. This holds exactly if the
canceled turn was quiet. Otherwise there is a schedule that breaks it: while the old turn still owes
the results of its calls, the prompt of the new one takes their place; or the old turn puts a
message of its own between the calls of the new one and their results.

## Main definitions

* `Overlap.Serialized` — what a session promises across a restart.
* `Parted` — a message that asks is parted from its answer.
* `TurnPhase.Ends` — a turn alone, from a phase to its end.
-/

namespace AgentDesk

/-- What a session promises while a canceled turn and the one after it are under way. -/
structure Overlap.Serialized (o : Overlap) : Prop where
  first : ∀ history ∈ o.told.head?, Answered history
  log : o.old = none → o.new = none → Answered o.log

/-! ## A message parted from its answer -/

/-- What directly follows the message with this identifier, which asks, is no answer. -/
def Parted (id : String) (log : List Message) : Prop :=
  ∃ before x y behind, log = before ++ x :: y :: behind ∧ x.id = id ∧ x.asks ∧ y.role ≠ .tool

namespace Parted

variable {id : String} {log : List Message}

theorem intro {before : List Message} {x y : Message} (hasks : x.asks) (hy : y.role ≠ .tool) :
    Parted x.id (before ++ [x] ++ [y]) :=
  ⟨before, x, y, [], by simp, rfl, hasks, hy⟩

theorem exists_mem (h : Parted id log) : ∃ x ∈ log, x.id = id := by
  obtain ⟨before, x, y, behind, rfl, hid, -, -⟩ := h
  exact ⟨x, by simp, hid⟩

theorem not_answered (h : Parted id log) : ¬ Answered log := by
  obtain ⟨before, x, y, behind, rfl, -, hasks, hy⟩ := h
  intro hlog
  have hxy := (List.isChain_append_cons_cons.mp hlog.chain).2.1
  exact hy (hxy hasks).1

theorem append (h : Parted id log) (t : Message) : Parted id (log ++ [t]) := by
  obtain ⟨before, x, y, behind, rfl, hrest⟩ := h
  exact ⟨before, x, y, behind ++ [t], by simp, hrest⟩

/-- Saving a message of the assistant does not help, if the message that asks goes on to ask. -/
theorem save {m : Message} (h : Parted id log) (hrole : m.role = .assistant)
    (hkeep : m.id = id → m.toolCalls ≠ []) (now : Timestamp) :
    Parted id (rewrite (m.savedAt now) log) := by
  obtain ⟨before, x, y, behind, rfl, hid, hasks, hy⟩ := h
  refine ⟨rewrite (m.savedAt now) before, if x.id == m.id then m.savedAt now else x,
    if y.id == m.id then m.savedAt now else y, rewrite (m.savedAt now) behind,
    by simp [rewrite, Message.savedAt], ?_, ?_, ?_⟩
  · split
    · rename_i hm
      exact (beq_iff_eq.mp hm).symm.trans hid
    · exact hid
  · split
    · rename_i hm
      exact ⟨hrole, hkeep ((beq_iff_eq.mp hm).symm.trans hid)⟩
    · exact hasks
  · split
    · simp [Message.savedAt, hrole]
    · exact hy

end Parted

namespace TurnPhase

variable {setup : TurnSetup} {summary : Option String} {canceled : Bool} {id : String}
  {log log' : List Message} {p p' : TurnPhase} {progress : TurnProgress}

/-- If the turn saves the message with this identifier, then with calls. -/
def Keeps (id : String) (p : TurnPhase) : Prop :=
  ∀ m, p.message? = some m → m.id = id → m.toolCalls ≠ []

theorem Leads.keeps (hk : p.Keeps id) (hid : ∃ x ∈ log, x.id = id)
    (h : p.Leads setup summary canceled log log' (.next p')) : p'.Keeps id := by
  intro m' hm' heq
  rcases h.message_cases hm' with ⟨m, hm, hsame⟩ | hfresh
  · exact hsame.calls (hk m hm (hsame.id.trans heq))
  · obtain ⟨x, hx, hxid⟩ := hid
    exact absurd (hxid.trans heq.symm) (hfresh x hx)

theorem Leads.parted (hp : p.Coherent) (hk : p.Keeps id) (hs : Parted id log)
    (h : p.Leads setup summary canceled log log' progress) : Parted id log' := by
  rcases h.log_cases with rfl | ⟨m, now, hm, rfl⟩ | ⟨x, rfl, -⟩
  · exact hs
  · exact hs.save (hp.role hm) (hk m hm) now
  · exact hs.append x

/-! ## Running a turn to its end -/

/-- A turn alone, from a phase to its end. -/
inductive Ends (setup : TurnSetup) (summary : Option String) (canceled : Bool) :
    List Message → TurnPhase → List Message → Prop where
  | stop {log log' : List Message} {p : TurnPhase} {outcome : Except TurnFailure Message} :
    p.Leads setup summary canceled log log' (.stop outcome) →
    Ends setup summary canceled log p log'
  | next {log log' log'' : List Message} {p p' : TurnPhase} :
    p.Leads setup summary canceled log log' (.next p') →
    Ends setup summary canceled log' p' log'' → Ends setup summary canceled log p log''

/-- There is always an identifier that no message has. -/
theorem exists_fresh (log : List Message) : ∃ id : String, ∀ x ∈ log, x.id ≠ id := by
  obtain ⟨id, hid⟩ := Infinite.exists_notMem_finset (log.map (·.id)).toFinset
  exact ⟨id, fun x hx heq => hid (by simpa using ⟨x, hx, heq⟩)⟩

/-- A working store and surroundings that take a turn for canceled answer every request. -/
theorem exists_served (session : String) (summary : Option String) (canceled : Bool)
    (log : List Message) (r : TurnRequest) :
    ∃ log' reply, Served session summary canceled log log' r reply ∧ r.Halted reply ∧
      r.taken reply = 0 := by
  cases r with
  | listMessages => exact ⟨log, .ok log, ⟨rfl, rfl⟩, trivial, rfl⟩
  | readSession =>
    exact ⟨log, .ok { (default : Session) with summary := summary }, ⟨⟨_, rfl, rfl⟩, rfl⟩,
      trivial, rfl⟩
  | saveSession session => exact ⟨log, .ok session, ⟨⟨_, rfl⟩, rfl⟩, trivial, rfl⟩
  | createMessage draft =>
    obtain ⟨id, hfresh⟩ := exists_fresh log
    exact ⟨_, _, ⟨id, default, hfresh, rfl, rfl⟩, trivial, rfl⟩
  | updateMessage m => exact ⟨_, .ok (), ⟨rfl, default, rfl⟩, trivial, rfl⟩
  | isCanceled => exact ⟨log, true, ⟨fun _ => rfl, rfl⟩, rfl, rfl⟩
  | openStream request => exact ⟨log, .canceled, ⟨fun _ => rfl, rfl⟩, rfl, rfl⟩
  | nextEvent => exact ⟨log, .canceled, ⟨fun _ => rfl, rfl⟩, rfl, rfl⟩
  | startTool messageId call => exact ⟨log, .canceled, ⟨fun _ => rfl, rfl⟩, rfl, rfl⟩
  | awaitTool => exact ⟨log, .canceled, ⟨fun _ => rfl, rfl⟩, rfl, rfl⟩
  | drainQueue => exact ⟨log, [], rfl, trivial, rfl⟩
  | finishOrTake => exact ⟨log, [], ⟨fun _ => rfl, rfl⟩, trivial, rfl⟩

/-- Every turn can come to its end, and what is parted stays parted. -/
theorem exists_ends (setup : TurnSetup) (summary : Option String) (canceled : Bool)
    (hp : p.Coherent) (hk : p.Keeps id) (hs : Parted id log) :
    ∃ log', Ends setup summary canceled log p log' ∧ Parted id log' := by
  -- The turn is served as if it was canceled, and comes closer to its end with every step.
  induction hn : p.left using Nat.strong_induction_on generalizing p log with
  | _ n ih =>
    obtain ⟨log', reply, hserved, hhalted, htaken⟩ :=
      exists_served setup.sessionId summary canceled log (p.request setup)
    have hleads : p.Leads setup summary canceled log log' (p.resume setup default reply) :=
      ⟨default, reply, hserved, rfl⟩
    cases hprogress : p.resume setup default reply with
    | stop outcome =>
      rw [hprogress] at hleads
      exact ⟨log', .stop hleads, hleads.parted hp hk hs⟩
    | next p' =>
      rw [hprogress] at hleads
      have hleft : p'.left < n := by
        have hlt := left_resume hhalted hprogress
        omega
      obtain ⟨log'', hends, hs'⟩ := ih _ hleft (hleads.coherent hp)
        (hleads.keeps hk hs.exists_mem) (hleads.parted hp hk hs) rfl
      exact ⟨log'', .next hleads hends, hs'⟩

/-! ## Single steps -/

section

variable (setup summary canceled)

theorem leads_listing (log : List Message) :
    Leads setup summary canceled log .listing log (.next (.reading log)) :=
  ⟨default, .ok log, ⟨rfl, rfl⟩, rfl⟩

theorem leads_reading (log history : List Message) :
    Leads setup summary canceled log (.reading history) log
      (.next (.prompting (fromSummary summary history))) :=
  ⟨default, .ok { (default : Session) with summary := summary }, ⟨⟨_, rfl, rfl⟩, rfl⟩, rfl⟩

theorem leads_prompting (log history : List Message) :
    ∃ u, u.role = .user ∧ Leads setup summary canceled log (.prompting history) (log ++ [u])
      (.next (.round (history ++ [u]))) := by
  obtain ⟨id, hfresh⟩ := exists_fresh log
  exact ⟨_, rfl, default, _, ⟨id, default, hfresh, rfl, rfl⟩, rfl⟩

theorem leads_queuing (log history : List Message) (prompt : String) (rest : List String) :
    ∃ u p', u.role = .user ∧ p'.message? = none ∧ Leads setup summary canceled log
      (.queuing history prompt rest) (log ++ [u]) (.next p') := by
  obtain ⟨id, hfresh⟩ := exists_fresh log
  cases rest with
  | nil => exact ⟨_, .round _, rfl, rfl, default, _, ⟨id, default, hfresh, rfl, rfl⟩, rfl⟩
  | cons p rest =>
    exact ⟨_, .queuing _ p rest, rfl, rfl, default, _, ⟨id, default, hfresh, rfl, rfl⟩, rfl⟩

theorem leads_answering (log history : List Message) :
    ∃ m, m.role = .assistant ∧ m.toolCalls = [] ∧ (∀ x ∈ log, x.id ≠ m.id) ∧
      Leads setup summary canceled log (.answering history) (log ++ [m])
        (.next (.opening history m)) := by
  obtain ⟨id, hfresh⟩ := exists_fresh log
  exact ⟨_, rfl, rfl, hfresh, default, _, ⟨id, default, hfresh, rfl, rfl⟩, rfl⟩

end

/-- Whether a turn comes to create a message that is no answer, although it was canceled. -/
def Creates : TurnPhase → Prop
  | .listing | .reading _ | .prompting _ | .answering _ | .draining _ | .queuing _ _ _ => True
  | _ => False

/-- What it means that a turn is not quiet: it creates a message of its own, or it has one that asks
at the end of the transcript, or is about to save one there. -/
theorem not_quiet_cases (hq : ¬ p.Quiet) (hp : p.Coherent) (hf : p.Fits log) :
    p.Creates ∨ (∃ before x, log = before ++ [x] ∧ x.asks ∧ p.Keeps x.id) ∨
      ∃ history m tokens, p = .saving history m tokens := by
  have hcurrent : ∀ {m}, Current Message.Alike log m → m.asks →
      (∀ m', p.message? = some m' → m' = m) →
      ∃ before x, log = before ++ [x] ∧ x.asks ∧ p.Keeps x.id := by
    rintro m ⟨before, x, rfl, -, -, hx⟩ hasks honly
    refine ⟨before, x, rfl, hx.asks_iff.mpr hasks, fun m' hm' _ => ?_⟩
    rw [honly m' hm']
    exact hasks.2
  have honly : ∀ {m}, p.message? = some m → ∀ m', p.message? = some m' → m' = m :=
    fun hm m' hm' => Option.some.inj (hm'.symm.trans hm)
  cases p with
  | listing | reading | prompting | answering | draining | queuing => exact .inl trivial
  | round | opening | taking | closing => exact absurd trivial hq
  | streaming | accounting | charging =>
    exact .inr (.inl (hcurrent hf ⟨hp, hq⟩ (honly rfl)))
  | saving history m tokens => exact .inr (.inr ⟨history, m, tokens, rfl⟩)
  | dispatching | awaiting =>
    exact .inr (.inl (hcurrent hf ⟨hp.1, toolCalls_ne_nil_of_coherent hp.2⟩ (honly rfl)))
  | stopping | recording => exact .inr (.inl (hcurrent hf ⟨hp.1, hp.2.1⟩ (honly rfl)))
  | failing m calls cause =>
    refine .inr (.inl (hcurrent hf ⟨hp.1, fun hnil => hq ?_⟩ (honly rfl)))
    have hids := hp.2
    rw [Message.callIds_eq_nil.mpr hnil] at hids
    exact List.map_eq_nil_iff.mp hids
  | excusing calls cause =>
    obtain ⟨m, hm, hasks, -⟩ := hf
    exact .inr (.inl (hcurrent hm hasks fun m' hm' => by cases hm'))

end TurnPhase

/-! ## Schedules -/

namespace Overlap

variable {oldSetup newSetup : TurnSetup} {summary : Option String} {id : String}
  {log log' : List Message} {p q : TurnPhase} {new : Option TurnPhase} {told : List (List Message)}

/-- The old turn runs to its end. -/
theorem reaches_old (h : TurnPhase.Ends oldSetup summary true log p log') :
    Reaches oldSetup newSetup summary ⟨log, some p, new, told⟩ ⟨log', none, new, told⟩ := by
  induction h with
  | stop hstep => exact .single (.old hstep)
  | next hstep _ ih => exact .head (.old hstep) ih

/-- The new turn runs to its end. -/
theorem exists_reaches_new {old : Option TurnPhase}
    (h : TurnPhase.Ends newSetup summary false log p log') :
    ∃ told', Reaches oldSetup newSetup summary ⟨log, old, some p, told⟩
      ⟨log', old, none, told'⟩ := by
  induction h generalizing told with
  | stop hstep => exact ⟨_, .single (.new hstep)⟩
  | next hstep _ ih =>
    obtain ⟨told', hrest⟩ := ih
    exact ⟨told', .head (.new hstep) hrest⟩

/-- Once a message is parted from its answer, both turns can come to their end without mending it.
-/
theorem breaks_of_parted (hp : p.Coherent) (hkp : p.Keeps id) (hq : q.Coherent) (hkq : q.Keeps id)
    (hs : Parted id log) :
    ∃ o, Reaches oldSetup newSetup summary ⟨log, some p, some q, told⟩ o ∧ ¬ o.Serialized := by
  obtain ⟨log', hold, hs'⟩ := TurnPhase.exists_ends oldSetup summary true hp hkp hs
  obtain ⟨log'', hnew, hs''⟩ := TurnPhase.exists_ends newSetup summary false hq hkq hs'
  obtain ⟨told', hrest⟩ := exists_reaches_new hnew
  exact ⟨_, (reaches_old hold).trans hrest, fun h => hs''.not_answered (h.log rfl rfl)⟩

/-- The new turn records its prompt behind the transcript that it finds. -/
theorem exists_prompted (oldSetup newSetup : TurnSetup) (summary : Option String)
    (log : List Message) (old : Option TurnPhase) :
    ∃ u history, u.role = .user ∧ Reaches oldSetup newSetup summary ⟨log, old, some .listing, []⟩
      ⟨log ++ [u], old, some (.round history), []⟩ := by
  obtain ⟨u, hu, hprompt⟩ := TurnPhase.leads_prompting newSetup summary false log
    (TurnPhase.fromSummary summary log)
  have hread := TurnPhase.leads_reading newSetup summary false log log
  have hlist := TurnPhase.leads_listing newSetup summary false log
  exact ⟨u, _, hu, .head (.new hlist) (.head (.new hread) (.single (.new hprompt)))⟩

/-- The new turn comes to save an answer with a call, and goes on with its stream. -/
theorem exists_asking (oldSetup newSetup : TurnSetup) (summary : Option String)
    (log : List Message) (old : Option TurnPhase) :
    ∃ before x history m told, x.asks ∧ Message.Alike x m ∧
      Reaches oldSetup newSetup summary ⟨log, old, some .listing, []⟩
        ⟨before ++ [x], old, some (.streaming history m), told⟩ := by
  obtain ⟨u, history, -, hprompted⟩ := exists_prompted oldSetup newSetup summary log old
  obtain ⟨m, hrole, -, hfresh, hanswer⟩ := TurnPhase.leads_answering newSetup summary false
    (log ++ [u]) history
  let m' := (m.finishThinking default).addToolCall default briefCall
  have hround : TurnPhase.Leads newSetup summary false (log ++ [u]) (.round history) (log ++ [u])
      (.next (.answering history)) := ⟨default, false, ⟨by simp, rfl⟩, rfl⟩
  have hopen : TurnPhase.Leads newSetup summary false (log ++ [u] ++ [m]) (.opening history m)
      (log ++ [u] ++ [m]) (.next (.streaming history m)) := ⟨default, .opened, ⟨by simp, rfl⟩, rfl⟩
  have hevent : TurnPhase.Leads newSetup summary false (log ++ [u] ++ [m]) (.streaming history m)
      (log ++ [u] ++ [m]) (.next (.saving history m' none)) :=
    ⟨default, .event (.toolStart briefCall), ⟨by simp, rfl⟩, rfl⟩
  have hsaved : rewrite (m'.savedAt default) (log ++ [u] ++ [m]) =
      log ++ [u] ++ [m'.savedAt default] := by
    have hother : rewrite (m'.savedAt default) (log ++ [u]) = log ++ [u] := rewrite_of_ne hfresh
    have hlast : rewrite (m'.savedAt default) [m] = [m'.savedAt default] := rewrite_singleton rfl
    rw [rewrite_append, hother, hlast]
  have hsave : TurnPhase.Leads newSetup summary false (log ++ [u] ++ [m]) (.saving history m' none)
      (log ++ [u] ++ [m'.savedAt default]) (.next (.streaming history m')) :=
    ⟨default, .ok (), ⟨rfl, default, hsaved.symm⟩, rfl⟩
  exact ⟨log ++ [u], m'.savedAt default, history, m', _,
    ⟨hrole, Message.toolCalls_addToolCall_ne_nil default briefCall _⟩,
    (m'.alike_savedAt default).symm,
    ((((hprompted.tail (.new hround)).tail (.new hanswer)).tail (.new hopen)).tail
      (.new hevent)).tail (.new hsave)⟩

/-- The old turn can put a message that is no answer behind the transcript. -/
def Intrudes (oldSetup newSetup : TurnSetup) (summary : Option String) (log : List Message)
    (new : Option TurnPhase) (told : List (List Message)) (p : TurnPhase) : Prop :=
  ∃ c p', c.role ≠ .tool ∧ p'.Coherent ∧ (∀ x ∈ log, p'.Keeps x.id) ∧
    Reaches oldSetup newSetup summary ⟨log, some p, new, told⟩ ⟨log ++ [c], some p', new, told⟩

/-- A turn that creates messages does so. -/
theorem intrudes_of_creates (hp : p.Creates) :
    Intrudes oldSetup newSetup summary log new told p := by
  have hprompting : ∀ history,
      Intrudes oldSetup newSetup summary log new told (.prompting history) := by
    intro history
    obtain ⟨u, hu, hstep⟩ := TurnPhase.leads_prompting oldSetup summary true log history
    refine ⟨u, .round (history ++ [u]), by simp [hu], trivial, ?_, .single (.old hstep)⟩
    rintro x - m ⟨⟩
  have hreading : ∀ history,
      Intrudes oldSetup newSetup summary log new told (.reading history) := by
    intro history
    obtain ⟨c, p', hc, hp', hk, hrun⟩ := hprompting (TurnPhase.fromSummary summary history)
    have hstep := TurnPhase.leads_reading oldSetup summary true log history
    exact ⟨c, p', hc, hp', hk, .head (.old hstep) hrun⟩
  have hqueuing : ∀ history prompt rest,
      Intrudes oldSetup newSetup summary log new told (.queuing history prompt rest) := by
    intro history prompt rest
    obtain ⟨u, p', hu, hnone, hstep⟩ :=
      TurnPhase.leads_queuing oldSetup summary true log history prompt rest
    have hp : TurnPhase.Coherent (.queuing history prompt rest) := trivial
    exact ⟨u, p', by simp [hu], hstep.coherent hp,
      fun _ _ m hm => by simp [hnone] at hm, .single (.old hstep)⟩
  cases p with
  | listing =>
    obtain ⟨c, p', hc, hp', hk, hrun⟩ := hreading log
    have hstep := TurnPhase.leads_listing oldSetup summary true log
    exact ⟨c, p', hc, hp', hk, .head (.old hstep) hrun⟩
  | reading history => exact hreading history
  | prompting history => exact hprompting history
  | answering history =>
    obtain ⟨m, hrole, hcalls, hfresh, hstep⟩ :=
      TurnPhase.leads_answering oldSetup summary true log history
    refine ⟨m, .opening history m, by simp [hrole], ⟨hrole, hcalls⟩, fun x hx m' hm' hid => ?_,
      .single (.old hstep)⟩
    cases hm'
    exact absurd hid.symm (hfresh x hx)
  | draining history =>
    obtain ⟨c, p', hc, hp', hk, hrun⟩ := hqueuing history "x" []
    have hstep : TurnPhase.Leads oldSetup summary true log (.draining history) log
        (.next (.queuing history "x" [])) := ⟨default, ["x"], rfl, rfl⟩
    exact ⟨c, p', hc, hp', hk, .head (.old hstep) hrun⟩
  | queuing history prompt rest => exact hqueuing history prompt rest
  | _ => exact hp.elim

/-- A canceled turn with a message that asks is disturbed by the prompt of the new one. -/
theorem breaks_of_asks (before : List Message) {x : Message} (hasks : x.asks) (hp : p.Coherent)
    (hk : p.Keeps x.id) :
    ∃ o, Reaches oldSetup newSetup summary ⟨before ++ [x], some p, some .listing, []⟩ o ∧
      ¬ o.Serialized := by
  obtain ⟨u, history, hu, hprompted⟩ :=
    exists_prompted oldSetup newSetup summary (before ++ [x]) (some p)
  have hparted : Parted x.id (before ++ [x] ++ [u]) := .intro hasks (by simp [hu])
  have hround : TurnPhase.Coherent (.round history) := trivial
  obtain ⟨o, hrest, hbreaks⟩ :=
    breaks_of_parted hp hk hround (fun m hm => by cases hm) hparted
  exact ⟨o, hprompted.trans hrest, hbreaks⟩

/-- A canceled turn that creates a message disturbs the calls of the new one. -/
theorem breaks_of_creates (hp : p.Creates) :
    ∃ o, Reaches oldSetup newSetup summary ⟨log, some p, some .listing, []⟩ o ∧
      ¬ o.Serialized := by
  obtain ⟨before, x, history, m, told, hasks, halike, hasking⟩ :=
    exists_asking oldSetup newSetup summary log (some p)
  obtain ⟨c, p', hc, hp', hk, hcreated⟩ : Intrudes oldSetup newSetup summary (before ++ [x])
    (some (.streaming history m)) told p := intrudes_of_creates hp
  have hparted : Parted x.id (before ++ [x] ++ [c]) := .intro hasks hc
  obtain ⟨hrole, hcalls⟩ := halike.asks_iff.mp hasks
  have hstreaming : TurnPhase.Coherent (.streaming history m) := hrole
  have hkeeps : TurnPhase.Keeps x.id (.streaming history m) := by
    rintro _ ⟨⟩ -
    exact hcalls
  obtain ⟨o, hrest, hbreaks⟩ := breaks_of_parted hp' (hk x (by simp)) hstreaming hkeeps hparted
  exact ⟨o, (hasking.trans hcreated).trans hrest, hbreaks⟩

/-- **A turn that is not quiet can break the order**, if its session goes on without it. -/
theorem breaks_of_not_quiet (hq : ¬ p.Quiet) (hp : p.Coherent) (hf : p.Fits log) :
    ∃ o, Reaches oldSetup newSetup summary ⟨log, some p, some .listing, []⟩ o ∧
      ¬ o.Serialized := by
  rcases TurnPhase.not_quiet_cases hq hp hf with
    hcreates | ⟨before, x, rfl, hasks, hk⟩ | ⟨history, m, tokens, rfl⟩
  · exact breaks_of_creates hcreates
  · exact breaks_of_asks before hasks hp hk
  · -- The message that is about to be saved has calls, which the transcript need not show yet.
    obtain ⟨before, x, rfl, -, hother, hx⟩ := hf
    have hsaved : rewrite (m.savedAt default) (before ++ [x]) = before ++ [m.savedAt default] := by
      have hbefore : rewrite (m.savedAt default) before = before := rewrite_of_ne hother
      have hlast : rewrite (m.savedAt default) [x] = [m.savedAt default] := rewrite_singleton hx.id
      rw [rewrite_append, hbefore, hlast]
    have hstep : ∃ p', TurnPhase.message? p' = some m ∧ TurnPhase.Leads oldSetup summary true
        (before ++ [x]) (.saving history m tokens) (before ++ [m.savedAt default]) (.next p') := by
      cases tokens with
      | none =>
        exact ⟨.streaming history m, rfl, default, .ok (), ⟨rfl, default, hsaved.symm⟩, rfl⟩
      | some t =>
        exact ⟨.accounting history m t, rfl, default, .ok (), ⟨rfl, default, hsaved.symm⟩, rfl⟩
    obtain ⟨p', hm, hstep⟩ := hstep
    have hasks : (m.savedAt default).asks := ⟨hp, hq⟩
    have hkeeps : p'.Keeps (m.savedAt default).id := by
      rintro m' hm' -
      exact Option.some.inj (hm.symm.trans hm') ▸ hq
    obtain ⟨o, hrest, hbreaks⟩ := breaks_of_asks before hasks (hstep.coherent hp) hkeeps
    exact ⟨o, .head (.old hstep) hrest, hbreaks⟩

end Overlap

/-- **When a session stays serialized across cancel and restart.** A turn of a session is canceled
in some phase, and a new turn begins. Whatever both do from here on in whatever order, the promise
holds, exactly if the canceled turn was quiet in that phase. -/
theorem serialized_iff_quiet {session : String} {summary : Option String} {log : List Message}
    {oldSetup : TurnSetup} {p : TurnPhase}
    (h : Conversation session summary log (some (oldSetup, p))) (newSetup : TurnSetup) :
    (∀ o, Overlap.Reaches oldSetup newSetup summary ⟨log, some p, some .listing, []⟩ o →
      o.Serialized) ↔ p.Quiet := by
  obtain ⟨hp, hf⟩ := h.fits
  constructor
  · intro hall
    by_contra hq
    obtain ⟨o, hrun, hbreaks⟩ := Overlap.breaks_of_not_quiet hq hp hf
    exact hbreaks (hall o hrun)
  · intro hq o hrun
    have hsafe := (Overlap.Safe.begin hq hp hf).reaches hrun
    refine ⟨hsafe.first, fun hold hnew => ?_⟩
    exact (hsafe.paired hnew).answered

/-- A turn that is canceled when its answer has begun to make a call is not quiet: the session goes
on without the result of the call. -/
theorem exists_restart_not_serialized :
    ∃ log p, Conversation "s" none log (some (briefTurn, p)) ∧
      ¬ ∀ o, Overlap.Reaches briefTurn briefTurn none ⟨log, some p, some .listing, []⟩ o →
        o.Serialized := by
  have h : Conversation "s" none [] (some (briefTurn, .listing)) := .begins briefTurn rfl .fresh
  have h := h.goesOn ⟨default, .ok [], ⟨rfl, rfl⟩, rfl⟩
  have h := h.goesOn ⟨default, .ok default, ⟨⟨default, rfl, rfl⟩, rfl⟩, rfl⟩
  have h := h.goesOn ⟨default, _, ⟨"s#1", default, by simp, rfl, rfl⟩, rfl⟩
  have h := h.goesOn ⟨default, false, ⟨by simp, rfl⟩, rfl⟩
  have h := h.goesOn ⟨default, _, ⟨"s#2", default, by decide, rfl, rfl⟩, rfl⟩
  have h := h.goesOn ⟨default, .opened, ⟨by simp, rfl⟩, rfl⟩
  have h := h.goesOn ⟨default, .event (.toolStart briefCall), ⟨by simp, rfl⟩, rfl⟩
  have h := h.goesOn ⟨default, .ok (), ⟨rfl, default, rfl⟩, rfl⟩
  refine ⟨_, _, h, fun hall => ?_⟩
  have hquiet := (serialized_iff_quiet h briefTurn).mp hall
  exact Message.toolCalls_addToolCall_ne_nil default briefCall _ hquiet

end AgentDesk
