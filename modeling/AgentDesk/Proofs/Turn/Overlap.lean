import AgentDesk.Proofs.Turn.Requests
import Mathlib.Logic.Relation
/-!
# Two turns on one transcript

Canceling a turn takes its session out of the tracker at once, so that the next prompt starts a new
turn while the canceled one still has steps to make. The steps of both then go to one transcript in
any order. A canceled turn that is quiet has nothing left but to save versions of its message: it
disturbs nobody, and the new turn fares as if it was alone.

## Main definitions

* `Overlap`, `Overlap.Step` — the two turns and their steps.
* `TurnPhase.Quiet` — a canceled turn that has nothing left to record.
* `Answered` — every call has its results right behind it.
-/

namespace AgentDesk

/-- Every message that asks is directly followed by its answer. -/
structure Answered (ms : List Message) : Prop where
  chain : ms.IsChain fun m t => m.asks → t.answers m
  last : ∀ m ∈ ms.getLast?, ¬ m.asks

theorem Paired.answered {ms : List Message} (h : Paired ms) : Answered ms :=
  ⟨h.chain.imp fun _ _ hmt => hmt.1, h.last⟩

namespace Answered

variable {ms : List Message}

/-- A prompt may follow. -/
theorem append_user (h : Answered ms) {u : Message} (hu : u.role = .user) :
    Answered (ms ++ [u]) := by
  refine ⟨List.isChain_append.mpr ⟨h.chain, .singleton u, fun m hm _ _ hasks =>
    absurd hasks (h.last m hm)⟩, ?_⟩
  simp [Message.asks, hu]

/-- The message that summarizes what came before it is spoken by the user, and asks no more. -/
theorem fromSummary (h : Answered ms) (summary : Option String) :
    Answered (TurnPhase.fromSummary summary ms) := by
  unfold TurnPhase.fromSummary
  split
  · exact h
  · rename_i id
    split
    · exact h
    · rename_i m rest hrest
      have hsuffix : m :: rest <:+ ms := hrest ▸ List.dropWhile_suffix _
      obtain ⟨before, rfl⟩ := hsuffix
      obtain ⟨-, hchain, -⟩ := List.isChain_append.mp h.chain
      have hnot : ¬ Message.asks { m with role := .user } := by simp [Message.asks]
      refine ⟨List.isChain_cons.mpr ⟨fun _ _ hasks => absurd hasks hnot,
        (List.isChain_cons.mp hchain).2⟩, ?_⟩
      cases rest with
      | nil => simpa using hnot
      | cons x rest => simpa using h.last

end Answered

namespace TurnPhase

variable {setup : TurnSetup} {summary : Option String} {canceled : Bool} {now : Timestamp}
  {log log' : List Message} {m : Message}

/-- Whether a turn that was canceled has nothing left to record: it creates no message any more, and
the message that it may still save has no calls without results. -/
def Quiet : TurnPhase → Prop
  | .round _ | .opening _ _ | .taking _ _ | .closing _ => True
  | .streaming _ m | .saving _ m _ | .accounting _ m _ | .charging _ m _ => m.toolCalls = []
  | .failing _ calls _ => calls = []
  | _ => False

/-- The messages of the request that a turn makes of its provider. -/
def asked : TurnPhase → List (List Message)
  | .opening history _ => [history]
  | _ => []

/-- The messages of the first request, as far as a turn has come on its way to it. -/
def Heading : TurnPhase → Prop
  | .listing => True
  | .reading history | .prompting history | .round history | .answering history
  | .opening history _ => Answered history
  | _ => False

end TurnPhase

/-- Where a step leads, if the turn goes on. -/
def TurnProgress.phase? : TurnProgress → Option TurnPhase
  | .next p => some p
  | .stop _ => none

/-- Two turns on the transcript of one session, the old one canceled and the new one started after
it. A turn that is over has no phase. The messages of the requests of the new turn are kept. -/
structure Overlap where
  log : List Message
  old : Option TurnPhase
  new : Option TurnPhase
  told : List (List Message)

/-- A step of either turn. -/
inductive Overlap.Step (oldSetup newSetup : TurnSetup) (summary : Option String) :
    Overlap → Overlap → Prop where
  | old {log log' : List Message} {p : TurnPhase} {progress : TurnProgress}
    {new : Option TurnPhase} {told : List (List Message)} :
    p.Leads oldSetup summary true log log' progress →
    Step oldSetup newSetup summary ⟨log, some p, new, told⟩ ⟨log', progress.phase?, new, told⟩
  | new {log log' : List Message} {p : TurnPhase} {progress : TurnProgress}
    {old : Option TurnPhase} {told : List (List Message)} :
    p.Leads newSetup summary false log log' progress →
    Step oldSetup newSetup summary ⟨log, old, some p, told⟩
      ⟨log', old, progress.phase?, told ++ p.asked⟩

/-- What both turns may do one after another. -/
abbrev Overlap.Reaches (oldSetup newSetup : TurnSetup) (summary : Option String) :
    Overlap → Overlap → Prop :=
  Relation.ReflTransGen (Overlap.Step oldSetup newSetup summary)

/-! ## Versions of a transcript -/

/-- A transcript in which each message may have become a version like it. -/
def Reworded (before after : List Message) : Prop :=
  ∃ f : Message → Message, after = before.map f ∧ ∀ x ∈ before, Message.Alike x (f x)

namespace Reworded

variable {log log' : List Message} {m : Message}

theorem refl (log : List Message) : Reworded log log :=
  ⟨id, by simp, fun x _ => Message.Alike.refl x⟩

theorem save (h : Settled log m) (now : Timestamp) :
    Reworded log (rewrite (m.savedAt now) log) := by
  refine ⟨_, rfl, fun x hx => ?_⟩
  by_cases hid : x.id = m.id
  · simpa [Message.savedAt, hid] using (h.alike x hx hid).trans (m.alike_savedAt now)
  · simpa [Message.savedAt, hid] using Message.Alike.refl x

theorem paired (h : Reworded log log') (hp : Paired log) : Paired log' := by
  obtain ⟨f, rfl, halike⟩ := h
  exact hp.map halike

theorem settled (h : Reworded log log') (hs : Settled log m) : Settled log' m := by
  obtain ⟨f, rfl, halike⟩ := h
  obtain ⟨x, hx, hid⟩ := hs.found
  refine ⟨⟨f x, List.mem_map_of_mem hx, (halike x hx).id.symm.trans hid⟩, fun y hy hyid => ?_⟩
  obtain ⟨z, hz, rfl⟩ := List.mem_map.mp hy
  exact (halike z hz).symm.trans (hs.alike z hz ((halike z hz).id.trans hyid))

theorem current {V : Message → Message → Prop} (h : Reworded log log') (hc : Current V log m)
    (hV : ∀ x y, Message.Alike x y → V x m → V y m) : Current V log' m := by
  obtain ⟨f, rfl, halike⟩ := h
  obtain ⟨before, x, rfl, hpaired, hother, hx⟩ := hc
  have hbefore : ∀ y ∈ before, Message.Alike y (f y) := fun y hy => halike y (by simp [hy])
  refine ⟨before.map f, f x, by simp, hpaired.map hbefore, fun y hy => ?_,
    hV x (f x) (halike x (by simp)) hx⟩
  obtain ⟨z, hz, rfl⟩ := List.mem_map.mp hy
  exact (hbefore z hz).id ▸ hother z hz

/-- A turn does not notice that messages were replaced by versions like them. -/
theorem fits (h : Reworded log log') {p : TurnPhase} (hf : p.Fits log) : p.Fits log' := by
  have halike : ∀ {m}, Current Message.Alike log m → Current Message.Alike log' m :=
    fun hc => h.current hc fun x y hxy hx => hxy.symm.trans hx
  cases p with
  | opening | streaming | accounting | charging | dispatching | awaiting | stopping | recording
  | failing => exact halike hf
  | saving history m tokens =>
    exact h.current hf fun x y hxy hx =>
      ⟨hxy.id.symm.trans hx.id, hxy.role.symm.trans hx.role,
        fun hne => hx.calls (hxy.symm.precursor.calls hne)⟩
  | excusing calls cause =>
    obtain ⟨m, hm, hasks⟩ := hf
    exact ⟨m, halike hm, hasks⟩
  | closing m => exact ⟨h.settled hf.toSettled, h.paired hf.paired⟩
  | listing | reading | prompting | round | answering | draining | taking | queuing =>
    exact h.paired hf

end Reworded

/-! ## A quiet turn -/

namespace TurnPhase

variable {setup : TurnSetup} {summary : Option String} {canceled : Bool} {now : Timestamp}
  {log log' : List Message} {m : Message} {p : TurnPhase}

/-- The message of a quiet turn is settled. -/
theorem Quiet.settled (hq : p.Quiet) (hp : p.Coherent) (hf : p.Fits log) :
    Paired log ∧ ∀ m, p.message? = some m → Settled log m := by
  have hcurrent : ∀ {m}, Current Message.Alike log m → m.role = .assistant → m.toolCalls = [] →
      Paired log ∧ ∀ m', some m = some m' → Settled log m' := by
    rintro m hc hrole hcalls
    have hfiled := hc.filed hrole hcalls
    exact ⟨hfiled.paired, fun m' hm' => Option.some.inj hm' ▸ hfiled.toSettled⟩
  cases p with
  | round | taking => exact ⟨hf, fun _ h => by cases h⟩
  | opening history m => exact hcurrent hf hp.1 hp.2
  | streaming history m | accounting history m tokens | charging history m session =>
    exact hcurrent hf hp hq
  | saving history m tokens =>
    refine hcurrent (hf.imp rfl fun x hx => ⟨hx.id, hx.role, ?_, ?_⟩) hp hq
    · have hnone : x.toolCalls = [] := by_contra fun hne => hx.calls hne hq
      rw [Message.callIds_eq_nil.mpr hnone, Message.callIds_eq_nil.mpr hq]
    · intro htool
      rw [hx.role, hp] at htool
      cases htool
  | failing m calls cause =>
    refine hcurrent hf hp.1 ?_
    have hids := hp.2
    rw [show calls = [] from hq] at hids
    exact Message.callIds_eq_nil.mp hids.symm
  | closing m => exact ⟨hf.paired, fun m' hm' => Option.some.inj hm' ▸ hf.toSettled⟩
  | listing | reading | prompting | answering | dispatching | awaiting | stopping | recording
  | draining | queuing | excusing => exact hq.elim

/-- The next phase of a quiet turn: it is quiet as well, and works on the same message. -/
def Hushed (log : List Message) (m : Message) (p : TurnPhase) : Prop :=
  p.Quiet ∧ ∀ m', p.message? = some m' → m'.id = m.id ∧ Settled log m'

theorem hushed_abort (hs : Settled log m) (hcalls : m.toolCalls = []) (cause : TurnFailure) :
    Hushed log m (abort now m cause) := by
  obtain ⟨m', heq, halike⟩ := abort_eq now m cause
  rw [heq]
  refine ⟨hcalls, fun m'' hm'' => ?_⟩
  cases hm''
  exact ⟨halike.id.symm, hs.trans halike⟩

/-- **A quiet turn that was canceled stays quiet**, and does no more to the transcript than to
replace its message by a version like it. -/
theorem Quiet.leads {progress : TurnProgress} (hq : p.Quiet)
    (hm : ∀ m, p.message? = some m → Settled log m)
    (h : p.Leads setup summary true log log' progress) :
    Reworded log log' ∧ ∀ p', progress = .next p' →
      ∃ m, p.message? = some m ∧ Hushed log' m p' := by
  obtain ⟨now, reply, hs, rfl⟩ := h
  cases p with
  | round history =>
    obtain ⟨hreply, rfl⟩ := hs
    rw [hreply rfl]
    exact ⟨.refl _, by simp [resume]⟩
  | opening history m =>
    obtain ⟨hreply, rfl⟩ := hs
    rw [hreply rfl]
    refine ⟨.refl _, ?_⟩
    rintro p' ⟨⟩
    refine ⟨m, rfl, rfl, fun m' hm' => ?_⟩
    cases hm'
    have halike := alike_closeFor now .canceled m
    exact ⟨halike.id.symm, (hm m rfl).trans halike⟩
  | streaming history m =>
    obtain ⟨hreply, rfl⟩ := hs
    rw [hreply rfl]
    refine ⟨.refl _, ?_⟩
    rintro p' ⟨⟩
    exact ⟨m, rfl, hushed_abort (hm m rfl) hq .canceled⟩
  | saving history m tokens =>
    obtain ⟨rfl, now', rfl⟩ := hs
    have hword := Reworded.save (hm m rfl) now'
    have hsettled := hword.settled (hm m rfl)
    refine ⟨hword, fun p' hp' => ⟨m, rfl, ?_⟩⟩
    simp only [resume] at hp'
    split at hp' <;> cases hp' <;>
      exact ⟨hq, fun m' hm' => by cases hm'; exact ⟨rfl, hsettled⟩⟩
  | accounting history m tokens =>
    obtain ⟨⟨s, rfl, -⟩, rfl⟩ := hs
    refine ⟨.refl _, ?_⟩
    rintro p' ⟨⟩
    exact ⟨m, rfl, hq, fun m' hm' => by cases hm'; exact ⟨rfl, hm m rfl⟩⟩
  | charging history m session =>
    obtain ⟨⟨s, rfl⟩, rfl⟩ := hs
    refine ⟨.refl _, ?_⟩
    rintro p' ⟨⟩
    exact ⟨m, rfl, hq, fun m' hm' => by cases hm'; exact ⟨rfl, hm m rfl⟩⟩
  | taking history m =>
    obtain ⟨hreply, rfl⟩ := hs
    rw [hreply rfl]
    exact ⟨.refl _, by simp [resume]⟩
  | failing m calls cause =>
    obtain ⟨rfl, now', rfl⟩ := hs
    refine ⟨.save (hm m rfl) now', ?_⟩
    simp [resume, show calls = [] from hq]
  | closing m =>
    obtain ⟨rfl, now', rfl⟩ := hs
    exact ⟨.save (hm m rfl) now', by simp [resume]⟩
  | listing | reading | prompting | answering | dispatching | awaiting | stopping | recording
  | draining | queuing | excusing => exact hq.elim

/-! ## The turn beside it -/

/-- What a step of a turn can do to the transcript. -/
theorem Leads.log_cases {progress : TurnProgress}
    (h : p.Leads setup summary canceled log log' progress) :
    log' = log ∨
    (∃ m now, p.message? = some m ∧ log' = rewrite (m.savedAt now) log) ∨
    (∃ x, log' = log ++ [x] ∧ ∀ y ∈ log, y.id ≠ x.id) := by
  obtain ⟨now, reply, hs, -⟩ := h
  cases p with
  | prompting | answering | recording | queuing | excusing =>
    obtain ⟨id, now', hfresh, -, rfl⟩ := hs
    exact .inr (.inr ⟨_, rfl, hfresh⟩)
  | saving | stopping | failing | closing =>
    obtain ⟨-, now', rfl⟩ := hs
    exact .inr (.inl ⟨_, now', rfl, rfl⟩)
  | draining => exact .inl hs
  | listing | reading | round | opening | streaming | accounting | charging | dispatching
  | awaiting | taking => exact .inl hs.2

theorem message?_afterRound {history : List Message} {tools : Option Message} {m m' : Message}
    {p : TurnPhase} (h : afterRound now history m tools = .next p) (hm' : p.message? = some m') :
    Message.Alike m m' := by
  rcases afterRound_eq_next h with ⟨t, -, rfl⟩ | ⟨-, rfl⟩ | ⟨-, rfl⟩ <;> cases hm'
  exact Message.alike_addFinish ..

/-- A turn goes on with a version of the message that it had, or with one that it just created. -/
theorem Leads.message_cases {p' : TurnPhase} {m' : Message}
    (h : p.Leads setup summary canceled log log' (.next p')) (hm' : p'.message? = some m') :
    (∃ m, p.message? = some m ∧ Message.Precursor m m') ∨ ∀ y ∈ log, y.id ≠ m'.id := by
  obtain ⟨now, reply, hs, hnext⟩ := h
  have habort : ∀ m cause, abort now m cause = p' → Message.Precursor m m' := by
    intro m cause heq
    obtain ⟨m'', heq', halike⟩ := abort_eq now m cause
    rw [heq'] at heq
    subst heq
    cases hm'
    exact halike.precursor
  have hcall : ∀ history m results rest, nextCall history m results rest = p' →
      Message.Precursor m m' := by
    rintro history m results (_ | _) rfl <;> cases hm' <;> exact (Message.Alike.refl _).precursor
  have hrecord : ∀ history prompts, record history prompts ≠ p' := by
    rintro history prompts rfl
    rcases record_cases history prompts with ⟨heq, -⟩ | ⟨q, rest, heq⟩ <;> rw [heq] at hm' <;>
      cases hm'
  cases p with
  | listing | reading | prompting | queuing =>
    simp only [resume, storeFailed] at hnext
    split at hnext <;> try split at hnext
    all_goals cases hnext <;> cases hm'
  | round =>
    simp only [resume] at hnext
    split at hnext <;> cases hnext
    cases hm'
  | answering history =>
    obtain ⟨id, now', hfresh, rfl, rfl⟩ := hs
    cases hnext
    cases hm'
    exact .inr hfresh
  | opening history m =>
    simp only [resume] at hnext
    split at hnext <;> cases hnext <;> cases hm'
    · exact .inl ⟨_, rfl, (alike_closeFor ..).precursor⟩
    · exact .inl ⟨_, rfl, (alike_closeFor ..).precursor⟩
    · exact .inl ⟨_, rfl, (Message.Alike.refl _).precursor⟩
  | streaming history m =>
    refine .inl ⟨m, rfl, ?_⟩
    simp only [resume] at hnext
    split at hnext
    · exact habort m _ (TurnProgress.next.inj hnext)
    · unfold afterStream at hnext
      split at hnext
      · exact (message?_afterRound hnext hm').precursor
      · cases hnext
        cases hm'
        exact (Message.Alike.refl _).precursor
    · split at hnext
      · rename_i he
        cases hnext
        cases hm'
        obtain ⟨hid, hrole, hcalls⟩ := applyEvent_keeps he
        exact ⟨hid.symm, hrole.symm, hcalls⟩
      · exact habort m _ (TurnProgress.next.inj hnext)
  | saving history m tokens =>
    refine .inl ⟨m, rfl, ?_⟩
    simp only [resume] at hnext
    split at hnext
    · exact habort m _ (TurnProgress.next.inj hnext)
    · split at hnext <;> cases hnext <;> cases hm' <;> exact (Message.Alike.refl _).precursor
  | accounting history m tokens | charging history m session =>
    refine .inl ⟨m, rfl, ?_⟩
    simp only [resume] at hnext
    split at hnext
    · exact habort m _ (TurnProgress.next.inj hnext)
    · cases hnext
      cases hm'
      exact (Message.Alike.refl _).precursor
  | dispatching history m results call rest =>
    refine .inl ⟨m, rfl, ?_⟩
    simp only [resume] at hnext
    split at hnext
    · cases hnext
      cases hm'
      exact (Message.alike_addFinish ..).precursor
    · exact hcall _ _ _ _ (TurnProgress.next.inj hnext)
    · cases hnext
      cases hm'
      exact (Message.Alike.refl _).precursor
  | awaiting history m results call rest =>
    refine .inl ⟨m, rfl, ?_⟩
    simp only [resume] at hnext
    split at hnext
    · cases hnext
      cases hm'
      exact (Message.alike_addFinish ..).precursor
    · exact hcall _ _ _ _ (TurnProgress.next.inj hnext)
    · cases hnext
      cases hm'
      exact (Message.alike_addFinish ..).precursor
    · exact hcall _ _ _ _ (TurnProgress.next.inj hnext)
  | stopping history m results =>
    cases hnext
    cases hm'
    exact .inl ⟨_, rfl, (Message.Alike.refl _).precursor⟩
  | recording history m results =>
    simp only [resume, storeFailed] at hnext
    split at hnext
    · cases hnext
    · exact .inl ⟨m, rfl, (message?_afterRound hnext hm').precursor⟩
  | draining history => exact absurd (TurnProgress.next.inj hnext) (hrecord _ _)
  | taking history m =>
    simp only [resume] at hnext
    split at hnext
    · cases hnext
    · split at hnext
      · cases hnext
        cases hm'
      · exact absurd (TurnProgress.next.inj hnext) (hrecord _ _)
  | failing m calls cause =>
    simp only [resume] at hnext
    split at hnext <;> cases hnext
    cases hm'
  | excusing calls cause => cases hnext
  | closing m => cases hnext

/-- On its way to the first request a turn has no more in mind than what may stand in it. -/
theorem Leads.heading {p' : TurnPhase} (hh : p.Heading) (hf : p.Fits log)
    (h : p.Leads setup summary canceled log log' (.next p')) : p'.Heading ∨ p.asked ≠ [] := by
  obtain ⟨now, reply, hs, hnext⟩ := h
  cases p with
  | listing =>
    obtain ⟨rfl, rfl⟩ := hs
    cases hnext
    exact .inl (Paired.answered hf)
  | reading history =>
    obtain ⟨⟨s, rfl, -⟩, -⟩ := hs
    cases hnext
    exact .inl (Answered.fromSummary hh s.summary)
  | prompting history =>
    obtain ⟨id, now', -, rfl, -⟩ := hs
    cases hnext
    exact .inl (Answered.append_user hh rfl)
  | round history =>
    simp only [resume] at hnext
    split at hnext <;> cases hnext
    exact .inl hh
  | answering history =>
    obtain ⟨id, now', -, rfl, -⟩ := hs
    cases hnext
    exact .inl hh
  | opening history m => exact .inr (by simp [asked])
  | streaming | saving | accounting | charging | dispatching | awaiting | stopping | recording
  | draining | taking | queuing | failing | excusing | closing => exact hh.elim

end TurnPhase

/-- Saving another message does not touch a settled one. -/
theorem Settled.save_other {log : List Message} {m m' : Message} (h : Settled log m)
    (hne : m.id ≠ m'.id) (now : Timestamp) : Settled (rewrite (m'.savedAt now) log) m := by
  have hkeep : ∀ x : Message, x.id = m.id → x.id ≠ (m'.savedAt now).id := fun x hx =>
    hx ▸ hne
  refine ⟨?_, fun y hy hid => ?_⟩
  · obtain ⟨x, hx, hid⟩ := h.found
    exact ⟨x, List.mem_map.mpr ⟨x, hx, by simp [hkeep x hid]⟩, hid⟩
  · obtain ⟨x, hx, rfl⟩ := List.mem_map.mp hy
    by_cases hxid : x.id = (m'.savedAt now).id
    · simp only [hxid, beq_self_eq_true, if_true] at hid
      exact absurd hid (Ne.symm hne)
    · simp only [beq_eq_false_iff_ne.mpr hxid, Bool.false_eq_true, if_false] at hid ⊢
      exact h.alike x hx hid

/-- Neither does a message that is created. -/
theorem Settled.append_fresh {log : List Message} {m t : Message} (h : Settled log m)
    (hfresh : ∀ y ∈ log, y.id ≠ t.id) : Settled (log ++ [t]) m := by
  obtain ⟨x, hx, hid⟩ := h.found
  refine ⟨⟨x, by simp [hx], hid⟩, fun y hy hyid => ?_⟩
  rcases List.mem_append.mp hy with hy | hy
  · exact h.alike y hy hyid
  · obtain rfl := List.mem_singleton.mp hy
    exact absurd (hid.trans hyid.symm) (hfresh x hx)

/-! ## Both turns -/

/-- What holds while a quiet turn and the one after it are under way. -/
structure Overlap.Safe (o : Overlap) : Prop where
  quiet : ∀ p, o.old = some p → p.Quiet ∧ ∀ m, p.message? = some m → Settled o.log m
  fits : ∀ q, o.new = some q → q.Coherent ∧ q.Fits o.log
  paired : o.new = none → Paired o.log
  apart : ∀ p m q m', o.old = some p → p.message? = some m → o.new = some q →
    q.message? = some m' → m.id ≠ m'.id
  heading : o.told = [] → ∀ q, o.new = some q → q.Heading
  first : ∀ h ∈ o.told.head?, Answered h

namespace Overlap.Safe

variable {oldSetup newSetup : TurnSetup} {summary : Option String} {o o' : Overlap}

theorem begin {log : List Message} {p : TurnPhase} (hq : p.Quiet) (hp : p.Coherent)
    (hf : p.Fits log) : Safe ⟨log, some p, some .listing, []⟩ := by
  obtain ⟨hpaired, hsettled⟩ := hq.settled hp hf
  refine ⟨?_, ?_, ?_, ?_, ?_, ?_⟩
  · rintro _ ⟨⟩
    exact ⟨hq, hsettled⟩
  · rintro _ ⟨⟩
    exact ⟨trivial, hpaired⟩
  · simp
  · rintro _ m _ m' ⟨⟩ - ⟨⟩ ⟨⟩
  · rintro - _ ⟨⟩
    trivial
  · simp

/-- A step of the old turn. -/
theorem old {log log' : List Message} {p : TurnPhase} {progress : TurnProgress}
    {new : Option TurnPhase} {told : List (List Message)} (h : Safe ⟨log, some p, new, told⟩)
    (hstep : p.Leads oldSetup summary true log log' progress) :
    Safe ⟨log', progress.phase?, new, told⟩ := by
  obtain ⟨hq, hsettled⟩ := h.quiet p rfl
  obtain ⟨hword, hnext⟩ := hq.leads hsettled hstep
  have hphase : ∀ p', progress.phase? = some p' → progress = .next p' := by
    rintro p' hp'
    cases progress <;> cases hp'
    rfl
  refine ⟨fun p' hp' => ?_, fun q hq' => ⟨(h.fits q hq').1, hword.fits (h.fits q hq').2⟩,
    fun hnew => hword.paired (h.paired hnew), fun p' m' q mq hp' hm' hq' hmq => ?_,
    h.heading, h.first⟩
  · obtain ⟨m, -, hquiet', hm'⟩ := hnext p' (hphase p' hp')
    exact ⟨hquiet', fun m' h' => (hm' m' h').2⟩
  · obtain ⟨m, hm, -, hids⟩ := hnext p' (hphase p' hp')
    rw [(hids m' hm').1]
    exact h.apart p m q mq rfl hm hq' hmq

/-- A step of the new turn. -/
theorem new {log log' : List Message} {p : TurnPhase} {progress : TurnProgress}
    {old : Option TurnPhase} {told : List (List Message)} (h : Safe ⟨log, old, some p, told⟩)
    (hstep : p.Leads newSetup summary false log log' progress) :
    Safe ⟨log', old, progress.phase?, told ++ p.asked⟩ := by
  obtain ⟨hp, hf⟩ := h.fits p rfl
  refine ⟨fun po hpo => ⟨(h.quiet po hpo).1, fun m hm => ?_⟩, ?_, ?_, ?_, ?_, ?_⟩
  · have hsettled := (h.quiet po hpo).2 m hm
    rcases hstep.log_cases with rfl | ⟨m', now, hm', rfl⟩ | ⟨x, rfl, hfresh⟩
    · exact hsettled
    · exact hsettled.save_other (h.apart po m p m' hpo hm rfl hm') now
    · exact hsettled.append_fresh hfresh
  · intro q hq
    cases progress <;> cases hq
    exact ⟨hstep.coherent hp, hstep.fits hp hf⟩
  · intro hnone
    cases progress <;> cases hnone
    exact hstep.fits hp hf
  · intro po m q m' hpo hm hq hm'
    cases progress <;> cases hq
    rcases hstep.message_cases hm' with ⟨m'', hm'', hsame⟩ | hfresh
    · rw [← hsame.id]
      exact h.apart po m p m'' hpo hm rfl hm''
    · obtain ⟨x, hx, hid⟩ := ((h.quiet po hpo).2 m hm).found
      exact hid ▸ hfresh x hx
  · intro hnone q hq
    obtain ⟨htold, hasked⟩ := List.append_eq_nil_iff.mp hnone
    cases progress <;> cases hq
    exact (hstep.heading (h.heading htold p rfl) hf).resolve_right fun hne => hne hasked
  · intro history hhead
    cases told with
    | cons t told => exact h.first history hhead
    | nil =>
      have hheading := h.heading rfl p rfl
      cases p with
      | opening =>
        cases hhead
        exact hheading
      | _ => cases hhead

theorem step (h : o.Safe) (hstep : Overlap.Step oldSetup newSetup summary o o') : o'.Safe := by
  cases hstep with
  | old hstep => exact h.old hstep
  | new hstep => exact h.new hstep

theorem reaches (h : o.Safe) (hrun : Overlap.Reaches oldSetup newSetup summary o o') :
    o'.Safe := by
  induction hrun with
  | refl => exact h
  | tail _ hstep ih => exact ih.step hstep

end Overlap.Safe

end AgentDesk
