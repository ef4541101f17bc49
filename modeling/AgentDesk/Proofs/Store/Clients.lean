import AgentDesk.Proofs.Store.Plain
/-!
# Clients of a store

A client works through a script of calls. It saves only sessions that the store returned before, and
changes only messages that the store returned before or that were never stored; of a session it
changes the title, the counters, the summary and the cost, and of a message the parts, the model and
the provider. A store that answers every call that fits as the plain store does is, for such a
client, the plain store.

## Main definitions

* `ClientCall`, `SessionEdit`, `MessageEdit` — what a client asks for.
* `Client` and `Client.run` — a client, and what it sees of a store.
* `Lawful` — the scripts of a client.
* `Implements` — a store that answers as the plain store does.
-/

namespace AgentDesk

/-- The answers of a store. -/
abbrev Backend (σ : Type) := Timestamp → σ → StoreCall → StoreReply σ StoreAnswer

/-- What a client changes of a session. -/
structure SessionEdit where
  title : Option String := none
  promptTokens : Option Nat := none
  completionTokens : Option Nat := none
  summary : Option (Option String) := none
  cost : Option Float := none

/-- What a client changes of a message. -/
structure MessageEdit where
  parts : Option (List Part) := none
  model : Option (Option String) := none
  provider : Option (Option String) := none

/-- The session that a client saves. -/
def SessionEdit.apply (e : SessionEdit) (s : Session) : Session :=
  { s with
    title := e.title.getD s.title
    promptTokens := e.promptTokens.getD s.promptTokens
    completionTokens := e.completionTokens.getD s.completionTokens
    summary := e.summary.getD s.summary
    cost := e.cost.getD s.cost }

/-- The message that a client changes. -/
def MessageEdit.apply (e : MessageEdit) (m : Message) : Message :=
  { m with
    parts := e.parts.getD m.parts
    model := e.model.getD m.model
    provider := e.provider.getD m.provider }

/-- What a client asks for. A session or a message that was returned before is named by its place
among all that were. -/
inductive ClientCall where
  | createSession (id title : String)
  | openTask (callId parent title : String)
  | getSession (id : String)
  | saveSession (place : Nat) (edit : SessionEdit)
  | listSessions
  | createMessage (id session : String) (draft : Draft)
  | updateMessage (place : Nat) (edit : MessageEdit)
  | updateUnknown (message : Message)
  | getMessage (id : String)
  | listMessages (session : String)
  | deleteMessages (session : String)

/-- A client: its store, and the sessions and messages that the store returned. -/
structure Client (σ : Type) where
  store : σ
  sessions : List Session
  messages : List Message

namespace Client

/-- A client that has asked for nothing. -/
def new (store : σ) : Client σ := ⟨store, [], []⟩

/-- The call of the store that a client makes; `none` if nothing was returned at the place. -/
def request? (c : Client σ) : ClientCall → Option StoreCall
  | .createSession id title => some (.createSession id title)
  | .openTask callId parent title => some (.openTask callId parent title)
  | .getSession id => some (.getSession id)
  | .saveSession place edit => (c.sessions[place]?).map fun s => .saveSession (edit.apply s)
  | .listSessions => some .listSessions
  | .createMessage id session draft => some (.createMessage id session draft)
  | .updateMessage place edit => (c.messages[place]?).map fun m => .updateMessage (edit.apply m)
  | .updateUnknown message => some (.updateMessage message)
  | .getMessage id => some (.getMessage id)
  | .listMessages session => some (.listMessages session)
  | .deleteMessages session => some (.deleteMessages session)

/-- The client behind a reply. -/
def after (c : Client σ) (r : StoreReply σ StoreAnswer) : Client σ :=
  ⟨r.store, c.sessions ++ r.sessions, c.messages ++ r.messages⟩

/-- What a client sees of its store while it works through a script. -/
def run (backend : Backend σ) : Client σ → List (Timestamp × ClientCall) → List (Option Outcome)
  | _, [] => []
  | c, (now, call) :: script =>
    match c.request? call with
    | none => none :: run backend c script
    | some request =>
      let reply := backend now c.store request
      some reply.outcome :: run backend (c.after reply) script

end Client

/-! ## Scripts -/

/-- The session that a call may open or give a message to. -/
def ClientCall.opened : ClientCall → List String
  | .createSession id _ | .openTask id _ _ | .getSession id | .createMessage _ id _ => [id]
  | _ => []

/-- The message that a call creates. -/
def ClientCall.created : ClientCall → List String
  | .createMessage id _ _ => [id]
  | _ => []

/-- Counters that fit into signed words, and a cost that is a number. -/
structure SessionEdit.Countable (e : SessionEdit) : Prop where
  prompt : ∀ n ∈ e.promptTokens, n < 2 ^ 63
  completion : ∀ n ∈ e.completionTokens, n < 2 ^ 63
  cost : ∀ x ∈ e.cost, x.isNaN = false

/-- A call behind calls that named certain sessions and created certain messages: what is created
has an identifier of its own, and a message that is said to be unknown is. -/
def ClientCall.Fits (names ids : List String) : ClientCall → Prop
  | .createSession id _ => id ∉ names
  | .saveSession _ edit => edit.Countable
  | .createMessage id _ draft => id ∉ ids ∧ ∀ p ∈ draft.parts, p.Timed
  | .updateMessage _ edit => ∀ parts ∈ edit.parts, ∀ p ∈ parts, p.Timed
  | .updateUnknown message => message.id ∉ ids
  | _ => True

/-- A script behind calls that named certain sessions and created certain messages. -/
def Lawful (names ids : List String) : List (Timestamp × ClientCall) → Prop
  | [] => True
  | (now, call) :: script => now.FourDigit ∧ call.Fits names ids ∧
      Lawful (call.opened ++ names) (call.created ++ ids) script

/-! ## Calls that differ in times only -/

/-- A call, the times of what is handed in aside. -/
def StoreCall.plain : StoreCall → StoreCall
  | .saveSession s => .saveSession s.plain
  | .updateMessage m => .updateMessage m.plain
  | c => c

theorem SessionEdit.plain_apply (e : SessionEdit) (s : Session) : (e.apply s).plain =
    ({ e with cost := e.cost.map unsigned } : SessionEdit).apply s.plain := by
  cases e with
  | mk title promptTokens completionTokens summary cost => cases cost <;> rfl

theorem MessageEdit.plain_apply (e : MessageEdit) (m : Message) :
    (e.apply m).plain = e.apply m.plain := rfl

namespace PlainStore

variable {now : Timestamp} {s : PlainStore} {c c' : StoreCall}

theorem answer_plain (now : Timestamp) (s : PlainStore) (c : StoreCall) :
    s.answer now c.plain = s.answer now c := by
  cases c with
  | saveSession x =>
    have haccount : x.plain.account.plain = x.account.plain := x.account.plain_plain
    exact congrArg (s.keep now x.id) haccount
  | _ => rfl

theorem answer_congr (h : c.plain = c'.plain) : s.answer now c = s.answer now c' := by
  rw [← answer_plain now s c, h, answer_plain]

theorem fits_plain : s.Fits c.plain ↔ s.Fits c := by
  cases c with
  | saveSession x =>
    refine and_congr_right fun _ => ⟨fun h => ?_, Account.Countable.plain⟩
    exact ⟨h.prompt, h.completion, (isNaN_unsigned x.cost).symm.trans h.cost⟩
  | _ => exact Iff.rfl

theorem fits_congr (h : c.plain = c'.plain) : s.Fits c ↔ s.Fits c' := by
  rw [← fits_plain, h, fits_plain]

end PlainStore

/-! ## Clients of the plain store -/

namespace Client

variable {names ids : List String} {p : Client PlainStore} {call : ClientCall} {c : StoreCall}
  {now : Timestamp}

/-- What holds of a client of the plain store, behind calls that named certain sessions and created
certain messages: what was returned is still known, and what is kept was named or created. -/
structure Holds (names ids : List String) (p : Client PlainStore) : Prop where
  sound : p.store.Sound
  known : ∀ x ∈ p.sessions, p.store.Knows x ∧ x.account.Countable
  agreed : ∀ y ∈ p.messages, p.store.Agrees y ∧ (∀ q ∈ y.parts, q.Timed) ∧ y.id ∈ ids
  named : ∀ e ∈ p.store.sessions, e.1 ∈ names
  stored : ∀ m ∈ p.store.messages, m.id ∈ ids ∧ m.sessionId ∈ names

theorem holds_new : Holds [] [] (new .empty) :=
  ⟨PlainStore.sound_empty, by simp [new], by simp [new], by simp [new, PlainStore.empty],
    by simp [new, PlainStore.empty]⟩

theorem countable_apply {e : SessionEdit} {x : Session} (he : e.Countable)
    (hx : x.account.Countable) : (e.apply x).account.Countable := by
  obtain ⟨title, promptTokens, completionTokens, summary, cost⟩ := e
  obtain ⟨hprompt, hcompletion, hcost⟩ := he
  refine ⟨?_, ?_, ?_⟩
  · cases promptTokens with
    | none => exact hx.prompt
    | some n => exact hprompt n rfl
  · cases completionTokens with
    | none => exact hx.completion
    | some n => exact hcompletion n rfl
  · cases cost with
    | none => exact hx.cost
    | some c => exact hcost c rfl

/-- **The calls that a client makes are calls that stores agree on.** -/
theorem Holds.fits (h : Holds names ids p) (hcall : call.Fits names ids)
    (hrequest : p.request? call = some c) : p.store.Fits c := by
  cases call with
  | createSession id title =>
    cases hrequest
    refine ⟨Table.get?_eq_none_iff.mpr fun hkey => ?_,
      List.filter_eq_nil_iff.mpr fun m hm hid => ?_⟩
    · obtain ⟨e, he, rfl⟩ := List.mem_map.mp hkey
      exact hcall (h.named e he)
    · exact hcall (beq_iff_eq.mp hid ▸ (h.stored m hm).2)
  | saveSession place edit =>
    obtain ⟨x, hx, rfl⟩ := Option.map_eq_some_iff.mp hrequest
    obtain ⟨hknows, hcountable⟩ := h.known x (List.mem_of_getElem? hx)
    exact ⟨hknows, countable_apply hcall hcountable⟩
  | createMessage id session draft =>
    cases hrequest
    exact ⟨fun m hm hid => hcall.1 (hid ▸ (h.stored m hm).1), hcall.2⟩
  | updateMessage place edit =>
    obtain ⟨y, hy, rfl⟩ := Option.map_eq_some_iff.mp hrequest
    obtain ⟨hagrees, htimed, -⟩ := h.agreed y (List.mem_of_getElem? hy)
    refine ⟨hagrees, fun _ => ?_⟩
    cases hparts : edit.parts with
    | none => simpa [MessageEdit.apply, hparts] using htimed
    | some parts => simpa [MessageEdit.apply, hparts] using hcall parts hparts
  | updateUnknown message =>
    cases hrequest
    have hnew : ∀ m ∈ p.store.messages, m.id ≠ message.id :=
      fun m hm hid => hcall (hid ▸ (h.stored m hm).1)
    exact ⟨fun m hm hid => absurd hid (hnew m hm), fun ⟨m, hm, hid⟩ => absurd hid (hnew m hm)⟩
  | openTask | getSession | listSessions | getMessage | listMessages | deleteMessages =>
    cases hrequest
    trivial

theorem opened_request (hrequest : p.request? call = some c) : call.opened = c.opened := by
  cases call with
  | saveSession place edit =>
    obtain ⟨x, -, rfl⟩ := Option.map_eq_some_iff.mp hrequest
    rfl
  | updateMessage place edit =>
    obtain ⟨y, -, rfl⟩ := Option.map_eq_some_iff.mp hrequest
    rfl
  | _ => cases hrequest; rfl

theorem created_request (hrequest : p.request? call = some c) : call.created = c.created := by
  cases call with
  | saveSession place edit =>
    obtain ⟨x, -, rfl⟩ := Option.map_eq_some_iff.mp hrequest
    rfl
  | updateMessage place edit =>
    obtain ⟨y, -, rfl⟩ := Option.map_eq_some_iff.mp hrequest
    rfl
  | _ => cases hrequest; rfl

theorem created_fresh (hcall : call.Fits names ids) : ∀ id ∈ call.created, id ∉ ids := by
  cases call with
  | createMessage id session draft =>
    intro id' hid
    exact List.mem_singleton.mp hid ▸ hcall.1
  | _ => exact fun _ h => by cases h

/-- What holds of a client holds behind a call that it does not make. -/
theorem Holds.skip (h : Holds names ids p) (call : ClientCall) :
    Holds (call.opened ++ names) (call.created ++ ids) p where
  sound := h.sound
  known := h.known
  agreed y hy :=
    ⟨(h.agreed y hy).1, (h.agreed y hy).2.1, List.mem_append_right _ (h.agreed y hy).2.2⟩
  named e he := List.mem_append_right _ (h.named e he)
  stored m hm :=
    ⟨List.mem_append_right _ (h.stored m hm).1, List.mem_append_right _ (h.stored m hm).2⟩

/-- **What holds of a client holds behind each of its calls.** -/
theorem Holds.after (h : Holds names ids p) (hnow : now.FourDigit) (hcall : call.Fits names ids)
    (hrequest : p.request? call = some c) :
    Holds (call.opened ++ names) (call.created ++ ids) (p.after (p.store.answer now c)) := by
  have hfits := h.fits hcall hrequest
  have hsound := h.sound.answer hnow hfits
  have hstored : ∀ m ∈ (p.store.answer now c).store.messages,
      m.id ∈ call.created ++ ids ∧ m.sessionId ∈ call.opened ++ names := by
    intro m hm
    rw [opened_request hrequest, created_request hrequest]
    rcases PlainStore.stored_answer hm with ⟨old, hold, hid, hsession⟩ | ⟨hid, hsession⟩
    · obtain ⟨hold, hsession'⟩ := h.stored old hold
      exact ⟨List.mem_append_right _ (hid ▸ hold), List.mem_append_right _ (hsession ▸ hsession')⟩
    · exact ⟨List.mem_append_left _ hid, List.mem_append_left _ hsession⟩
  refine ⟨hsound, ?_, ?_, ?_, hstored⟩
  · intro x hx
    rcases List.mem_append.mp hx with hx | hx
    · obtain ⟨hknows, hcountable⟩ := h.known x hx
      exact ⟨hknows.answer hfits, hcountable⟩
    · exact PlainStore.knows_of_returned h.sound hfits hx
  · intro y hy
    rcases List.mem_append.mp hy with hy | hy
    · obtain ⟨hagrees, htimed, hid⟩ := h.agreed y hy
      have hfresh : y.id ∉ c.created := fun hmem =>
        created_fresh hcall y.id (created_request hrequest ▸ hmem) hid
      exact ⟨hagrees.answer hfresh, htimed, List.mem_append_right _ hid⟩
    · have hmem := PlainStore.mem_of_returned hy
      exact ⟨hsound.agrees hmem, hsound.timed y hmem, (hstored y hmem).1⟩
  · intro e he
    rw [opened_request hrequest]
    rcases PlainStore.named_answer hfits he with hkey | hkey
    · obtain ⟨old, hold, heq⟩ := List.mem_map.mp hkey
      exact List.mem_append_right _ (heq ▸ h.named old hold)
    · exact List.mem_append_left _ hkey

end Client

/-! ## Stores for clients -/

/-- A store answers every call that fits as the plain store does, as long as what it keeps shows the
content of the plain store. -/
structure Implements (backend : Backend σ) (shows : σ → PlainStore → Prop) : Prop where
  answer : ∀ {now : Timestamp} {x : σ} {s : PlainStore} {c : StoreCall}, shows x s → s.Sound →
    now.FourDigit → s.Fits c → (backend now x c).outcome = (s.answer now c).outcome ∧
      shows (backend now x c).store (s.answer now c).store

namespace Client

variable {σ : Type} {backend : Backend σ} {shows : σ → PlainStore → Prop} {names ids : List String}

/-- Two clients whose stores show the same and returned the same. -/
structure Shows (shows : σ → PlainStore → Prop) (x : Client σ) (p : Client PlainStore) : Prop where
  store : shows x.store p.store
  sessions : x.sessions.map Session.plain = p.sessions.map Session.plain
  messages : x.messages.map Message.plain = p.messages.map Message.plain

theorem getElem?_of_map_eq {f : α → β} {xs ys : List α} (h : xs.map f = ys.map f) (i : Nat) :
    (xs[i]?).map f = (ys[i]?).map f := by
  rw [← List.getElem?_map, h, List.getElem?_map]

/-- Two such clients ask for the same. -/
theorem Shows.request {x : Client σ} {p : Client PlainStore} (h : Shows shows x p)
    (call : ClientCall) :
    (x.request? call).map StoreCall.plain = (p.request? call).map StoreCall.plain := by
  cases call with
  | saveSession place edit =>
    have hplain : ∀ s : Session, (StoreCall.saveSession (edit.apply s)).plain =
        .saveSession (({ edit with cost := edit.cost.map unsigned } : SessionEdit).apply s.plain) :=
      fun s => congrArg StoreCall.saveSession (edit.plain_apply s)
    have hplace := congrArg (Option.map fun s : Session => StoreCall.saveSession
      (({ edit with cost := edit.cost.map unsigned } : SessionEdit).apply s))
      (getElem?_of_map_eq h.sessions place)
    simpa only [request?, Option.map_map, Function.comp_def, hplain] using hplace
  | updateMessage place edit =>
    have hplace := congrArg (Option.map fun m : Message => StoreCall.updateMessage (edit.apply m))
      (getElem?_of_map_eq h.messages place)
    simpa only [request?, Option.map_map, Function.comp_def, StoreCall.plain,
      MessageEdit.plain_apply] using hplace
  | _ => rfl

theorem sessions_outcome (r : StoreReply σ StoreAnswer) :
    r.sessions.map Session.plain = match r.outcome.result with
      | .ok a => a.sessionList
      | .error _ => [] := by
  obtain ⟨result, store, changes⟩ := r
  cases result with
  | error e => rfl
  | ok a => cases a <;> rfl

theorem messages_outcome (r : StoreReply σ StoreAnswer) :
    r.messages.map Message.plain = match r.outcome.result with
      | .ok a => a.messageList
      | .error _ => [] := by
  obtain ⟨result, store, changes⟩ := r
  cases result with
  | error e => rfl
  | ok a => cases a <;> rfl

/-- Clients that see the same reply are alike behind it. -/
theorem Shows.after {x : Client σ} {p : Client PlainStore} (h : Shows shows x p)
    {r : StoreReply σ StoreAnswer} {r' : StoreReply PlainStore StoreAnswer}
    (houtcome : r.outcome = r'.outcome) (hstore : shows r.store r'.store) :
    Shows shows (x.after r) (p.after r') where
  store := hstore
  sessions := by
    simp only [Client.after, List.map_append, h.sessions, sessions_outcome, houtcome]
  messages := by
    simp only [Client.after, List.map_append, h.messages, messages_outcome, houtcome]

/-- **A client sees the same of a store as of the plain store that it implements.** -/
theorem run_eq (himplements : Implements backend shows) {x : Client σ} {p : Client PlainStore}
    (hshows : Shows shows x p) (hholds : Holds names ids p)
    {script : List (Timestamp × ClientCall)} (hscript : Lawful names ids script) :
    x.run backend script = p.run PlainStore.answer script := by
  induction script generalizing x p names ids with
  | nil => rfl
  | cons step script ih =>
    obtain ⟨now, call⟩ := step
    obtain ⟨hnow, hcall, hrest⟩ := hscript
    have hrequest := hshows.request call
    simp only [run]
    cases hp : p.request? call with
    | none =>
      rw [hp, Option.map_none, Option.map_eq_none_iff] at hrequest
      rw [hrequest, ih hshows (hholds.skip call) hrest]
    | some c =>
      rw [hp, Option.map_some, Option.map_eq_some_iff] at hrequest
      obtain ⟨c', hc', hplain⟩ := hrequest
      have hfits := (PlainStore.fits_congr hplain).mpr (hholds.fits hcall hp)
      obtain ⟨houtcome, hstore⟩ := himplements.answer hshows.store hholds.sound hnow hfits
      rw [PlainStore.answer_congr hplain] at houtcome hstore
      rw [hc']
      dsimp only
      rw [houtcome, ih (hshows.after houtcome hstore) (hholds.after hnow hcall hp) hrest]

end Client

end AgentDesk
