import AgentDesk.Proofs.Tracker.Calls
import AgentDesk.Proofs.Desk.Trackers
/-!
# Where queued prompts go

A prompt that is queued leaves the queue of its session in one call: it is handed out, or it is
dropped because the session was canceled or its queue cleared. Until then it waits. So the prompts
that were accepted, in order, are those that left in the calls so far, batch by batch, followed by
those that wait.

## Main definitions

* `QueueExit`, `PromptFate` — how a prompt leaves its queue, and what has become of it.
* `TrackerState.leaving` — the prompts that leave a queue in one call.
* `promptsWith`, `undropped` — the prompts of a ledger with a certain fate.
* `TrackerState.ledger` — the accepted prompts with their fates.
* `TrackerState.Delivered` — what the ledger says of the replies and of the queue.
-/

namespace AgentDesk

/-- How a prompt leaves the queue of its session. -/
inductive QueueExit where
  | handedOut
  | dropped
deriving DecidableEq

/-- What has become of a prompt that was queued: it left in a call, counted from zero, or it waits.
-/
inductive PromptFate where
  | left (exit : QueueExit) (call : Nat)
  | waiting
deriving DecidableEq

/-- Whether a prompt was dropped. -/
def PromptFate.isDropped : PromptFate → Bool
  | .left .dropped _ => true
  | _ => false

/-- The prompt that was accepted for the queue of a session. -/
def acceptedIn? (session : String) : TrackerCall × TrackerReply → Option String
  | (.submit s _ prompt, .admission .queued) => if s = session then some prompt else none
  | _ => none

/-- The prompts that a reply hands out from the queue of a session. -/
def handedOutIn (session : String) : TrackerCall × TrackerReply → List String
  | (.drain s, .prompts prompts) | (.finishOrTake s _, .prompts prompts) =>
    if s = session then prompts else []
  | _ => []

/-- Whether a call drops what waits for a session. -/
def TrackerCall.Drops (session : String) : TrackerCall → Prop
  | .cancel s | .clearQueue s => s = session
  | _ => False

instance TrackerCall.decidableDrops (session : String) : (c : TrackerCall) →
    Decidable (c.Drops session)
  | .cancel s | .clearQueue s => inferInstanceAs (Decidable (s = session))
  | .submit _ _ _ | .finish _ _ | .finishOrTake _ _ | .drain _ | .forkToken _ | .cancelToken _ =>
    isFalse id

/-- The prompts with a certain fate, in order. -/
def promptsWith (fate : PromptFate) (ledger : List (String × PromptFate)) : List String :=
  (ledger.filter (·.2 = fate)).map (·.1)

theorem promptsWith_append (fate : PromptFate) (a b : List (String × PromptFate)) :
    promptsWith fate (a ++ b) = promptsWith fate a ++ promptsWith fate b := by
  simp [promptsWith]

/-- A batch of prompts that share one fate. -/
theorem promptsWith_map (fate f : PromptFate) (prompts : List String) :
    promptsWith fate (prompts.map (·, f)) = if f = fate then prompts else [] := by
  by_cases h : f = fate <;> simp [promptsWith, List.filter_map, Function.comp_def, h]

/-- The prompts that were not dropped, in order. -/
def undropped (ledger : List (String × PromptFate)) : List String :=
  (ledger.filter (!·.2.isDropped)).map (·.1)

theorem undropped_append (a b : List (String × PromptFate)) :
    undropped (a ++ b) = undropped a ++ undropped b := by
  simp [undropped]

theorem undropped_map (f : PromptFate) (prompts : List String) :
    undropped (prompts.map (·, f)) = if f.isDropped then [] else prompts := by
  cases h : f.isDropped <;> simp [undropped, List.filter_map, Function.comp_def, h]

theorem map_fst_map (f : PromptFate) (prompts : List String) :
    (prompts.map (·, f)).map (·.1) = prompts := by
  simp [Function.comp_def]

namespace TrackerState

variable {s : TrackerState} {c : TrackerCall} {session : String}

/-- The prompts that leave the queue of a session in a call. -/
def leaving (session : String) (s : TrackerState) (c : TrackerCall) : QueueExit → List String
  | .handedOut => handedOutIn session (c, (s.perform c).1)
  | .dropped => if c.Drops session then s.tracker.queueOf session else []

/-- The prompts that wait for a session and those that calls add to them, in order of acceptance and
each with its fate. The first of the calls has the number `n`. -/
def ledger (session : String) : Nat → TrackerState → List TrackerCall → List (String × PromptFate)
  | _, s, [] => (s.tracker.queueOf session).map (·, .waiting)
  | n, s, c :: calls =>
    (s.leaving session c .handedOut).map (·, .left .handedOut n) ++
      (s.leaving session c .dropped).map (·, .left .dropped n) ++
        ledger session (n + 1) (s.perform c).2 calls

/-- The prompts that leave the queue of a session in the call with a number. -/
def leavingAt (session : String) (s : TrackerState) (calls : List TrackerCall) (exit : QueueExit)
    (call : Nat) : List String :=
  (calls[call]?).elim [] fun c => (s.run (calls.take call)).leaving session c exit

/-! ## One call -/

/-- **No prompt is lost or made up in a call**: what waits before it, with the prompt that it may
add, is what leaves in it, with what waits behind it. -/
theorem queueOf_perform (session : String) (s : TrackerState) (c : TrackerCall) :
    s.tracker.queueOf session ++ (acceptedIn? session (c, (s.perform c).1)).toList =
      s.leaving session c .handedOut ++ s.leaving session c .dropped ++
        (s.perform c).2.tracker.queueOf session := by
  cases c with
  | submit other parent prompt =>
    have hqueue := s.tracker.queueOf_submit s.tokens other parent prompt session
    simp only [perform, leaving, TrackerCall.Drops, handedOutIn, List.nil_append, hqueue]
    unfold Tracker.submit
    cases s.tracker.isSessionBusy other with
    | false => simp [acceptedIn?]
    | true =>
      by_cases hsession : other = session
      · simp [acceptedIn?, hsession]
      · simp [acceptedIn?, hsession, Ne.symm hsession]
  | finish other g => simp [perform, leaving, TrackerCall.Drops, handedOutIn, acceptedIn?]
  | finishOrTake other g =>
    simp only [perform, leaving, TrackerCall.Drops, handedOutIn, acceptedIn?, Option.toList_none,
      List.append_nil, Tracker.finishOrTake_fst, Tracker.queueOf_finishOrTake]
    by_cases hsession : other = session
    · by_cases howns : s.tracker.owns other g <;> simp_all
    · simp [hsession, Ne.symm hsession]
  | cancel other =>
    simp only [perform, leaving, TrackerCall.Drops, handedOutIn, acceptedIn?, Option.toList_none,
      List.append_nil, List.nil_append, Tracker.queueOf_cancel]
    by_cases hsession : other = session
    · simp [hsession]
    · simp [hsession, Ne.symm hsession]
  | clearQueue other =>
    simp only [perform, leaving, TrackerCall.Drops, handedOutIn, acceptedIn?, Option.toList_none,
      List.append_nil, List.nil_append, Tracker.queueOf_clearQueue]
    by_cases hsession : other = session
    · simp [hsession]
    · simp [hsession, Ne.symm hsession]
  | drain other =>
    simp only [perform, leaving, TrackerCall.Drops, handedOutIn, acceptedIn?, Option.toList_none,
      List.append_nil, Tracker.drain, Tracker.queueOf_clearQueue]
    by_cases hsession : other = session
    · simp [hsession]
    · simp [hsession, Ne.symm hsession]
  | forkToken parent | cancelToken token =>
    simp [perform, leaving, TrackerCall.Drops, handedOutIn, acceptedIn?]

/-! ## Many calls -/

theorem history_getElem? (s : TrackerState) (calls : List TrackerCall) (k : Nat) :
    (s.history calls)[k]? =
      (calls[k]?).map fun c => (c, ((s.run (calls.take k)).perform c).1) := by
  induction calls generalizing s k with
  | nil => simp [history]
  | cons c calls ih =>
    cases k with
    | zero => rfl
    | succ k => exact ih (s.perform c).2 k

/-- The prompts in the ledger are those that wait at first and those that are accepted. -/
theorem map_fst_ledger (session : String) (n : Nat) (s : TrackerState) (calls : List TrackerCall) :
    (ledger session n s calls).map (·.1) =
      s.tracker.queueOf session ++ (s.history calls).filterMap (acceptedIn? session) := by
  induction calls generalizing n s with
  | nil => rw [ledger, map_fst_map, history, List.filterMap_nil, List.append_nil]
  | cons c calls ih =>
    have hcons : ((s.history (c :: calls)).filterMap (acceptedIn? session)) =
        (acceptedIn? session (c, (s.perform c).1)).toList ++
          ((s.perform c).2.history calls).filterMap (acceptedIn? session) := by
      rw [history, List.filterMap_cons]
      split <;> rename_i heq <;> simp [heq]
    rw [hcons, ← List.append_assoc, queueOf_perform, ledger, List.map_append, List.map_append,
      map_fst_map, map_fst_map, ih, List.append_assoc _ _ (List.filterMap ..)]

/-- No prompt left before the first call. -/
theorem le_of_mem_ledger {n k : Nat} {calls : List TrackerCall} {exit : QueueExit} {prompt : String}
    (h : (prompt, .left exit k) ∈ ledger session n s calls) : n ≤ k := by
  induction calls generalizing n s with
  | nil => simp [ledger] at h
  | cons c calls ih =>
    simp only [ledger, List.mem_append, List.mem_map, Prod.mk.injEq, PromptFate.left.injEq] at h
    rcases h with (⟨_, -, -, -, hk⟩ | ⟨_, -, -, -, hk⟩) | hlater
    · exact Nat.le_of_eq hk
    · exact Nat.le_of_eq hk
    · exact Nat.le_of_succ_le (ih hlater)

/-- **The prompts that left in a call are those with that fate.** -/
theorem promptsWith_left (session : String) (n : Nat) (s : TrackerState) (calls : List TrackerCall)
    (exit : QueueExit) (k : Nat) : promptsWith (.left exit (n + k)) (ledger session n s calls) =
      s.leavingAt session calls exit k := by
  induction calls generalizing n s k with
  | nil => simp [ledger, promptsWith_map, leavingAt]
  | cons c calls ih =>
    rw [ledger, promptsWith_append, promptsWith_append, promptsWith_map, promptsWith_map]
    cases k with
    | zero =>
      -- Behind the first call only later numbers occur.
      have hlater : promptsWith (.left exit (n + 0)) (ledger session (n + 1) (s.perform c).2 calls)
          = [] := by
        rw [promptsWith, List.map_eq_nil_iff, List.filter_eq_nil_iff]
        rintro ⟨prompt, fate⟩ hmem hfate
        obtain rfl := of_decide_eq_true hfate
        exact absurd (le_of_mem_ledger hmem) (Nat.not_succ_le_self n)
      rw [hlater]
      cases exit <;> simp [leavingAt, run]
    | succ k =>
      have hnext := ih (n + 1) (s.perform c).2 k
      rw [Nat.add_right_comm, Nat.add_assoc] at hnext
      rw [hnext]
      simp [leavingAt, run]

/-- **The prompts that wait behind the calls are those with that fate.** -/
theorem promptsWith_waiting (session : String) (n : Nat) (s : TrackerState)
    (calls : List TrackerCall) : promptsWith .waiting (ledger session n s calls) =
      (s.run calls).tracker.queueOf session := by
  induction calls generalizing n s with
  | nil => simp [ledger, promptsWith_map, run]
  | cons c calls ih =>
    rw [ledger, promptsWith_append, promptsWith_append, promptsWith_map, promptsWith_map, ih]
    rfl

/-- **What was handed out and what waits are the accepted prompts in order**, with the dropped ones
left out. -/
theorem undropped_ledger (session : String) (n : Nat) (s : TrackerState)
    (calls : List TrackerCall) : undropped (ledger session n s calls) =
      (s.history calls).flatMap (handedOutIn session) ++
        (s.run calls).tracker.queueOf session := by
  induction calls generalizing n s with
  | nil =>
    rw [ledger, undropped_map]
    rfl
  | cons c calls ih =>
    rw [ledger, undropped_append, undropped_append, undropped_map, undropped_map, ih, history,
      List.flatMap_cons, List.append_assoc _ _ (TrackerState.tracker _ |>.queueOf session)]
    simp [PromptFate.isDropped, leaving, run]

/-- What a ledger of the prompts that were accepted for a session says of the calls: each prompt has
one place. It was handed out in the reply to one call, it was dropped in one call, or it waits. -/
structure Delivered (session : String) (calls : List TrackerCall)
    (ledger : List (String × PromptFate)) : Prop where
  /-- Every accepted prompt has one entry, in order of acceptance. -/
  accepted : ledger.map (·.1) = (fresh.history calls).filterMap (acceptedIn? session)
  /-- The reply to a call hands out exactly the prompts that left in it that way. -/
  handedOut : ∀ k, promptsWith (.left .handedOut k) ledger =
    ((fresh.history calls)[k]?).elim [] (handedOutIn session)
  /-- A call that cancels the session or clears its queue drops exactly what waited, and these are
  the prompts that left in it that way; no other call drops anything. -/
  dropped : ∀ k, promptsWith (.left .dropped k) ledger = (calls[k]?).elim [] fun c =>
    if c.Drops session then (fresh.run (calls.take k)).tracker.queueOf session else []
  /-- What waits is still in the queue. -/
  waiting : promptsWith .waiting ledger = (fresh.run calls).tracker.queueOf session
  /-- All that was handed out, followed by what waits, is what was accepted without what was
  dropped, in order of acceptance. -/
  order : (fresh.history calls).flatMap (handedOutIn session) ++
    (fresh.run calls).tracker.queueOf session = undropped ledger
  /-- The number of queued prompts is that of the prompts that wait. -/
  count : (fresh.run calls).tracker.queuedPrompts session =
    (promptsWith .waiting ledger).length

/-- **Queued prompts are delivered once and in order.** Whatever calls are made of a tracker, every
prompt that was queued for a session is in one place behind them, and no order is changed. -/
theorem delivered_ledger (session : String) (calls : List TrackerCall) :
    Delivered session calls (ledger session 0 fresh calls) where
  accepted := map_fst_ledger session 0 fresh calls
  handedOut k := by
    have hleft := promptsWith_left session 0 fresh calls .handedOut k
    rw [Nat.zero_add] at hleft
    rw [hleft, history_getElem?, leavingAt]
    cases calls[k]? <;> rfl
  dropped k := by
    have hleft := promptsWith_left session 0 fresh calls .dropped k
    rw [Nat.zero_add] at hleft
    exact hleft
  waiting := promptsWith_waiting session 0 fresh calls
  order := (undropped_ledger session 0 fresh calls).symm
  count := (congrArg List.length (promptsWith_waiting session 0 fresh calls)).symm

end TrackerState

end AgentDesk
