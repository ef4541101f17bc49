import AgentDesk.Proofs.Turn.Coherence
/-!
# The way of a canceled turn to its end

A turn that was canceled learns of it wherever it asks or waits. From there on it has only so many
steps left, for every phase leads towards the end; only prompts that it still takes from its queue
make the way longer, each by one step.

## Main definitions

* `Exchange` — a request with its answer.
* `TurnRequest.Halted` — what a canceled turn is answered.
* `TurnRequest.taken` — how many prompts an answer holds.
* `TurnPhase.left` — how many steps are left.
-/

namespace AgentDesk

/-- A request of a turn with its answer. -/
structure Exchange where
  request : TurnRequest
  reply : request.Reply

/-- Wherever a turn asks whether it was canceled or waits, the answer is that it was. -/
def TurnRequest.Halted : (r : TurnRequest) → r.Reply → Prop
  | .isCanceled, (reply : Bool) => reply = true
  | .openStream _, (reply : Opening) => reply = .canceled
  | .nextEvent, (reply : NextEvent) => reply = .canceled
  | .startTool _ _, (reply : ToolStart) => reply = .canceled
  | .awaitTool, (reply : ToolEnd) => reply = .canceled
  | _, _ => True

/-- The number of prompts that a turn takes from its queue. -/
def TurnRequest.taken : (r : TurnRequest) → r.Reply → Nat
  | .drainQueue, (prompts : List String) => prompts.length
  | .finishOrTake, (prompts : List String) => prompts.length
  | _, _ => 0

namespace TurnPhase

variable {setup : TurnSetup} {now : Timestamp} {history : List Message} {m : Message}

/-- How many steps a canceled turn has left at most, if it takes no prompts any more. -/
def left : TurnPhase → Nat
  | .saving _ _ _ => 6
  | .accounting _ _ _ | .dispatching _ _ _ _ _ | .awaiting _ _ _ _ _ => 5
  | .listing | .answering _ | .charging _ _ _ | .stopping _ _ _ => 4
  | .reading _ | .opening _ _ | .streaming _ _ | .recording _ _ _ => 3
  | .prompting _ | .draining _ | .taking _ _ | .failing _ _ _ => 2
  | .round _ | .excusing _ _ | .closing _ => 1
  | .queuing _ _ rest => rest.length + 2

theorem left_pos (p : TurnPhase) : 0 < p.left := by
  cases p <;> simp [left]

/-- One more step for each prompt. -/
theorem left_record (history : List Message) (prompts : List String) :
    (record history prompts).left ≤ prompts.length + 1 := by
  have hshort : (prompts.filter fun p => !p.isEmpty).length ≤ prompts.length :=
    List.length_filter_le ..
  unfold record
  split
  · simp [left]
  · rename_i p rest heq
    rw [heq] at hshort
    simpa [left] using hshort

theorem left_abort (m : Message) (cause : TurnFailure) : (abort now m cause).left = 2 := rfl

theorem left_afterRound {tools : Option Message} {p : TurnPhase}
    (h : afterRound now history m tools = .next p) : p.left ≤ 2 := by
  rcases afterRound_eq_next h with ⟨t, -, rfl⟩ | ⟨-, rfl⟩ | ⟨-, rfl⟩ <;> simp [left]

/-- **A canceled turn comes closer to its end with every step.** -/
theorem left_resume {p p' : TurnPhase} {reply : (p.request setup).Reply}
    (hr : (p.request setup).Halted reply) (h : p.resume setup now reply = .next p') :
    p'.left < p.left + (p.request setup).taken reply := by
  -- Only the two requests for prompts need them; everything else comes closer on its own.
  have hplain : p'.left < p.left → p'.left < p.left + (p.request setup).taken reply :=
    fun hlt => Nat.lt_of_lt_of_le hlt (Nat.le_add_right ..)
  cases p with
  | listing | reading | prompting | answering =>
    refine hplain ?_
    simp only [resume, storeFailed] at h
    split at h <;> cases h
    simp [left]
  | round history =>
    obtain rfl : reply = true := hr
    cases h
  | opening history m =>
    obtain rfl : reply = .canceled := hr
    refine hplain ?_
    cases h
    simp [left]
  | streaming history m =>
    obtain rfl : reply = .canceled := hr
    refine hplain ?_
    cases h
    rw [left_abort]
    simp [left]
  | saving history m tokens =>
    refine hplain ?_
    simp only [resume] at h
    split at h
    · cases h
      rw [left_abort]
      simp [left]
    · split at h <;> cases h <;> simp [left]
  | accounting history m tokens | charging history m session =>
    refine hplain ?_
    simp only [resume] at h
    split at h <;> cases h
    · rw [left_abort]
      simp [left]
    · simp [left]
  | dispatching history m results call rest =>
    obtain rfl : reply = .canceled := hr
    refine hplain ?_
    cases h
    simp [stopTools, left]
  | awaiting history m results call rest =>
    obtain rfl : reply = .canceled := hr
    refine hplain ?_
    cases h
    simp [stopTools, left]
  | stopping history m results =>
    refine hplain ?_
    cases h
    simp [left]
  | recording history m results =>
    refine hplain ?_
    simp only [resume, storeFailed] at h
    split at h
    · cases h
    · exact Nat.lt_succ_of_le (left_afterRound h)
  | draining history =>
    cases h
    exact Nat.lt_of_le_of_lt (left_record history reply) (by
      simp only [left, request, TurnRequest.taken]
      omega)
  | taking history m =>
    simp only [resume] at h
    split at h
    · cases h
    · rename_i hsome
      split at h <;> cases h
      · refine Nat.lt_add_of_pos_right (List.length_pos_iff.mpr fun hnil => hsome ?_)
        rw [hnil]
        rfl
      · exact Nat.lt_of_le_of_lt (left_record history reply) (by
          simp only [left, request, TurnRequest.taken]
          omega)
  | queuing history prompt rest =>
    refine hplain ?_
    simp only [resume, storeFailed] at h
    split at h
    · cases h
    · split at h <;> cases h <;> simp [left]
  | failing m calls cause =>
    refine hplain ?_
    simp only [resume] at h
    split at h <;> cases h
    simp [left]
  | excusing calls cause => cases h
  | closing m => cases h

end TurnPhase

end AgentDesk
