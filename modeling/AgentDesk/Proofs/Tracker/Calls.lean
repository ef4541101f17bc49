import AgentDesk.Tracker
/-!
# Calls of a tracker

A tracker is used by many turns at once. Each call is one atomic step, so that what happens to a
tracker is a sequence of calls, in any order and with any sessions and generations. The tokens live
beside it: others create and cancel tokens as well, and hand some of them to the tracker as parents
of its turns.

## Main definitions

* `TrackerCall`, `TrackerReply` — the calls and their replies.
* `TrackerState` — a tracker with the tokens; `TrackerState.perform` makes one call.
* `TrackerState.run` and `TrackerState.history` — a sequence of calls, with their replies.
* `TrackerState.Admits` — what is asked of a sequence of calls.
-/

namespace AgentDesk

/-- A call of a tracker, or something that others do with tokens. -/
inductive TrackerCall where
  | submit (session : String) (parent : TokenId) (prompt : String)
  | finish (session : String) (generation : Nat)
  | finishOrTake (session : String) (generation : Nat)
  | cancel (session : String)
  | clearQueue (session : String)
  | drain (session : String)
  | forkToken (parent : Option TokenId)
  | cancelToken (token : TokenId)
deriving DecidableEq

/-- The reply to a call. -/
inductive TrackerReply where
  | admission (admission : Admission)
  | removed (done : Bool)
  | prompts (prompts : List String)
  | token (token : TokenId)
  | nothing
deriving DecidableEq

/-- A tracker with the tokens of its turns and of everybody else. -/
structure TrackerState where
  tracker : Tracker
  tokens : TokenTree
deriving DecidableEq

/-- The session that a call is about. -/
def TrackerCall.session? : TrackerCall → Option String
  | .submit session _ _ | .finish session _ | .finishOrTake session _ | .cancel session
  | .clearQueue session | .drain session => some session
  | .forkToken _ | .cancelToken _ => none

namespace TrackerState

/-- An idle tracker before there are tokens. -/
def fresh : TrackerState := ⟨.idle, .empty⟩

/-- Makes a call. -/
def perform (s : TrackerState) : TrackerCall → TrackerReply × TrackerState
  | .submit session parent prompt =>
    let (admission, tracker, tokens) := s.tracker.submit s.tokens session parent prompt
    (.admission admission, ⟨tracker, tokens⟩)
  | .finish session generation =>
    let (done, tracker) := s.tracker.finish session generation
    (.removed done, { s with tracker })
  | .finishOrTake session generation =>
    let (prompts, tracker) := s.tracker.finishOrTake session generation
    (.prompts prompts, { s with tracker })
  | .cancel session =>
    let (tracker, tokens) := s.tracker.cancel s.tokens session
    (.nothing, ⟨tracker, tokens⟩)
  | .clearQueue session => (.nothing, { s with tracker := s.tracker.clearQueue session })
  | .drain session =>
    let (prompts, tracker) := s.tracker.drain session
    (.prompts prompts, { s with tracker })
  | .forkToken parent =>
    let (token, tokens) := s.tokens.fork parent
    (.token token, { s with tokens })
  | .cancelToken token => (.nothing, { s with tokens := s.tokens.cancel token })

/-- Makes calls. -/
def run (s : TrackerState) (calls : List TrackerCall) : TrackerState :=
  calls.foldl (fun s c => (s.perform c).2) s

/-- The calls with their replies. -/
def history : TrackerState → List TrackerCall → List (TrackerCall × TrackerReply)
  | _, [] => []
  | s, c :: calls => (c, (s.perform c).1) :: (s.perform c).2.history calls

end TrackerState

/-- What is asked of a call: a parent is a token that is there, and the token of a turn that runs is
canceled by nobody but its tracker. -/
def TrackerCall.Admissible (s : TrackerState) : TrackerCall → Prop
  | .submit _ parent _ => parent < s.tokens.nodes.length
  | .forkToken parent => ∀ p ∈ parent, p < s.tokens.nodes.length
  | .cancelToken token => ∀ e ∈ s.tracker.active, e.2.token ≠ token
  | _ => True

instance decidableAdmissible (s : TrackerState) : (c : TrackerCall) → Decidable (c.Admissible s)
  | .submit _ parent _ => inferInstanceAs (Decidable (parent < s.tokens.nodes.length))
  | .forkToken parent => inferInstanceAs (Decidable (∀ p ∈ parent, p < s.tokens.nodes.length))
  | .cancelToken token => inferInstanceAs (Decidable (∀ e ∈ s.tracker.active, e.2.token ≠ token))
  | .finish _ _ | .finishOrTake _ _ | .cancel _ | .clearQueue _ | .drain _ => isTrue trivial

namespace TrackerState

/-- Every call of a sequence is admissible when it is made. -/
def Admits : TrackerState → List TrackerCall → Prop
  | _, [] => True
  | s, c :: calls => c.Admissible s ∧ (s.perform c).2.Admits calls

instance decidableAdmits : (s : TrackerState) → (calls : List TrackerCall) →
    Decidable (s.Admits calls)
  | _, [] => isTrue trivial
  | s, c :: calls =>
    haveI := decidableAdmits (s.perform c).2 calls
    inferInstanceAs (Decidable (c.Admissible s ∧ (s.perform c).2.Admits calls))

end TrackerState

end AgentDesk
