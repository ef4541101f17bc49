import AgentDesk.Proofs.Tracker.Calls
import AgentDesk.Proofs.Tracker.Tokens
/-!
# Who owns a session

A session that is busy belongs to one turn, which is known by its generation. Whatever calls are
made of a tracker, and in whatever order, the turn keeps the session until it leaves itself or is
canceled, and its token is canceled by nothing but its parent as long as it has the session.

## Main definitions

* `generationOf?` — the generation that is handed out in a call.
* `TrackerState.Registered` — what a sequence of calls keeps.
* `TrackerState.Ownership` — what it means for the next call.
-/

namespace AgentDesk

/-- The generation that is handed out in a call. -/
def generationOf? : TrackerCall × TrackerReply → Option Nat
  | (_, .admission (.started turn)) => some turn.generation
  | _ => none

namespace Tracker

variable {t : Tracker} {s : String} {g : Nat}

theorem active_finish (t : Tracker) (s : String) (g : Nat) :
    (t.finish s g).2.active = if t.owns s g then Table.erase s t.active else t.active := by
  unfold finish
  split <;> rfl

theorem active_finishOrTake (t : Tracker) (s : String) (g : Nat) :
    (t.finishOrTake s g).2.active =
      if t.owns s g ∧ t.queueOf s = [] then Table.erase s t.active else t.active := by
  unfold finishOrTake
  cases ho : t.owns s g with
  | false => simp
  | true => cases hq : t.queueOf s <;> simp

/-- A prompt starts a turn if the session is idle; the token of the turn is new. -/
theorem submit_of_idle (tokens : TokenTree) (parent : TokenId) (prompt : String)
    (h : t.turnOf? s = none) : t.submit tokens s parent prompt =
      (.started ⟨tokens.nodes.length, t.lastGeneration + 1⟩,
        { t with
          active := Table.put s ⟨tokens.nodes.length, t.lastGeneration + 1⟩ t.active
          lastGeneration := t.lastGeneration + 1 },
        (tokens.fork (some parent)).2) := by
  rw [submit, isSessionBusy_eq_false.mpr h]
  rfl

/-- A prompt for a busy session is queued. -/
theorem submit_of_busy {turn : ActiveTurn} (tokens : TokenTree) (parent : TokenId)
    (prompt : String) (h : t.turnOf? s = some turn) : t.submit tokens s parent prompt =
      (.queued, { t with queues := Table.put s (t.queueOf s ++ [prompt]) t.queues }, tokens) := by
  have hbusy : t.isSessionBusy s = true := by
    simpa [turnOf?, isSessionBusy, Table.has] using congrArg Option.isSome h
  rw [submit, hbusy]
  rfl

end Tracker

namespace TrackerState

variable {past : List (TrackerCall × TrackerReply)} {s s' : TrackerState} {c : TrackerCall}

/-- What a sequence of calls keeps: a session has one turn at most, the turn was started in a call,
its token has the parent of that call and is not itself canceled, no two turns share a token, and
generations only grow. -/
structure Registered (past : List (TrackerCall × TrackerReply)) (s : TrackerState) : Prop where
  single : s.tracker.active.keys.Nodup
  ordered : s.tokens.Ordered
  begun : ∀ session turn, s.tracker.turnOf? session = some turn → ∃ parent prompt,
    (.submit session parent prompt, .admission (.started turn)) ∈ past ∧
      s.tokens.nodes[turn.token]? = some ⟨some parent, false⟩
  distinct : ∀ a b turn turn', s.tracker.turnOf? a = some turn → s.tracker.turnOf? b = some turn' →
    turn.token = turn'.token → a = b
  increasing : (past.filterMap generationOf?).Pairwise (· < ·)
  bounded : ∀ g ∈ past.filterMap generationOf?, g ≤ s.tracker.lastGeneration

theorem registered_fresh : Registered [] fresh where
  single := List.nodup_nil
  ordered := TokenTree.ordered_empty
  begun _ _ h := nomatch h
  distinct _ _ _ _ h := nomatch h
  increasing := .nil
  bounded _ h := nomatch h

namespace Registered

/-- The token of a turn is there. -/
theorem token_lt (h : Registered past s) {session : String} {turn : ActiveTurn}
    (hturn : s.tracker.turnOf? session = some turn) : turn.token < s.tokens.nodes.length := by
  obtain ⟨parent, prompt, -, hnode⟩ := h.begun session turn hturn
  exact (List.getElem?_eq_some_iff.mp hnode).1

/-- A call that starts no turn, and leaves the nodes of those that go on, keeps what is registered.
-/
theorem keep (h : Registered past s) (e : TrackerCall × TrackerReply) (he : generationOf? e = none)
    (hactive : s'.tracker.active = s.tracker.active ∨
      ∃ session, s'.tracker.active = Table.erase session s.tracker.active)
    (hlast : s'.tracker.lastGeneration = s.tracker.lastGeneration) (hordered : s'.tokens.Ordered)
    (hnode : ∀ session turn, s'.tracker.turnOf? session = some turn →
      s.tracker.turnOf? session = some turn →
        s'.tokens.nodes[turn.token]? = s.tokens.nodes[turn.token]?) :
    Registered (past ++ [e]) s' := by
  have hturn : ∀ session turn, s'.tracker.turnOf? session = some turn →
      s.tracker.turnOf? session = some turn := by
    intro session turn hturn
    rcases hactive with hsame | ⟨other, herase⟩
    · rwa [Tracker.turnOf?, hsame] at hturn
    · rw [Tracker.turnOf?, herase] at hturn
      by_cases hne : session = other
      · rw [hne, Table.get?_erase_self] at hturn
        cases hturn
      · rwa [Table.get?_erase_of_ne hne] at hturn
  have hpast : (past ++ [e]).filterMap generationOf? = past.filterMap generationOf? := by simp [he]
  refine ⟨?_, hordered, ?_, ?_, hpast ▸ h.increasing, hpast ▸ hlast ▸ h.bounded⟩
  · rcases hactive with hsame | ⟨other, herase⟩
    · exact hsame ▸ h.single
    · exact herase ▸ Table.nodup_keys_erase other h.single
  · intro session turn hafter
    have hbefore := hturn session turn hafter
    obtain ⟨parent, prompt, hin, hat⟩ := h.begun session turn hbefore
    exact ⟨parent, prompt, List.mem_append_left _ hin,
      (hnode session turn hafter hbefore).trans hat⟩
  · intro a b turn turn' ha hb
    exact h.distinct a b turn turn' (hturn a turn ha) (hturn b turn' hb)

/-- A turn that starts has a new token and a new generation. -/
theorem start (h : Registered past s) {session prompt : String} {parent : TokenId}
    (hidle : s.tracker.turnOf? session = none) (hparent : parent < s.tokens.nodes.length) :
    Registered
      (past ++ [(.submit session parent prompt, (s.perform (.submit session parent prompt)).1)])
      (s.perform (.submit session parent prompt)).2 := by
  have hsubmit := Tracker.submit_of_idle s.tokens parent prompt hidle
  have hturn : ∀ other, (s.perform (.submit session parent prompt)).2.tracker.turnOf? other =
      if other = session then some ⟨s.tokens.nodes.length, s.tracker.lastGeneration + 1⟩
      else s.tracker.turnOf? other := by
    intro other
    simp only [perform, hsubmit, Tracker.turnOf?]
    split
    · rename_i hsession
      rw [hsession, Table.get?_put_self]
    · rename_i hne
      rw [Table.get?_put_of_ne hne]
  have hnode : ∀ id < s.tokens.nodes.length,
      (s.perform (.submit session parent prompt)).2.tokens.nodes[id]? = s.tokens.nodes[id]? := by
    intro id hid
    simp only [perform, hsubmit]
    exact TokenTree.nodes_fork_of_lt hid (some parent)
  have hnew : (s.perform (.submit session parent prompt)).2.tokens.nodes[s.tokens.nodes.length]? =
      some ⟨some parent, false⟩ := by
    simp only [perform, hsubmit]
    exact s.tokens.nodes_fork_self (some parent)
  have hgenerations : (past ++ [(TrackerCall.submit session parent prompt,
      (s.perform (.submit session parent prompt)).1)]).filterMap generationOf? =
        past.filterMap generationOf? ++ [s.tracker.lastGeneration + 1] := by
    simp [perform, hsubmit, generationOf?]
  refine ⟨?_, ?_, ?_, ?_, ?_, ?_⟩
  · simp only [perform, hsubmit]
    exact Table.nodup_keys_put session _ h.single
  · simp only [perform, hsubmit]
    exact TokenTree.ordered_fork h.ordered (by simpa using hparent)
  · intro other turn hother
    rw [hturn] at hother
    split at hother
    · rename_i hsession
      cases hother
      refine ⟨parent, prompt, ?_, hnew⟩
      simp [hsession, perform, hsubmit]
    · obtain ⟨parent', prompt', hin, hat⟩ := h.begun other turn hother
      exact ⟨parent', prompt', List.mem_append_left _ hin,
        (hnode _ (h.token_lt hother)).trans hat⟩
  · -- The new token is younger than those of all other turns.
    intro a b turn turn' ha hb hsame
    rw [hturn] at ha hb
    split at ha <;> split at hb
    · simp_all
    · cases ha
      exact absurd hsame (Nat.ne_of_gt (h.token_lt hb))
    · cases hb
      exact absurd hsame (Nat.ne_of_lt (h.token_lt ha))
    · exact h.distinct a b turn turn' ha hb hsame
  · rw [hgenerations]
    refine List.pairwise_append.mpr ⟨h.increasing, List.pairwise_singleton _ _, ?_⟩
    intro g hg g' hg'
    obtain rfl := List.mem_singleton.mp hg'
    exact Nat.lt_succ_of_le (h.bounded g hg)
  · rw [hgenerations]
    intro g hg
    have hlast : (s.perform (.submit session parent prompt)).2.tracker.lastGeneration =
        s.tracker.lastGeneration + 1 := by simp only [perform, hsubmit]
    rw [hlast]
    rcases List.mem_append.mp hg with hold | hnew
    · exact Nat.le_succ_of_le (h.bounded g hold)
    · exact Nat.le_of_eq (List.mem_singleton.mp hnew)

/-- **Every call keeps what is registered.** -/
theorem perform (h : Registered past s) (hc : c.Admissible s) :
    Registered (past ++ [(c, (s.perform c).1)]) (s.perform c).2 := by
  cases c with
  | submit session parent prompt =>
    cases hturn : s.tracker.turnOf? session with
    | none => exact h.start hturn hc
    | some turn =>
      have hsubmit := Tracker.submit_of_busy s.tokens parent prompt hturn
      rw [TrackerState.perform, hsubmit]
      exact h.keep _ rfl (.inl rfl) rfl h.ordered fun _ _ _ _ => rfl
  | finish session g =>
    have hactive := s.tracker.active_finish session g
    refine h.keep _ rfl ?_ ?_ h.ordered fun _ _ _ _ => rfl
    · simp only [TrackerState.perform, hactive]
      split
      · exact .inr ⟨session, rfl⟩
      · exact .inl rfl
    · simp only [TrackerState.perform, Tracker.finish]
      split <;> rfl
  | finishOrTake session g =>
    have hactive := s.tracker.active_finishOrTake session g
    refine h.keep _ rfl ?_ ?_ h.ordered fun _ _ _ _ => rfl
    · simp only [TrackerState.perform, hactive]
      split
      · exact .inr ⟨session, rfl⟩
      · exact .inl rfl
    · simp only [TrackerState.perform, Tracker.finishOrTake]
      split
      · split <;> rfl
      · rfl
  | cancel session =>
    cases hturn : s.tracker.turnOf? session with
    | none =>
      rw [TrackerState.perform, Tracker.cancel, hturn]
      exact h.keep _ rfl (.inl rfl) rfl h.ordered fun _ _ _ _ => rfl
    | some own =>
      have hgone : (s.tracker.cancel s.tokens session).1.turnOf? session = none := by
        simp [Tracker.turnOf?_cancel]
      rw [Tracker.cancel, hturn] at hgone
      rw [TrackerState.perform, Tracker.cancel, hturn]
      refine h.keep _ rfl (.inr ⟨session, rfl⟩) rfl
        (TokenTree.ordered_cancel h.ordered own.token) ?_
      intro other turn hafter hbefore
      refine TokenTree.nodes_cancel_of_ne fun hsame => ?_
      obtain rfl := h.distinct session other own turn hturn hbefore hsame
      cases hafter.symm.trans hgone
  | clearQueue session | drain session =>
    exact h.keep _ rfl (.inl rfl) rfl h.ordered fun _ _ _ _ => rfl
  | forkToken parent =>
    refine h.keep _ rfl (.inl rfl) rfl (TokenTree.ordered_fork h.ordered hc) ?_
    intro session turn _ hbefore
    exact TokenTree.nodes_fork_of_lt (h.token_lt hbefore) parent
  | cancelToken token =>
    refine h.keep _ rfl (.inl rfl) rfl (TokenTree.ordered_cancel h.ordered token) ?_
    intro session turn _ hbefore
    exact TokenTree.nodes_cancel_of_ne (hc _ (Table.mem_of_get? hbefore)).symm

theorem run (h : Registered past s) {calls : List TrackerCall} (hc : s.Admits calls) :
    Registered (past ++ s.history calls) (s.run calls) := by
  induction calls generalizing past s with
  | nil => simpa [history, TrackerState.run] using h
  | cons c calls ih =>
    have hrest := ih (h.perform hc.1) hc.2
    rwa [List.append_assoc] at hrest

end Registered

/-! ## One call -/

/-- Whatever is called, no token that was there is lost, and none that was canceled is restored. -/
theorem later_perform (s : TrackerState) (c : TrackerCall) :
    s.tokens.Later (s.perform c).2.tokens := by
  cases c with
  | submit session parent prompt => exact s.tracker.later_submit s.tokens session parent prompt
  | cancel session => exact s.tracker.later_cancelTurn s.tokens session
  | forkToken parent => exact s.tokens.later_fork parent
  | cancelToken token => exact s.tokens.later_cancel token
  | finish _ _ | finishOrTake _ _ | clearQueue _ | drain _ => exact .refl s.tokens

theorem later_run (s : TrackerState) (calls : List TrackerCall) :
    s.tokens.Later (s.run calls).tokens := by
  induction calls generalizing s with
  | nil => exact .refl s.tokens
  | cons c calls ih => exact (s.later_perform c).trans (ih (s.perform c).2)

/-- Canceling a session cancels the token of its turn. -/
theorem isCanceled_perform_cancel {session : String} {turn : ActiveTurn}
    (hturn : s.tracker.turnOf? session = some turn)
    (hlt : turn.token < s.tokens.nodes.length) (hordered : s.tokens.Ordered) :
    (s.perform (.cancel session)).2.tokens.isCanceled turn.token := by
  have htokens : (s.perform (.cancel session)).2.tokens = s.tokens.cancel turn.token := by
    rw [perform, Tracker.cancel, hturn]
  rw [htokens]
  exact (TokenTree.isCanceled_cancel hordered hlt).mpr (.inr .self)

/-- A turn leaves by its own last call, or it is canceled. -/
theorem eq_of_turnOf?_perform_ne {session : String} {turn : ActiveTurn}
    (hturn : s.tracker.turnOf? session = some turn)
    (hleft : (s.perform c).2.tracker.turnOf? session ≠ some turn) :
    c = .finish session turn.generation ∨ c = .finishOrTake session turn.generation ∨
      c = .cancel session := by
  have howns : ∀ g, s.tracker.owns session g → g = turn.generation := by
    intro g ho
    obtain ⟨turn', hturn', rfl⟩ := Tracker.owns_iff.mp ho
    rw [Option.some.inj (hturn'.symm.trans hturn)]
  cases c with
  | submit session' parent prompt =>
    rw [perform, Tracker.turnOf?_submit] at hleft
    split at hleft
    · rename_i h
      obtain rfl := h.2
      cases hturn.symm.trans (Tracker.isSessionBusy_eq_false.mp h.1)
    · exact absurd hturn hleft
  | finish session' g =>
    rw [perform, Tracker.turnOf?_finish] at hleft
    split at hleft
    · rename_i h
      obtain rfl := h.2
      exact .inl (howns g h.1 ▸ rfl)
    · exact absurd hturn hleft
  | finishOrTake session' g =>
    rw [perform, Tracker.turnOf?_finishOrTake] at hleft
    split at hleft
    · rename_i h
      obtain rfl := h.2.2
      exact .inr (.inl (howns g h.1 ▸ rfl))
    · exact absurd hturn hleft
  | cancel session' =>
    rw [perform, Tracker.turnOf?_cancel] at hleft
    split at hleft
    · rename_i h
      exact .inr (.inr (h ▸ rfl))
    · exact absurd hturn hleft
  | clearQueue _ | drain _ | forkToken _ | cancelToken _ => exact absurd hturn hleft

/-- A call about one session leaves the entry and the queue of every other session. -/
theorem perform_of_ne {session other : String} (hc : c.session? = some session)
    (hne : other ≠ session) :
    (s.perform c).2.tracker.turnOf? other = s.tracker.turnOf? other ∧
      (s.perform c).2.tracker.queueOf other = s.tracker.queueOf other := by
  cases c <;> cases hc <;>
    simp [perform, Tracker.turnOf?_submit, Tracker.queueOf_submit, Tracker.turnOf?_finish,
      Tracker.turnOf?_finishOrTake, Tracker.queueOf_finishOrTake, Tracker.turnOf?_cancel,
      Tracker.queueOf_cancel, Tracker.drain, hne]

/-- The tokens are changed by a call about a session only if a turn starts in it or is canceled. -/
theorem tokens_perform (s : TrackerState) {session : String} (hc : c.session? = some session) :
    ((s.perform c).2.tokens = s.tokens ∧
      (c = .cancel session → s.tracker.turnOf? session = none)) ∨
    (∃ parent prompt, c = .submit session parent prompt ∧
      (s.perform c).2.tokens = (s.tokens.fork (some parent)).2) ∨
    (∃ own, c = .cancel session ∧ s.tracker.turnOf? session = some own ∧
      (s.perform c).2.tokens = s.tokens.cancel own.token) := by
  cases c <;> cases hc
  case submit parent prompt =>
    cases hturn : s.tracker.turnOf? session with
    | none =>
      refine .inr (.inl ⟨parent, prompt, rfl, ?_⟩)
      rw [perform, Tracker.submit_of_idle s.tokens parent prompt hturn]
    | some turn =>
      refine .inl ⟨?_, nofun⟩
      rw [perform, Tracker.submit_of_busy s.tokens parent prompt hturn]
  case cancel =>
    rw [perform, Tracker.cancel]
    cases hturn : s.tracker.turnOf? session with
    | none => exact .inl ⟨rfl, fun _ => rfl⟩
    | some own => exact .inr (.inr ⟨own, rfl, rfl, rfl⟩)
  all_goals exact .inl ⟨rfl, nofun⟩

namespace Registered

/-- **A call about one session does nothing to the token of another one.** Such a token is canceled
in the call only along with its parent: if the parent is, or descends from, the token of a turn that
is canceled. -/
theorem token_perform (h : Registered past s) (hc : c.Admissible s) {session other : String}
    (hsession : c.session? = some session) (hne : other ≠ session) {turn : ActiveTurn}
    (hturn : s.tracker.turnOf? other = some turn) {parent : TokenId}
    (hnode : s.tokens.nodes[turn.token]? = some ⟨some parent, false⟩) :
    (s.perform c).2.tokens.nodes[turn.token]? = some ⟨some parent, false⟩ ∧
      ((s.perform c).2.tokens.isCanceled turn.token ↔ s.tokens.isCanceled turn.token ∨
        ∃ own, c = .cancel session ∧ s.tracker.turnOf? session = some own ∧
          s.tokens.Below own.token parent) := by
  have hlt : turn.token < s.tokens.nodes.length := h.token_lt hturn
  rcases s.tokens_perform hsession with ⟨hsame, hidle⟩ | ⟨parent', prompt, rfl, hfork⟩ |
    ⟨own, rfl, hown, hcancel⟩
  · rw [hsame]
    refine ⟨hnode, .inl, ?_⟩
    rintro (hbefore | ⟨own, rfl, hown, -⟩)
    · exact hbefore
    · cases (hidle rfl).symm.trans hown
  · have hparent : ∀ p ∈ some parent', p < s.tokens.nodes.length := by
      rintro p ⟨⟩
      exact hc
    rw [hfork, TokenTree.nodes_fork_of_lt hlt, TokenTree.isCanceled_fork h.ordered hparent hlt]
    exact ⟨hnode, by simp⟩
  · have hdistinct : own.token ≠ turn.token := fun hsame =>
      hne (h.distinct session other own turn hown hturn hsame).symm
    rw [hcancel, TokenTree.nodes_cancel_of_ne hdistinct,
      TokenTree.isCanceled_cancel h.ordered (h.token_lt hown), TokenTree.below_iff_of_node hnode]
    exact ⟨hnode, by simp [hown, hdistinct]⟩

end Registered

/-- What the calls so far have established, and what that means for the next call: the turn of a
session keeps the session for itself until it leaves or is canceled. -/
structure Ownership (past : List (TrackerCall × TrackerReply)) (s : TrackerState) : Prop where
  /-- A session has one entry at most. -/
  single : s.tracker.active.keys.Nodup
  /-- Generations are handed out in increasing order, whatever session they are for. -/
  increasing : (past.filterMap generationOf?).Pairwise (· < ·)
  /-- A prompt starts a turn, which is then registered, if no turn is. -/
  started : ∀ session parent prompt,
    (∃ turn, (s.perform (.submit session parent prompt)).1 = .admission (.started turn) ∧
      (s.perform (.submit session parent prompt)).2.tracker.turnOf? session = some turn) ↔
        s.tracker.turnOf? session = none
  /-- A prompt is queued otherwise. -/
  queued : ∀ session parent prompt,
    (s.perform (.submit session parent prompt)).1 = .admission .queued ↔
      s.tracker.turnOf? session ≠ none
  /-- A turn that is not registered can remove and take nothing. -/
  stale : ∀ session g, (∀ turn, s.tracker.turnOf? session = some turn → turn.generation ≠ g) →
    s.perform (.finish session g) = (.removed false, s) ∧
      s.perform (.finishOrTake session g) = (.prompts [], s)
  /-- A turn leaves by its own last call, or it is canceled. -/
  leaving : ∀ c session turn, s.tracker.turnOf? session = some turn →
    (s.perform c).2.tracker.turnOf? session ≠ some turn →
      c = .finish session turn.generation ∨ c = .finishOrTake session turn.generation ∨
        c = .cancel session
  /-- The token of a registered turn is canceled exactly if its parent is. -/
  token : ∀ session turn, s.tracker.turnOf? session = some turn → ∃ parent prompt,
    (.submit session parent prompt, .admission (.started turn)) ∈ past ∧
      (s.tokens.isCanceled turn.token ↔ s.tokens.isCanceled parent)
  /-- A turn that is canceled is removed; its token stays canceled whatever is called later. -/
  canceled : ∀ session turn, s.tracker.turnOf? session = some turn →
    (s.perform (.cancel session)).2.tracker.turnOf? session = none ∧
      ∀ more, ((s.perform (.cancel session)).2.run more).tokens.isCanceled turn.token
  /-- A call about one session leaves the entries and queues of the others. -/
  apart : ∀ c session other, c.session? = some session → other ≠ session →
    (s.perform c).2.tracker.turnOf? other = s.tracker.turnOf? other ∧
      (s.perform c).2.tracker.queueOf other = s.tracker.queueOf other
  /-- It leaves their tokens, too: one is canceled only along with its parent, if that descends from
  the token of the turn that the call cancels. -/
  untouched : ∀ c session other turn, c.Admissible s → c.session? = some session →
    other ≠ session → s.tracker.turnOf? other = some turn → ∃ parent,
      s.tokens.nodes[turn.token]? = some ⟨some parent, false⟩ ∧
      (s.perform c).2.tokens.nodes[turn.token]? = some ⟨some parent, false⟩ ∧
      ((s.perform c).2.tokens.isCanceled turn.token ↔ s.tokens.isCanceled turn.token ∨
        ∃ own, c = .cancel session ∧ s.tracker.turnOf? session = some own ∧
          s.tokens.Below own.token parent)

theorem Registered.ownership (h : Registered past s) : Ownership past s where
  single := h.single
  increasing := h.increasing
  started session parent prompt := by
    cases hturn : s.tracker.turnOf? session with
    | none =>
      rw [TrackerState.perform, Tracker.submit_of_idle s.tokens parent prompt hturn]
      simp [Tracker.turnOf?]
    | some turn =>
      rw [TrackerState.perform, Tracker.submit_of_busy s.tokens parent prompt hturn]
      simp
  queued session parent prompt := by
    cases hturn : s.tracker.turnOf? session with
    | none =>
      rw [TrackerState.perform, Tracker.submit_of_idle s.tokens parent prompt hturn]
      simp
    | some turn =>
      rw [TrackerState.perform, Tracker.submit_of_busy s.tokens parent prompt hturn]
      simp
  stale session g hstale := by
    have howns : s.tracker.owns session g = false := by
      rw [Bool.eq_false_iff, ne_eq, Tracker.owns_iff]
      rintro ⟨turn, hturn, hg⟩
      exact hstale turn hturn hg
    simp [TrackerState.perform, Tracker.finish, Tracker.finishOrTake, howns]
  leaving _ _ _ hturn hleft := eq_of_turnOf?_perform_ne hturn hleft
  token session turn hturn := by
    obtain ⟨parent, prompt, hin, hnode⟩ := h.begun session turn hturn
    exact ⟨parent, prompt, hin, TokenTree.isCanceled_iff_parent h.ordered hnode⟩
  canceled session turn hturn :=
    ⟨(s.tracker.turnOf?_cancel s.tokens session session).trans (if_pos rfl), fun more =>
      (later_run _ more).isCanceled
        (isCanceled_perform_cancel hturn (h.token_lt hturn) h.ordered)⟩
  apart _ _ _ hsession hne := perform_of_ne hsession hne
  untouched c session other turn hc hsession hne hturn := by
    obtain ⟨parent, -, -, hnode⟩ := h.begun other turn hturn
    exact ⟨parent, hnode, h.token_perform hc hsession hne hturn hnode⟩

/-- **Sessions are owned.** Whatever calls are made of a fresh tracker, in whatever order, and mixed
with cancellations of parents, each session belongs to one turn until that turn leaves. -/
theorem ownership_run {calls : List TrackerCall} (h : fresh.Admits calls) :
    Ownership (fresh.history calls) (fresh.run calls) :=
  (registered_fresh.run h).ownership

/-- A session is canceled and starts again while the turn it lost keeps calling; the parent of
another session is canceled as well. -/
def replayedCalls : List TrackerCall :=
  [.forkToken none, .submit "a" 0 "first", .submit "a" 0 "second", .submit "b" 0 "other",
    .forkToken none, .cancel "a", .submit "a" 3 "third", .finish "a" 1, .cancelToken 0,
    .finishOrTake "a" 1]

theorem ownership_replayedCalls : fresh.Admits replayedCalls ∧
    Ownership (fresh.history replayedCalls) (fresh.run replayedCalls) ∧
    (fresh.run replayedCalls).tracker.active = [("b", ⟨2, 2⟩), ("a", ⟨4, 3⟩)] :=
  ⟨by decide, ownership_run (by decide), by decide⟩

end TrackerState

end AgentDesk
