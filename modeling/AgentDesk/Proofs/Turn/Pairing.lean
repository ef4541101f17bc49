import AgentDesk.Proofs.Message.Parts
import Mathlib.Data.List.Chain
/-!
# Calls and their results in a list of messages

A message of the assistant asks for its tool calls, and a message of a tool answers it. In a list of
messages that is well paired, whatever asks is directly followed by its answer, and nothing else is
an answer. A turn may slip: it may follow a message that asks by a prompt of the user.

## Main definitions

* `Message.asks`, `Message.answers`, `Message.Precedes`, `Message.Slips`.
* `Paired` — every call has its results right behind it, and every result its call before it.
* `Told` — the same, but for slips.
* `rewrite` — a list of messages in which one is replaced by a newer version.
-/

namespace AgentDesk

namespace Message

/-- Whether a message calls for tools. -/
def asks (m : Message) : Prop := m.role = .assistant ∧ m.toolCalls ≠ []

/-- Whether a message holds one result for each call of another one, in the same order. -/
def answers (t m : Message) : Prop :=
  t.role = .tool ∧ t.toolResults.map (·.callId) = m.callIds

/-- Whether a message may directly follow another one. -/
def Precedes (m t : Message) : Prop := (m.asks → t.answers m) ∧ (t.role = .tool → m.asks)

/-- A message that asks is closed as if nothing was left to do, and a prompt follows it. -/
def Slips (m u : Message) : Prop :=
  m.asks ∧ m.finishReason? = some .endTurn ∧ u.role = .user

namespace Alike

variable {m m' t t' : Message}

theorem asks_iff (h : Alike m m') : m.asks ↔ m'.asks := by
  rw [asks, asks, ne_eq, ne_eq, ← callIds_eq_nil, ← callIds_eq_nil, h.role, h.callIds]

theorem answers_iff (h : Alike m m') (ht : Alike t t') : t.answers m ↔ t'.answers m' := by
  unfold answers
  rw [← ht.role, ← h.callIds]
  exact and_congr_right fun htool => by rw [ht.answered htool]

theorem precedes_iff (h : Alike m m') (ht : Alike t t') : m.Precedes t ↔ m'.Precedes t' := by
  unfold Precedes
  rw [h.asks_iff, h.answers_iff ht, ht.role]

end Alike

/-- What does not ask may be followed by anything but an answer. -/
theorem precedes_of_not_asks {m t : Message} (hm : ¬ m.asks) (ht : t.role ≠ .tool) :
    m.Precedes t := ⟨fun h => absurd h hm, fun h => absurd h ht⟩

theorem precedes_of_answers {m t : Message} (hm : m.asks) (ht : t.answers m) : m.Precedes t :=
  ⟨fun _ => ht, fun _ => hm⟩

/-- A message that slips is not followed by its answer. -/
theorem Slips.not_precedes {m u : Message} (h : Slips m u) : ¬ m.Precedes u := by
  intro hp
  have hanswer := hp.1 h.1
  simp [answers, h.2.2] at hanswer

end Message

/-! ## Lists of messages -/

/-- Neighbours are related, the first message is no answer, and the last one does not ask. -/
structure Linked (R : Message → Message → Prop) (ms : List Message) : Prop where
  chain : ms.IsChain R
  first : ∀ t ∈ ms.head?, t.role ≠ .tool
  last : ∀ m ∈ ms.getLast?, ¬ m.asks

/-- Every message that asks is directly followed by its answer, and every message of a tool directly
follows a message that asks. -/
abbrev Paired : List Message → Prop := Linked Message.Precedes

/-- Well paired, but for slips. -/
abbrev Told : List Message → Prop := Linked fun m t => m.Precedes t ∨ m.Slips t

namespace Linked

variable {R S : Message → Message → Prop} {as bs : List Message}

theorem nil : Linked R [] := ⟨.nil, by simp, by simp⟩

theorem imp (himp : ∀ m t, R m t → S m t) (h : Linked R as) : Linked S as :=
  ⟨h.chain.imp himp, h.first, h.last⟩

/-- One list behind another: what does not ask may be followed by what is no answer. -/
theorem append (hR : ∀ m t, m.Precedes t → R m t) (ha : Linked R as) (hb : Linked R bs) :
    Linked R (as ++ bs) := by
  refine ⟨List.isChain_append.mpr ⟨ha.chain, hb.chain, fun x hx y hy =>
    hR x y (Message.precedes_of_not_asks (ha.last x hx) (hb.first y hy))⟩, ?_, ?_⟩
  · intro t ht
    cases as with
    | nil => exact hb.first t ht
    | cons a as => exact ha.first t ht
  · intro m hm
    rw [List.getLast?_append] at hm
    cases hlast : bs.getLast? with
    | none => exact ha.last m (by simpa [hlast] using hm)
    | some b => exact hb.last m (by simpa [hlast] using hm)

/-- A message that neither asks nor answers stands alone. -/
theorem plain {m : Message} (hasks : ¬ m.asks) (hrole : m.role ≠ .tool) : Linked R [m] :=
  ⟨.singleton m, by simpa using hrole, by simpa using hasks⟩

/-- A message that asks stands with its answer. -/
theorem exchange {m t : Message} (hR : R m t) (hm : m.role ≠ .tool) (ht : t.role = .tool) :
    Linked R [m, t] := by
  refine ⟨List.isChain_pair.mpr hR, by simpa using hm, ?_⟩
  simp [Message.asks, ht]

end Linked

theorem Paired.append {as bs : List Message} (ha : Paired as) (hb : Paired bs) :
    Paired (as ++ bs) := Linked.append (fun _ _ h => h) ha hb

theorem Told.append {as bs : List Message} (ha : Told as) (hb : Told bs) : Told (as ++ bs) :=
  Linked.append (fun _ _ h => .inl h) ha hb

theorem Paired.told {as : List Message} (h : Paired as) : Told as :=
  Linked.imp (fun _ _ h => .inl h) h

/-- What is told is well paired exactly if it holds no slip. -/
theorem Told.paired_iff {as : List Message} (h : Told as) :
    Paired as ↔ as.IsChain fun m u => ¬ m.Slips u := by
  constructor
  · intro hp
    exact hp.chain.imp fun m u hprec hslip => hslip.not_precedes hprec
  · intro hs
    refine ⟨?_, h.first, h.last⟩
    rw [List.isChain_iff_forall_rel_of_append_cons_cons] at hs ⊢
    intro m u before behind heq
    exact (List.isChain_iff_forall_rel_of_append_cons_cons.mp h.chain heq).resolve_right (hs heq)

/-- A prompt may follow what is told, and also a message that ends a turn. -/
theorem Told.append_user {as : List Message} {m u : Message} (h : Told as)
    (hm : m.role = .assistant) (hend : m.finishReason? = some .endTurn) (hu : u.role = .user) :
    Told (as ++ [m] ++ [u]) := by
  have hnot : u.role ≠ .tool := by simp [hu]
  have htail : Told [m, u] := by
    refine ⟨List.isChain_pair.mpr ?_, by simp [hm], by simp [Message.asks, hu]⟩
    by_cases hasks : m.asks
    · exact .inr ⟨hasks, hend, hu⟩
    · exact .inl (Message.precedes_of_not_asks hasks hnot)
  simpa using h.append htail

/-! ## Newer versions of messages -/

/-- The list in which a message takes the place of the one with its identifier. -/
def rewrite (m : Message) (ms : List Message) : List Message :=
  ms.map fun x => if x.id == m.id then m else x

@[simp] theorem rewrite_append (m : Message) (as bs : List Message) :
    rewrite m (as ++ bs) = rewrite m as ++ rewrite m bs := List.map_append

theorem rewrite_of_ne {m : Message} {as : List Message} (h : ∀ x ∈ as, x.id ≠ m.id) :
    rewrite m as = as := by
  refine (List.map_congr_left fun x hx => ?_).trans (List.map_id as)
  simp [h x hx]

theorem rewrite_singleton {m x : Message} (h : x.id = m.id) : rewrite m [x] = [m] := by
  simp [rewrite, h]

/-- Versions that are like those before leave calls and results as they were. -/
theorem Paired.map {f : Message → Message} {as : List Message}
    (alike : ∀ x ∈ as, Message.Alike x (f x)) (h : Paired as) : Paired (as.map f) := by
  refine ⟨?_, ?_, ?_⟩
  · rw [List.isChain_map]
    exact h.chain.imp_of_mem_imp fun m t hm ht hmt =>
      ((alike m hm).precedes_iff (alike t ht)).mp hmt
  · intro t ht
    rw [List.head?_map, Option.mem_def, Option.map_eq_some_iff] at ht
    obtain ⟨x, hx, rfl⟩ := ht
    exact (alike x (List.mem_of_mem_head? hx)).role ▸ h.first x hx
  · intro m hm
    rw [List.getLast?_map, Option.mem_def, Option.map_eq_some_iff] at hm
    obtain ⟨x, hx, rfl⟩ := hm
    exact (alike x (List.mem_of_mem_getLast? hx)).asks_iff.not.mp (h.last x hx)

theorem Paired.rewrite {m : Message} {as : List Message}
    (alike : ∀ x ∈ as, x.id = m.id → Message.Alike x m) (h : Paired as) :
    Paired (rewrite m as) := by
  refine h.map fun x hx => ?_
  by_cases hid : x.id = m.id
  · simpa [hid] using alike x hx hid
  · simpa [hid] using Message.Alike.refl x

end AgentDesk
