import AgentDesk.Proofs.Store.DatabaseAgreement
import AgentDesk.Proofs.Store.MemoryAgreement
/-!
# Stores are interchangeable

A client cannot tell the store in memory from a database: from the start on, both answer and
announce what the plain store does.
-/

namespace AgentDesk

variable {script : List (Timestamp × ClientCall)}

/-- A client sees of an empty store what it sees of the plain store that the store implements. -/
theorem run_of_implements {backend : Backend σ} {shows : σ → PlainStore → Prop} {empty : σ}
    (himplements : Implements backend shows) (hempty : shows empty .empty)
    (h : Lawful [] [] script) : (Client.new empty).run backend script =
      (Client.new PlainStore.empty).run PlainStore.answer script :=
  Client.run_eq himplements ⟨hempty, rfl, rfl⟩ Client.holds_new h

/-- **The stores are interchangeable.** Whatever a client does with sessions and messages that it
was given, it sees the same results, failures and announcements of either store, and they are those
of the plain store. -/
theorem run_interchangeable (h : Lawful [] [] script) :
    (Client.new MemoryStore.empty).run MemoryStore.answer script =
        (Client.new PlainStore.empty).run PlainStore.answer script ∧
      (Client.new Database.empty).run Database.answer script =
        (Client.new PlainStore.empty).run PlainStore.answer script :=
  ⟨run_of_implements MemoryStore.implements MemoryStore.shows_empty h,
    run_of_implements Database.implements Database.shows_empty h⟩

/-- A session is created, given a message, renamed and charged; its message is changed, another one
that does not exist is not, and the sessions are listed before and after the message is removed. -/
def sampleScript : List (Timestamp × ClientCall) :=
  let noon : Timestamp := ⟨2025, 6, 1, 12, 0, 0, 0⟩
  let later : Timestamp := ⟨2025, 6, 1, 12, 0, 0, 500000000⟩
  [(noon, .createSession "s" "Draft"), (noon, .openTask "t" "s" "Task"),
    (noon, .createMessage "m" "s" ⟨.assistant, [.finish ⟨.endTurn, "", "", noon⟩], none, none⟩),
    (later, .saveSession 0 { title := some "Plan", promptTokens := some 7, cost := some 0.5 }),
    (later, .updateMessage 0 { parts := some [.text "Hello"], model := some (some "model") }),
    (later, .updateUnknown ⟨"x", "s", .user, [], none, none, noon, noon⟩),
    (later, .listSessions), (later, .deleteMessages "s"), (later, .listSessions)]

theorem lawful_sampleScript : Lawful [] [] sampleScript := by
  have hnoon : Timestamp.FourDigit ⟨2025, 6, 1, 12, 0, 0, 0⟩ := ⟨by decide, by decide, by decide⟩
  have hlater : Timestamp.FourDigit ⟨2025, 6, 1, 12, 0, 0, 500000000⟩ :=
    ⟨by decide, by decide, by decide⟩
  have hedit : SessionEdit.Countable
      { title := some "Plan", promptTokens := some 7, cost := some 0.5 } := by
    refine ⟨fun n hn => ?_, (fun n hn => by cases hn), fun x hx => ?_⟩
    · exact Option.some.inj hn ▸ by decide
    · exact Option.some.inj hx ▸ by decide +kernel
  have hdraft : ∀ p ∈ [Part.finish ⟨.endTurn, "", "", ⟨2025, 6, 1, 12, 0, 0, 0⟩⟩], p.Timed :=
    List.forall_mem_singleton.mpr hnoon.valid
  have hparts : ∀ parts ∈ some [Part.text "Hello"], ∀ p ∈ parts, p.Timed := by
    intro parts hparts
    exact Option.some.inj hparts ▸ List.forall_mem_singleton.mpr trivial
  exact ⟨hnoon, List.not_mem_nil, hnoon, trivial, hnoon, ⟨List.not_mem_nil, hdraft⟩, hlater, hedit,
    hlater, hparts, hlater, show "x" ∉ ["m"] by decide, hlater, trivial, hlater, trivial, hlater,
    trivial, trivial⟩

theorem run_interchangeable_sampleScript : Lawful [] [] sampleScript ∧
    (Client.new MemoryStore.empty).run MemoryStore.answer sampleScript =
        (Client.new PlainStore.empty).run PlainStore.answer sampleScript ∧
      (Client.new Database.empty).run Database.answer sampleScript =
        (Client.new PlainStore.empty).run PlainStore.answer sampleScript :=
  ⟨lawful_sampleScript, run_interchangeable lawful_sampleScript⟩

end AgentDesk
