import AgentDesk.Proofs.Store.Accounts
import AgentDesk.Proofs.Turn.Billing
import Mathlib.Algebra.Order.BigOperators.Group.List
/-!
# A row that is charged in two steps

A turn charges its session for an answer in two steps: it reads the row of the session, and then it
writes the row with the answer in it. If another turn writes the row in between, what that turn has
charged is not in the row any more.

The ledger of a row says what becomes of the answers. It is kept in the order in which the turns get
at the row, and it knows nothing else of them. The answers that are charged and those that the row
keeps are the same iff each turn finds the row, when it writes it, as it was when the turn read it.

## Main definitions

* `Charge` — an answer that a session is charged for.
* `Account.behind`, `Accrued` — an account behind some charges.
* `LedgerEntry` — what a turn does about the row of its session.
* `Serial` — nobody writes the row between the two steps of a charge.
* `Ledger`, `Ledger.enter` — what becomes of the answers; `Ledger.Sound` — what is true of all
  ledgers.
-/

namespace AgentDesk

/-- An answer that a session is charged for: the turn that got it, its tokens and its cost. -/
structure Charge where
  turn : Nat
  tokens : Tokens
  cost : Float
deriving DecidableEq

namespace Charge

/-- The charge for an answer of a model. -/
def of (turn : Nat) (m : Model) (tokens : Tokens) : Charge :=
  ⟨turn, tokens, Usage.completionCost m tokens⟩

/-- The tokens of the prompt, those that were put into the cache among them. -/
def prompt (c : Charge) : Nat := c.tokens.input + c.tokens.cacheWrite

/-- The tokens of the completion, and those that were read from the cache. -/
def completion (c : Charge) : Nat := c.tokens.output + c.tokens.cacheRead

end Charge

/-! ## Accounts behind charges -/

/-- An account behind some charges. -/
def Account.behind (a : Account) (charges : List Charge) : Account :=
  { a with
    promptTokens := a.promptTokens + (charges.map Charge.prompt).sum
    completionTokens := a.completionTokens + (charges.map Charge.completion).sum
    cost := addAll a.cost (charges.map Charge.cost) }

theorem Account.behind_snoc (a : Account) (charges : List Charge) (i : Nat) (m : Model)
    (t : Tokens) : a.behind (charges ++ [Charge.of i m t]) = (a.behind charges).accrued m [t] := by
  simp [Account.behind, Account.accrued, Charge.of, Charge.prompt, Charge.completion, addAll_append,
    Nat.add_assoc]

/-- An account has grown by some charges: by their tokens and their costs and by nothing else. Where
no addition of costs rounds, the cost is the exact sum. -/
structure Accrued (charges : List Charge) (before behind : Account) : Prop where
  prompt : behind.promptTokens = before.promptTokens + (charges.map Charge.prompt).sum
  completion : behind.completionTokens =
    before.completionTokens + (charges.map Charge.completion).sum
  cost : AlikeFloat behind.cost (addAll before.cost (charges.map Charge.cost))
  exactCost : AddsExactly before.cost (charges.map Charge.cost) →
    exactValue behind.cost = exactValue before.cost + (charges.map fun c => exactValue c.cost).sum
  parent : behind.parent = before.parent
  title : behind.title = before.title
  summary : behind.summary = before.summary

theorem Accrued.of_alike {charges : List Charge} {before behind : Account}
    (h : behind.Alike (before.behind charges)) : Accrued charges before behind := by
  obtain ⟨hsame, hcost⟩ := h
  have hprompt := congrArg Account.promptTokens hsame
  have hcompletion := congrArg Account.completionTokens hsame
  have hparent := congrArg Account.parent hsame
  have htitle := congrArg Account.title hsame
  have hsummary := congrArg Account.summary hsame
  refine ⟨hprompt, hcompletion, hcost, fun hexact => ?_, hparent, htitle, hsummary⟩
  rw [hcost.exactValue_eq, Account.behind, exactValue_addAll hexact, List.map_map]
  rfl

/-- Where an account has kept some charges and lost others, its tokens have grown by all of them iff
the lost ones have none. -/
theorem Accrued.tokens_iff {charges kept lost : List Charge} {before behind : Account}
    (h : Accrued kept before behind) (hperm : charges.Perm (kept ++ lost)) :
    behind.promptTokens = before.promptTokens + (charges.map Charge.prompt).sum ∧
        behind.completionTokens = before.completionTokens + (charges.map Charge.completion).sum ↔
      ∀ c ∈ lost, c.prompt = 0 ∧ c.completion = 0 := by
  rw [h.prompt, h.completion, (hperm.map Charge.prompt).sum_eq,
    (hperm.map Charge.completion).sum_eq]
  simp only [List.map_append, List.sum_append, ← Nat.add_assoc, Nat.left_eq_add,
    List.sum_eq_zero_iff, List.forall_mem_map]
  exact ⟨fun h c hc => ⟨h.1 c hc, h.2 c hc⟩,
    fun h => ⟨fun c hc => (h c hc).1, fun c hc => (h c hc).2⟩⟩

/-- Where no addition rounds, its cost has grown by all of them iff the lost ones were for free. -/
theorem Accrued.cost_iff {charges kept lost : List Charge} {before behind : Account}
    (h : Accrued kept before behind) (hperm : charges.Perm (kept ++ lost))
    (hexact : AddsExactly before.cost (kept.map Charge.cost)) :
    exactValue behind.cost =
        exactValue before.cost + (charges.map fun c => exactValue c.cost).sum ↔
      (lost.map fun c => exactValue c.cost).sum = 0 := by
  rw [h.exactCost hexact, (hperm.map fun c => exactValue c.cost).sum_eq, List.map_append,
    List.sum_append, ← add_assoc, left_eq_add]

/-! ## What turns do about the row of a session -/

/-- What a turn does about the row of its session. -/
inductive LedgerEntry where
  /-- It gets an answer. -/
  | answers (charge : Charge)
  /-- It reads the row. -/
  | reads (turn : Nat)
  /-- It writes the row. -/
  | writes (turn : Nat)

namespace LedgerEntry

/-- The turn that does it. -/
def turn : LedgerEntry → Nat
  | answers c => c.turn
  | reads i | writes i => i

/-- The answer that a turn gets. -/
def charge? : LedgerEntry → Option Charge
  | answers c => some c
  | reads _ | writes _ => none

end LedgerEntry

/-- Nobody writes the row between the two steps of a charge: whoever writes it is among those that
have read it since it was last written. -/
def Serial : List Nat → List LedgerEntry → Prop
  | _, [] => True
  | fresh, .answers _ :: es => Serial fresh es
  | fresh, .reads i :: es => Serial (i :: fresh) es
  | fresh, .writes i :: es => i ∈ fresh ∧ Serial [] es

instance decidableSerial : (fresh : List Nat) → (es : List LedgerEntry) →
    Decidable (Serial fresh es)
  | _, [] => isTrue trivial
  | fresh, .answers _ :: es => decidableSerial fresh es
  | fresh, .reads i :: es => decidableSerial (i :: fresh) es
  | fresh, .writes i :: es =>
    have := decidableSerial [] es
    inferInstanceAs (Decidable (i ∈ fresh ∧ Serial [] es))

/-- What becomes of the answers of a session. -/
structure Ledger where
  /-- The answers that the turns got. -/
  answered : List Charge
  /-- The answers that were charged. -/
  made : List Charge
  /-- The answers that the row has in it. -/
  kept : List Charge
  /-- The answer that a turn has still to charge. -/
  owed : Nat → Option Charge
  /-- The answers in the row as a turn has read it, if it has not written it since. -/
  drawn : Nat → Option (List Charge)
  /-- The turns that have read the row since it was last written. -/
  fresh : List Nat
  /-- Every turn that wrote the row has found it as it had read it. -/
  whole : Prop

namespace Ledger

/-- Nothing has happened yet. -/
def empty : Ledger := ⟨[], [], [], fun _ => none, fun _ => none, [], True⟩

/-- A turn does something about the row. What it writes is the row that it has read, with the answer
that it owes. -/
def enter (l : Ledger) : LedgerEntry → Ledger
  | .answers c =>
    { l with answered := l.answered ++ [c], owed := Function.update l.owed c.turn (some c) }
  | .reads i =>
    { l with drawn := Function.update l.drawn i (some l.kept), fresh := i :: l.fresh }
  | .writes i =>
    { l with
      made := l.made ++ (l.owed i).toList
      kept := (l.drawn i).getD l.kept ++ (l.owed i).toList
      owed := Function.update l.owed i none
      drawn := Function.update l.drawn i none
      fresh := []
      whole := l.whole ∧ i ∈ l.fresh }

/-- Turns do one thing after the other about the row. -/
def enterAll (l : Ledger) (es : List LedgerEntry) : Ledger := es.foldl enter l

/-- A turn charges an answer before it gets the next one, and it reads the row before it writes it.
-/
def Admits (l : Ledger) : LedgerEntry → Prop
  | .answers c => l.owed c.turn = none
  | .reads _ => True
  | .writes i => (∃ charges, l.drawn i = some charges) ∧ ∃ c, l.owed i = some c

/-- A ledger admits some entries, one after the other. -/
def AdmitsAll : Ledger → List LedgerEntry → Prop
  | _, [] => True
  | l, e :: es => l.Admits e ∧ AdmitsAll (l.enter e) es

/-- What is true of all ledgers: the row keeps some of the charges in their order, and all of them
iff every charge was made on the row as it stood. The same is true of what a turn has read. -/
structure Sound (l : Ledger) : Prop where
  kept : l.kept.Sublist l.made
  whole : l.kept = l.made ↔ l.whole
  drawn : ∀ (i : Nat) (charges : List Charge), l.drawn i = some charges →
    charges.Sublist l.made ∧ (charges = l.made ↔ l.whole ∧ i ∈ l.fresh)
  owed : ∀ (i : Nat) (c : Charge), l.owed i = some c → c.turn = i
  answered : ∀ i, l.answered.filter (·.turn == i) =
    l.made.filter (·.turn == i) ++ (l.owed i).toList

variable {l : Ledger} {e : LedgerEntry} {es : List LedgerEntry} {i : Nat} {c : Charge}

/-! ## One entry -/

@[simp] theorem owed_answers (l : Ledger) (c : Charge) :
    (l.enter (.answers c)).owed c.turn = some c := Function.update_self ..

@[simp] theorem drawn_reads (l : Ledger) (i : Nat) :
    (l.enter (.reads i)).drawn i = some l.kept := Function.update_self ..

@[simp] theorem owed_writes (l : Ledger) (i : Nat) : (l.enter (.writes i)).owed i = none :=
  Function.update_self ..

@[simp] theorem drawn_writes (l : Ledger) (i : Nat) : (l.enter (.writes i)).drawn i = none :=
  Function.update_self ..

/-- An entry leaves what other turns owe, and what they have read, as it is. -/
theorem enter_of_ne (l : Ledger) (h : e.turn ≠ i) :
    (l.enter e).owed i = l.owed i ∧ (l.enter e).drawn i = l.drawn i := by
  cases e with
  | answers c => exact ⟨Function.update_of_ne (Ne.symm h) _ _, rfl⟩
  | reads j => exact ⟨rfl, Function.update_of_ne (Ne.symm h) _ _⟩
  | writes j =>
    exact ⟨Function.update_of_ne (Ne.symm h) _ _, Function.update_of_ne (Ne.symm h) _ _⟩

theorem sound_empty : empty.Sound where
  kept := .slnil
  whole := iff_of_true rfl trivial
  drawn := by
    rintro i charges h
    cases h
  owed := by
    rintro i c h
    cases h
  answered _ := rfl

theorem Sound.answers (h : l.Sound) (howed : l.owed c.turn = none) :
    (l.enter (.answers c)).Sound where
  kept := h.kept
  whole := h.whole
  drawn := h.drawn
  owed := by
    intro i c' hc'
    by_cases hi : i = c.turn
    · subst hi
      rw [owed_answers] at hc'
      rw [Option.some.inj hc']
    · rw [(enter_of_ne l (Ne.symm hi)).1] at hc'
      exact h.owed i c' hc'
  answered := by
    intro i
    by_cases hi : i = c.turn
    · subst hi
      simp [enter, h.answered, howed]
    · simp [enter, h.answered, Function.update_of_ne hi, Ne.symm hi]

theorem Sound.reads (h : l.Sound) (i : Nat) : (l.enter (.reads i)).Sound where
  kept := h.kept
  whole := h.whole
  drawn := by
    intro j charges hdrawn
    by_cases hj : j = i
    · subst hj
      rw [drawn_reads] at hdrawn
      obtain rfl := Option.some.inj hdrawn
      exact ⟨h.kept, h.whole.trans (by simp [enter])⟩
    · rw [(enter_of_ne l (Ne.symm hj)).2] at hdrawn
      simpa [enter, hj] using h.drawn j charges hdrawn
  owed := h.owed
  answered := h.answered

/-- Behind a charge, nobody else has read the row as it is now. -/
theorem Sound.writes (h : l.Sound) {charges : List Charge} (hdrawn : l.drawn i = some charges)
    (howed : l.owed i = some c) : (l.enter (.writes i)).Sound := by
  obtain ⟨hsub, hwhole⟩ := h.drawn i charges hdrawn
  have hmade : (l.enter (.writes i)).made = l.made ++ [c] := by simp [enter, howed]
  have hkept : (l.enter (.writes i)).kept = charges ++ [c] := by simp [enter, howed, hdrawn]
  refine ⟨?_, ?_, fun j charges' hdrawn' => ?_, fun j c' howed' => ?_, fun j => ?_⟩
  · rw [hmade, hkept]
    exact hsub.append_right [c]
  · rw [hmade, hkept, List.append_cancel_right_eq]
    exact hwhole
  · have hj : j ≠ i := by
      rintro rfl
      simp at hdrawn'
    rw [(enter_of_ne l (Ne.symm hj)).2] at hdrawn'
    obtain ⟨hsub', -⟩ := h.drawn j charges' hdrawn'
    rw [hmade]
    refine ⟨hsub'.trans (List.sublist_append_left _ _),
      iff_of_false (fun heq => ?_) fun hfresh => ?_⟩
    · have hlength := hsub'.length_le
      rw [heq, List.length_append, List.length_singleton] at hlength
      omega
    · cases hfresh.2
  · have hj : j ≠ i := by
      rintro rfl
      simp at howed'
    rw [(enter_of_ne l (Ne.symm hj)).1] at howed'
    exact h.owed j c' howed'
  · rw [hmade]
    have hanswered := h.answered j
    by_cases hj : j = i
    · subst hj
      have hturn := h.owed j c howed
      simpa [enter, howed, hturn] using hanswered
    · have hturn : c.turn ≠ j := fun heq => hj (heq.symm.trans (h.owed i c howed))
      simpa [enter, Function.update_of_ne hj, hturn] using hanswered

/-- **An entry that a ledger admits leaves it sound.** -/
theorem Sound.enter (h : l.Sound) (hadmits : l.Admits e) : (l.enter e).Sound := by
  cases e with
  | answers c => exact h.answers hadmits
  | reads i => exact h.reads i
  | writes i =>
    obtain ⟨⟨charges, hdrawn⟩, c, howed⟩ := hadmits
    exact h.writes hdrawn howed

/-! ## Many entries -/

theorem Sound.enterAll (h : l.Sound) (hadmits : l.AdmitsAll es) : (l.enterAll es).Sound := by
  induction es generalizing l with
  | nil => exact h
  | cons e es ih => exact ih (h.enter hadmits.1) hadmits.2

@[inherit_doc enter_of_ne]
theorem enterAll_of_ne (l : Ledger) (h : ∀ e ∈ es, e.turn ≠ i) :
    (l.enterAll es).owed i = l.owed i ∧ (l.enterAll es).drawn i = l.drawn i := by
  induction es generalizing l with
  | nil => exact ⟨rfl, rfl⟩
  | cons e es ih =>
    obtain ⟨howed, hdrawn⟩ := enter_of_ne l (h e List.mem_cons_self)
    obtain ⟨howed', hdrawn'⟩ := ih (l.enter e) fun e' he' => h e' (List.mem_cons_of_mem e he')
    exact ⟨howed'.trans howed, hdrawn'.trans hdrawn⟩

theorem admitsAll_append {more : List LedgerEntry} (h : l.AdmitsAll es)
    (h' : (l.enterAll es).AdmitsAll more) : l.AdmitsAll (es ++ more) := by
  induction es generalizing l with
  | nil => exact h'
  | cons e es ih => exact ⟨h.1, ih h.2 h'⟩

theorem answered_enterAll (l : Ledger) (es : List LedgerEntry) :
    (l.enterAll es).answered = l.answered ++ es.filterMap LedgerEntry.charge? := by
  induction es generalizing l with
  | nil => exact (List.append_nil _).symm
  | cons e es ih =>
    refine (ih (l.enter e)).trans ?_
    cases e with
    | answers c => exact List.append_assoc ..
    | reads | writes => rfl

theorem whole_enterAll (l : Ledger) (es : List LedgerEntry) :
    (l.enterAll es).whole ↔ l.whole ∧ Serial l.fresh es := by
  induction es generalizing l with
  | nil => exact (and_iff_left trivial).symm
  | cons e es ih =>
    refine (ih (l.enter e)).trans ?_
    cases e with
    | answers | reads => rfl
    | writes i => exact and_assoc

/-- A turn that is alone with the row finds it as it has read it. -/
theorem serial_of_alone (hadmits : l.AdmitsAll es) (halone : ∀ e ∈ es, e.turn = i)
    (hfresh : ∀ charges, l.drawn i = some charges → i ∈ l.fresh) : Serial l.fresh es := by
  induction es generalizing l with
  | nil => trivial
  | cons e es ih =>
    have hrest := @ih (l.enter e) hadmits.2 fun e he => halone e (List.mem_cons_of_mem _ he)
    obtain rfl : e.turn = i := halone e List.mem_cons_self
    cases e with
    | answers c => exact hrest hfresh
    | reads i => exact hrest fun _ _ => List.mem_cons_self
    | writes i =>
      obtain ⟨⟨charges, hdrawn⟩, -⟩ := hadmits.1
      refine ⟨hfresh charges hdrawn, hrest fun charges' hdrawn' => ?_⟩
      simp [Ledger.enter, LedgerEntry.turn] at hdrawn'

/-- **What becomes of the answers**, when all of them are charged: the row has kept some of them,
and the others are lost. None is lost iff every charge was made on the row as it stood. -/
theorem Sound.split (h : l.Sound) (hpaid : ∀ i, l.owed i = none) :
    ∃ lost, l.answered.Perm (l.kept ++ lost) ∧ (lost = [] ↔ l.whole) := by
  have hmade : l.answered.Perm l.made := by
    refine List.perm_iff_count.mpr fun c => ?_
    have hsame := h.answered c.turn
    rw [hpaid, Option.toList_none, List.append_nil] at hsame
    have hcount := congrArg (List.count c) hsame
    rwa [List.count_filter (by simp), List.count_filter (by simp)] at hcount
  obtain ⟨lost, hlost⟩ := h.kept.exists_perm_append
  refine ⟨lost, hmade.trans hlost, Iff.trans ?_ h.whole⟩
  have hlength := hlost.length_eq
  rw [List.length_append] at hlength
  constructor
  · rintro rfl
    exact h.kept.eq_of_length (by simpa using hlength.symm)
  · intro heq
    rw [heq] at hlength
    exact List.eq_nil_of_length_eq_zero (by omega)

end Ledger

end AgentDesk
