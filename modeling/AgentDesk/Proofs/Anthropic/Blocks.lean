import AgentDesk.Proofs.Anthropic.Notices
import AgentDesk.Proofs.Message.Readings
/-!
# The blocks of tool calls in an answer

The blocks of an answer may interleave: between the opening of a block and its close there are
notices of others. A block of a tool call owns the texts that its index gets from its opening to the
next close of that index.

## Main definitions

* `Anthropic.ToolBlock` — an index with the call of its block.
* `Anthropic.toolBlocks` — the blocks in the order in which they open.
* `Anthropic.NeverRestarts` — no block opens at the index of a block that is open.
* `Anthropic.tokensIn` — the counts of an answer.
-/

namespace AgentDesk

namespace Anthropic

/-- The block of a tool call. The call is finished when the block is closed. -/
structure ToolBlock where
  index : Nat
  call : ToolCall
deriving DecidableEq

namespace Notice

/-- Whether the notice ends the answer. -/
def ends : Notice → Bool
  | .completes | .fails _ => true
  | _ => false

/-- The index at which a block opens. -/
def opened? : Notice → Option Nat
  | .opens index _ _ => some index
  | _ => none

/-- What is said. -/
def text : Notice → String
  | .tells text => text
  | _ => ""

/-- What is thought. -/
def thought : Notice → String
  | .thinks text => text
  | _ => ""

/-- What is added to the signature of the thoughts. -/
def signed : Notice → String
  | .signs text => text
  | _ => ""

/-- The counts with which the answer begins. -/
def tokens? : Notice → Option Tokens
  | .begins tokens => some tokens
  | _ => none

/-- The count of the output, if it is known. -/
def output? : Notice → Option Nat
  | .changes _ output => output
  | _ => none

end Notice

/-- The input that an index gets before its next close. -/
def inputIn (index : Nat) : List Notice → String
  | [] => ""
  | .grows i text :: ns => if i = index then text ++ inputIn index ns else inputIn index ns
  | .closes i :: ns => if i = index then "" else inputIn index ns
  | _ :: ns => inputIn index ns

/-- The blocks of tool calls in the order in which they open. -/
def toolBlocks : List Notice → List ToolBlock
  | [] => []
  | .opens index id name :: ns =>
    ⟨index, id, name, inputIn index ns, decide (.closes index ∈ ns)⟩ :: toolBlocks ns
  | _ :: ns => toolBlocks ns

/-- No block opens at the index of a block that is open. -/
def NeverRestarts : List Notice → Prop
  | [] => True
  | n :: ns => (∀ index ∈ n.opened?, ∀ n' ∈ ns.takeWhile (· ≠ .closes index),
      n'.opened? ≠ some index) ∧ NeverRestarts ns

instance decidableNeverRestarts : (ns : List Notice) → Decidable (NeverRestarts ns)
  | [] => isTrue trivial
  | n :: ns =>
    haveI := decidableNeverRestarts ns
    inferInstanceAs (Decidable ((∀ index ∈ n.opened?, ∀ n' ∈ ns.takeWhile (· ≠ .closes index),
      n'.opened? ≠ some index) ∧ NeverRestarts ns))

/-- The counts of an answer: those with which it last began, with the last count of the output that
is known since. -/
def tokensIn (ns : List Notice) : Tokens :=
  let tokens := (ns.reverse.findSome? Notice.tokens?).getD .zero
  let since := ns.reverse.takeWhile fun n => n.tokens?.isNone
  { tokens with output := (since.findSome? Notice.output?).getD tokens.output }

/-! ## One more notice -/

variable {n : Notice} {ns : List Notice}

namespace ToolBlock

/-- The block with its call changed, if it is the open one at an index. -/
def changeOpen (index : Nat) (f : ToolCall → ToolCall) (b : ToolBlock) : ToolBlock :=
  if b.index = index ∧ b.call.finished = false then { b with call := f b.call } else b

/-- The block behind a notice. -/
def next : Notice → ToolBlock → ToolBlock
  | .grows index text, b => b.changeOpen index (ToolCall.extend text)
  | .closes index, b => b.changeOpen index ToolCall.finish
  | _, b => b

end ToolBlock

/-- The block that a notice opens. -/
def fresh : Notice → List ToolBlock
  | .opens index id name => [⟨index, id, name, "", false⟩]
  | _ => []

theorem inputIn_snoc_grows (index i : Nat) (text : String) (ns : List Notice) :
    inputIn index (ns ++ [.grows i text]) =
      if i = index ∧ .closes index ∉ ns then inputIn index ns ++ text else inputIn index ns := by
  induction ns with
  | nil => simp [inputIn]
  | cons n ns ih =>
    cases n with
    | grows j text' =>
      by_cases hj : j = index
      · simp [inputIn, hj, ih]
        split <;> simp [String.append_assoc]
      · simp [inputIn, hj, ih]
    | closes j =>
      by_cases hj : j = index
      · simp [inputIn, hj]
      · simp [inputIn, hj, ih, Ne.symm hj]
    | _ => simp [inputIn, ih]

theorem inputIn_snoc_of_ne (index : Nat) (ns : List Notice)
    (h : ∀ i text, n ≠ .grows i text) : inputIn index (ns ++ [n]) = inputIn index ns := by
  induction ns with
  | nil =>
    cases n with
    | grows i text => exact absurd rfl (h i text)
    | _ => simp [inputIn]
  | cons n' ns ih =>
    cases n' <;> simp [inputIn, ih]

/-- **One more notice** changes the call of the block that is open at its index, or opens a block.
-/
theorem toolBlocks_snoc (ns : List Notice) (n : Notice) :
    toolBlocks (ns ++ [n]) = (toolBlocks ns).map (ToolBlock.next n) ++ fresh n := by
  induction ns with
  | nil => cases n <;> rfl
  | cons n' ns ih =>
    cases n' with
    | opens index id name =>
      have hblock : (⟨index, id, name, inputIn index (ns ++ [n]),
          decide (.closes index ∈ ns ++ [n])⟩ : ToolBlock) =
            ToolBlock.next n ⟨index, id, name, inputIn index ns, decide (.closes index ∈ ns)⟩ := by
        cases n with
        | grows i text =>
          by_cases hi : index = i <;> by_cases hclosed : Notice.closes index ∈ ns <;>
            simp_all [inputIn_snoc_grows, ToolBlock.next, ToolBlock.changeOpen, ToolCall.extend,
              eq_comm]
        | closes i =>
          rw [inputIn_snoc_of_ne index ns (by simp)]
          by_cases hi : index = i <;> by_cases hclosed : Notice.closes index ∈ ns <;>
            simp_all [ToolBlock.next, ToolBlock.changeOpen, ToolCall.finish]
        | _ =>
          rw [inputIn_snoc_of_ne index ns (by simp)]
          simp [ToolBlock.next]
      simp only [List.cons_append, toolBlocks, ih, List.map_cons, hblock]
    | _ => simpa [toolBlocks] using ih

@[simp] theorem ToolBlock.id_next (n : Notice) (b : ToolBlock) :
    (ToolBlock.next n b).call.id = b.call.id := by
  cases n <;> simp only [next, changeOpen] <;> split <;> rfl

theorem ids_snoc (ns : List Notice) (n : Notice) :
    (toolBlocks (ns ++ [n])).map (·.call.id) =
      (toolBlocks ns).map (·.call.id) ++ (fresh n).map (·.call.id) := by
  simp [toolBlocks_snoc, Function.comp_def]

/-- A block that opens finds no open block at its index. -/
theorem NeverRestarts.of_snoc (h : NeverRestarts (ns ++ [n])) : NeverRestarts ns ∧
    ∀ index ∈ n.opened?, ∀ b ∈ toolBlocks ns, b.index = index → b.call.finished := by
  induction ns with
  | nil => exact ⟨trivial, fun _ _ b hb => nomatch hb⟩
  | cons n' ns ih =>
    rw [List.cons_append] at h
    obtain ⟨hhead, hrest⟩ := h
    obtain ⟨hns, hblocks⟩ := ih hrest
    refine ⟨⟨fun index hindex m hm => hhead index hindex m ?_, hns⟩, ?_⟩
    · rw [List.takeWhile_append]
      split
      · exact List.mem_append_left _ ((List.takeWhile_prefix _).subset hm)
      · exact hm
    · intro index hindex b hb hb'
      cases n' with
      | opens i id name =>
        rcases List.mem_cons.mp hb with rfl | hb
        · -- A block that is not closed lets the new notice through to its own index.
          refine decide_eq_true (Decidable.byContradiction fun hclosed => ?_)
          obtain rfl : i = index := hb'
          have hopen : ∀ m ∈ ns, decide (m ≠ Notice.closes i) := by
            intro m hm
            refine decide_eq_true fun hclose => hclosed ?_
            rwa [hclose] at hm
          refine hhead i rfl n ?_ hindex
          rw [List.takeWhile_append_of_pos hopen]
          refine List.mem_append_right _ ?_
          cases n <;> cases hindex
          simp
        · exact hblocks index hindex b hb hb'
      | _ => exact hblocks index hindex b hb hb'

theorem tokensIn_snoc (ns : List Notice) (n : Notice) :
    tokensIn (ns ++ [n]) =
      match n with
      | .begins tokens => tokens
      | .changes _ output =>
        { tokensIn ns with output := output.getD (tokensIn ns).output }
      | _ => tokensIn ns := by
  cases n with
  | changes reason output =>
    cases output <;> simp [tokensIn, Notice.tokens?, Notice.output?, List.findSome?_cons]
  | _ => simp [tokensIn, Notice.tokens?, Notice.output?, List.findSome?_cons]

end Anthropic

end AgentDesk
