import AgentDesk.Table
/-!
# Gates

A gate holds back whoever waits at it. Opening it lets the first of those who wait pass; if nobody
waits, the next one to come passes at once, but no more than one permit is ever kept.

Whoever waits is known by a ticket, a number that is never used twice. A ticket that does not wait
has passed.

## Main definitions

* `Gate.release`, `Gate.enter`, `Gate.leave`.
* `Gates` — gates by name.
-/

namespace AgentDesk

/-- A kept permit and the tickets of those who wait, the first one in front. -/
structure Gate where
  permit : Bool
  waiting : List Nat
deriving Repr, BEq, DecidableEq, Inhabited

namespace Gate

/-- A gate at which nobody has been yet. -/
def fresh : Gate := ⟨false, []⟩

/-- Opens the gate once. -/
def release (g : Gate) : Gate :=
  match g.waiting with
  | [] => ⟨true, []⟩
  | _ :: rest => ⟨g.permit, rest⟩

/-- Somebody comes to the gate; a kept permit is used up. -/
def enter (g : Gate) (ticket : Nat) : Gate :=
  if g.permit then ⟨false, g.waiting⟩ else ⟨false, g.waiting ++ [ticket]⟩

/-- Somebody goes away. -/
def leave (g : Gate) (ticket : Nat) : Gate := { g with waiting := g.waiting.erase ticket }

/-- Whether a ticket waits. -/
def holds (g : Gate) (ticket : Nat) : Bool := g.waiting.elem ticket

end Gate

/-- Gates by name. -/
abbrev Gates := Table String Gate

namespace Gates

/-- The gate of a name. -/
def named (gs : Gates) (name : String) : Gate := (Table.get? name gs).getD Gate.fresh

/-- Changes the gate of a name. -/
def change (gs : Gates) (name : String) (f : Gate → Gate) : Gates :=
  Table.put name (f (gs.named name)) gs

end Gates

end AgentDesk
