import AgentDesk.Text.Pieces
import AgentDesk.Table
/-!
# Lines added and removed

Two versions of a text are compared as multisets of lines; their order does not matter.

## Main definitions

* `lineChanges` — how many lines were added and how many were removed.
-/

namespace AgentDesk.Text

/-- Adds `n` to the balance of a line. -/
def tally (n : Int) (balance : Table String Int) (line : String) : Table String Int :=
  Table.put line ((Table.get? line balance).getD 0 + n) balance

/-- For each line, how much more often it occurs in the new text than in the old one. -/
def lineBalance (old new : String) : Table String Int :=
  (lines new).foldl (tally 1) ((lines old).foldl (tally (-1)) [])

/-- The number of lines added and the number of lines removed. -/
def lineChanges (old new : String) : Nat × Nat :=
  (lineBalance old new).foldl (fun (added, removed) (_, n) =>
    (added + n.toNat, removed + (-n).toNat)) (0, 0)

end AgentDesk.Text
