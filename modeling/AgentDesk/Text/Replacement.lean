import AgentDesk.Text.Pieces
/-!
# Exact replacement

A piece of text is replaced by another where it occurs exactly. Unless all occurrences are meant,
there must be only one.

## Main definitions

* `Replacement`, `Replacement.perform?`, `MatchFault`.
-/

namespace AgentDesk.Text

/-- What is replaced by what, and whether it is replaced everywhere. -/
structure Replacement where
  old : String
  new : String
  everywhere : Bool
deriving Repr, BEq, DecidableEq, Inhabited

/-- Why nothing is replaced. -/
inductive MatchFault where
  | absent
  | ambiguous (occurrences : Nat)
deriving Repr, BEq, DecidableEq, Inhabited

/-- The sentence for a fault. -/
def MatchFault.describe : MatchFault → String
  | .absent =>
    "old_string not found in file. " ++
    "Make sure it matches exactly, including whitespace and line breaks"
  | .ambiguous n =>
    s!"old_string appears {n} times in the file. Use replace_all=true or provide more context"

namespace Replacement

/-- The text after the replacement and the number of occurrences, counted from the left without
overlap. -/
def perform? (r : Replacement) (content : String) : Except MatchFault (String × Nat) :=
  let n := countText r.old.toList content.toList
  if n = 0 then .error .absent
  else if n > 1 ∧ r.everywhere = false then .error (.ambiguous n)
  else .ok (replace r.old r.new content, n)

end Replacement

end AgentDesk.Text
