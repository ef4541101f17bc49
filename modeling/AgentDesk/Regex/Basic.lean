import AgentDesk.Regex.CharSet
/-!
# Regular expressions and where they match

An expression is matched by following sets of places: given the places where a match may stand, it
yields the places that the expression leads to. Each set is finite, so no text makes the search
try the same thing twice.

## Main definitions

* `Regex`, `Anchor`.
* `Regex.reach` — the places behind an expression.
* `Regex.occursIn` — whether an expression matches anywhere in a text.
-/

namespace AgentDesk

namespace Regex

/-- A condition on a place. `unicode` tells whether words may hold more than ASCII. -/
inductive Anchor where
  | textStart
  | textEnd
  | lineStart (returns : Bool)
  | lineEnd (returns : Bool)
  | wordEdge (unicode : Bool)
  | noWordEdge (unicode : Bool)
  | wordStart (unicode : Bool)
  | wordEnd (unicode : Bool)
  | wordStartHalf (unicode : Bool)
  | wordEndHalf (unicode : Bool)
deriving Repr, BEq, DecidableEq

/-- Whether the character at a place belongs to a word. -/
def wordAt (unicode : Bool) (c : Option Char) : Bool :=
  match c with
  | some c => if unicode then isWord c.toNat else isAsciiWord c.toNat
  | none => false

/-- Whether a condition holds between two characters, which are absent at the ends of the text. -/
def Anchor.holds (before after : Option Char) : Anchor → Bool
  | .textStart => before.isNone
  | .textEnd => after.isNone
  | .lineStart returns =>
    before.isNone || before == some '\n' ||
      (returns && before == some '\r' && !(after == some '\n'))
  | .lineEnd returns =>
    after.isNone || (after == some '\n' && !(returns && before == some '\r')) ||
      (returns && after == some '\r')
  | .wordEdge u => wordAt u before != wordAt u after
  | .noWordEdge u => wordAt u before == wordAt u after
  | .wordStart u => !wordAt u before && wordAt u after
  | .wordEnd u => wordAt u before && !wordAt u after
  | .wordStartHalf u => !wordAt u before
  | .wordEndHalf u => !wordAt u after

end Regex

/-- A regular expression. A repetition without an upper bound goes on for ever; a group is what
stands in parentheses. -/
inductive Regex where
  | nothing
  | char (set : Regex.CharSet)
  | anchor (a : Regex.Anchor)
  | seq (a b : Regex)
  | alt (a b : Regex)
  | times (a : Regex) (least : Nat) (most : Option Nat)
  | group (a : Regex)
deriving Repr, BEq, DecidableEq, Inhabited

namespace Regex

/-- Places in ascending order. -/
abbrev Places := List Nat

/-- The places of both lists. -/
def merge : Places → Places → Places
  | [], qs => qs
  | p :: ps, [] => p :: ps
  | p :: ps, q :: qs =>
    if p < q then p :: merge ps (q :: qs)
    else if q < p then q :: merge (p :: ps) qs
    else p :: merge ps qs
termination_by ps qs => ps.length + qs.length

/-- The places of the first list that are not in the second. -/
def without : Places → Places → Places
  | [], _ => []
  | p :: ps, [] => p :: ps
  | p :: ps, q :: qs =>
    if p < q then p :: without ps (q :: qs)
    else if q < p then without (p :: ps) qs
    else without ps qs
termination_by ps qs => ps.length + qs.length

/-- The places reached by any number of steps, at most `fuel`; `fresh` are those that were
reached last. -/
def closure (step : Places → Places) : Nat → Places → Places → Places
  | 0, seen, _ => seen
  | fuel + 1, seen, fresh =>
    if fresh.isEmpty then seen
    else
      let next := without (step fresh) seen
      closure step fuel (merge seen next) next

/-- The places reached by exactly `n` steps. -/
def iterate (step : Places → Places) : Nat → Places → Places
  | 0, ps => ps
  | n + 1, ps => if ps.isEmpty then [] else iterate step n (step ps)

/-- The places that an expression leads to from the given places of a text. -/
def reach (text : Array Char) : Regex → Places → Places
  | nothing, ps => ps
  | char set, ps =>
    (ps.filter fun p =>
      match text[p]? with
      | some c => set.holds c.toNat
      | none => false).map (· + 1)
  | anchor a, ps =>
    ps.filter fun p => a.holds (if p = 0 then none else text[p - 1]?) text[p]?
  | seq a b, ps => b.reach text (a.reach text ps)
  | alt a b, ps => merge (a.reach text ps) (b.reach text ps)
  | times a least most, ps =>
    let start := iterate (a.reach text) least ps
    match most with
    | none => closure (a.reach text) (text.size + 1) start start
    | some most => closure (a.reach text) (most - least) start start
  | group a, ps => a.reach text ps

/-- Whether an expression matches anywhere in a text. -/
def occursIn (r : Regex) (text : String) : Bool :=
  let text := text.toList.toArray
  !(r.reach text (List.range (text.size + 1))).isEmpty

/-- An expression with each of several in turn. -/
def concat : List Regex → Regex
  | [] => nothing
  | [r] => r
  | r :: rest => seq r (concat rest)

end Regex

end AgentDesk
