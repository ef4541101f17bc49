import AgentDesk.Shell.Word
/-!
# Sums

The integers that a command may reckon with: numbers and variables with the usual operators, which
bind as they do in mathematics. A comparison is one or zero.

## Main definitions

* `Sum.value?` — the value of an expression.
-/

namespace AgentDesk.Shell.Sum

/-- One element of an expression. -/
inductive Token where
  | number (n : Int)
  | operator (s : String)
deriving Repr, BEq, DecidableEq

/-- The operators, the longer ones first. -/
def operators : List String :=
  ["==", "!=", "<=", ">=", "&&", "||", "+", "-", "*", "/", "%", "(", ")", "<", ">", "!"]

/-- The value of a text that a variable holds; anything else than a number counts as zero. -/
def number (text : String) : Int := (text.toInt?).getD 0

/-- Reads the tokens of a text; those read so far are kept in reverse. -/
def tokens? (value : String → String) : Nat → List Token → List Char → Option (List Token)
  | _, found, [] => some found.reverse
  | 0, _, _ => none
  | fuel + 1, found, c :: r =>
    let s := c :: r
    if c == ' ' || c == '\t' || c == '\n' then tokens? value fuel found r
    else if c.isDigit then
      let n := (String.ofList (s.takeWhile Char.isDigit)).toNat?.getD 0
      tokens? value fuel (.number n :: found) (s.dropWhile Char.isDigit)
    else if inName c || c == '$' then
      let s := if c == '$' then r else s
      let n := number (value (String.ofList (s.takeWhile inName)))
      tokens? value fuel (.number n :: found) (s.dropWhile inName)
    else
      match operators.findSome? fun o => (Text.dropPrefix? o.toList s).map (o, ·) with
      | some (o, rest) => tokens? value fuel (.operator o :: found) rest
      | none => none

/-- A truth as a number. -/
def truth (b : Bool) : Int := if b then 1 else 0

/-- The operators that bind equally, those that bind less first. -/
def levels : List (List String) :=
  [["||"], ["&&"], ["==", "!="], ["<", "<=", ">", ">="], ["+", "-"], ["*", "/", "%"]]

/-- Applies an operator; nothing is divided by zero. -/
def combine? (operator : String) (a b : Int) : Option Int :=
  match operator with
  | "||" => some (truth (a != 0 || b != 0))
  | "&&" => some (truth (a != 0 && b != 0))
  | "==" => some (truth (a == b))
  | "!=" => some (truth (a != b))
  | "<" => some (truth (a < b))
  | "<=" => some (truth (a ≤ b))
  | ">" => some (truth (b < a))
  | ">=" => some (truth (b ≤ a))
  | "+" => some (a + b)
  | "-" => some (a - b)
  | "*" => some (a * b)
  | "/" => if b == 0 then none else some (a.tdiv b)
  | "%" => if b == 0 then none else some (a.tmod b)
  | _ => none

mutual

/-- The value of operands joined by operators of some levels. -/
def joined? : Nat → List (List String) → List Token → Option (Int × List Token)
  | 0, _, _ => none
  | fuel + 1, [], ts => operand? fuel ts
  | fuel + 1, level :: higher, ts => do
    let (a, ts) ← joined? fuel higher ts
    more? fuel level higher a ts

/-- The value of an operand and what is joined to it. -/
def more? : Nat → List String → List (List String) → Int → List Token → Option (Int × List Token)
  | 0, _, _, _, _ => none
  | fuel + 1, level, higher, a, .operator o :: ts =>
    if level.elem o then do
      let (b, ts) ← joined? fuel higher ts
      more? fuel level higher (← combine? o a b) ts
    else some (a, .operator o :: ts)
  | _, _, _, a, ts => some (a, ts)

/-- The value of an operand. -/
def operand? : Nat → List Token → Option (Int × List Token)
  | 0, _ => none
  | _ + 1, .number n :: ts => some (n, ts)
  | fuel + 1, .operator "-" :: ts => (operand? fuel ts).map fun (a, ts) => (-a, ts)
  | fuel + 1, .operator "+" :: ts => operand? fuel ts
  | fuel + 1, .operator "!" :: ts => (operand? fuel ts).map fun (a, ts) => (truth (a == 0), ts)
  | fuel + 1, .operator "(" :: ts => do
    match ← joined? fuel levels ts with
    | (a, .operator ")" :: ts) => some (a, ts)
    | _ => none
  | _, _ => none

end

/-- The value of an expression, given those of the variables. An empty expression is zero. -/
def value? (value : String → String) (text : String) : Option Int := do
  let ts ← tokens? value (text.length + 1) [] text.toList
  if ts.isEmpty then some 0
  else
    match ← joined? (16 * ts.length + 16) levels ts with
    | (n, []) => some n
    | _ => none

end AgentDesk.Shell.Sum
