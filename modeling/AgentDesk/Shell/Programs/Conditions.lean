import AgentDesk.Shell.State
/-!
# Conditions

A condition compares texts, numbers or looks at files. It holds, does not hold, or is not written
by the rules.

## Main definitions

* `condition` — whether a condition holds.
-/

namespace AgentDesk.Shell

/-- Whether a path leads to a file. -/
def isFile (s : State) (word : String) : Bool :=
  match s.files.find (s.path word) with
  | .ok (.file _ _) => true
  | _ => false

/-- Whether a path leads to a file that is not empty. -/
def isFilled (s : State) (word : String) : Bool :=
  match s.files.read (s.path word) with
  | .ok content => !content.isEmpty
  | .error _ => false

/-- A test of one text. -/
def testOne? (s : State) (operator a : String) : Option Bool :=
  match operator with
  | "-n" => some !a.isEmpty
  | "-z" => some a.isEmpty
  | "-e" => some (s.files.exists? (s.path a))
  | "-r" => some (s.files.exists? (s.path a))
  | "-w" => some (s.files.exists? (s.path a))
  | "-d" => some (s.files.isDirectory (s.path a))
  | "-f" => some (isFile s a)
  | "-s" => some (isFilled s a)
  | _ => none

/-- A comparison of numbers. -/
def compareNumbers? (operator : String) (x y : Int) : Option Bool :=
  match operator with
  | "-eq" => some (x == y)
  | "-ne" => some (x != y)
  | "-lt" => some (x < y)
  | "-le" => some (x ≤ y)
  | "-gt" => some (y < x)
  | "-ge" => some (y ≤ x)
  | _ => none

/-- A test of two texts. -/
def testTwo (a operator b : String) : Except String Bool :=
  match operator with
  | "=" => .ok (a == b)
  | "==" => .ok (a == b)
  | "!=" => .ok (a != b)
  | operator =>
    if (compareNumbers? operator 0 0).isNone then
      .error s!"{operator}: binary operator expected"
    else
      match a.toInt?, b.toInt? with
      | none, _ => .error s!"{a}: integer expression expected"
      | _, none => .error s!"{b}: integer expression expected"
      | some x, some y => .ok ((compareNumbers? operator x y).getD false)

/-- Whether a condition holds. -/
def condition (s : State) : List String → Except String Bool
  | [] => .ok false
  | [a] => .ok !a.isEmpty
  | ["!", a] => .ok a.isEmpty
  | [operator, a] =>
    match testOne? s operator a with
    | some holds => .ok holds
    | none => .error s!"{operator}: unary operator expected"
  | ["!", operator, a] =>
    match testOne? s operator a with
    | some holds => .ok !holds
    | none => .error s!"{operator}: binary operator expected"
  | [a, operator, b] => testTwo a operator b
  | ["!", a, operator, b] => (testTwo a operator b).map (!·)
  | _ => .error "too many arguments"

/-- Tells by the status whether a condition holds. -/
def test (s : State) (command : String) (words : List String) : Result :=
  match condition s words with
  | .ok holds => s.done (if holds then 0 else 1) "" ""
  | .error text => s.complain 2 command text

end AgentDesk.Shell
