import AgentDesk.Files
import AgentDesk.Shell.Word
/-!
# The state of a shell

Commands work on a file tree in a directory, with variables and arguments, write to two streams and
take time. Time passes only where a command waits.

## Main definitions

* `State`, `Result`, `Ending`.
* `State.value` — the value of a variable.
-/

namespace AgentDesk.Shell

/-- What commands work with. The time that has passed and the time that they may take are in
milliseconds; the line is that of the command which runs. -/
structure State where
  files : FileTree
  directory : Path
  environment : Table String String
  limit : Nat
  elapsed : Nat
  status : Nat
  name : String
  arguments : List String
  line : Nat

/-- How a command ends: with the next command, with the repetition that it is a part of, with the
next round of that, with the whole shell, or by a signal. -/
inductive Ending where
  | next
  | leaveLoop
  | nextRound
  | leave
  | killed
deriving Repr, BEq, DecidableEq

/-- What a command does: the state behind it and what it wrote to its two streams. -/
structure Result where
  state : State
  out : List UInt8
  err : List UInt8
  ending : Ending

/-- What a number is called that stands for the shell itself. -/
def ownNumber : String := "2"

namespace State

/-- A shell that starts in a directory. -/
def start (files : FileTree) (directory : Path) (environment : Table String String)
    (limit : Nat) : State := ⟨files, directory, environment, limit, 0, 0, "sh", [], 1⟩

/-- Whether the commands have used up their time. -/
def isLate (s : State) : Bool := s.limit ≤ s.elapsed

/-- The path that a word means. -/
def path (s : State) (word : String) : Path := (s.directory.join (Path.parse word)).normalize

/-- The value of a variable, if it has one. -/
def value? (s : State) (name : String) : Option String :=
  match name with
  | "?" => some (toString s.status)
  | "$" => some ownNumber
  | "#" => some (toString s.arguments.length)
  | "@" | "*" => if s.arguments.isEmpty then none else some (Text.join " " s.arguments)
  | "-" => some "hBc"
  | "0" => some s.name
  | name =>
    match name.toNat? with
    | some n => s.arguments[n - 1]?
    | none => Table.get? name s.environment

/-- The value of a variable; one that is missing is empty. -/
def value (s : State) (name : String) : String := (s.value? name).getD ""

/-- Sets a variable. -/
def assign (s : State) (a : String × String) : State :=
  { s with environment := Table.put a.1 a.2 s.environment }

/-- The result of a command that writes bytes. -/
def wrote (s : State) (status : Nat) (out err : List UInt8) : Result :=
  ⟨{ s with status }, out, err, .next⟩

/-- The result of a command that ends with a status. -/
def done (s : State) (status : Nat) (out err : String) : Result :=
  s.wrote status out.toUTF8.toList err.toUTF8.toList

/-- What the shell says of a command that fails. -/
def complaint (s : State) (command text : String) : String :=
  s!"{s.name}: line {s.line}: {command}: {text}\n"

/-- The result of a command of which the shell complains. -/
def complain (s : State) (status : Nat) (command text : String) : Result :=
  s.done status "" (s.complaint command text)

end State

namespace Result

/-- One result and then another, which is for the state behind the first. -/
def after (first second : Result) : Result :=
  { second with out := first.out ++ second.out, err := first.err ++ second.err }

/-- Ends the whole shell. -/
def leaving (r : Result) : Result := { r with ending := .leave }

/-- What follows in the same shell once a command has ended. -/
def andThen (r : Result) (next : State → Result) : Result :=
  if r.ending == .next && !r.state.isLate then r.after (next r.state) else r

end Result

/-- What is said of a fault. -/
def faultText : FileFault → String
  | .notFound => "No such file or directory"
  | .exists => "File exists"
  | .notDirectory => "Not a directory"
  | .isDirectory => "Is a directory"
  | .nameTooLong => "File name too long"
  | .tooManyLinks => "Too many levels of symbolic links"
  | fault => fault.describe

end AgentDesk.Shell
