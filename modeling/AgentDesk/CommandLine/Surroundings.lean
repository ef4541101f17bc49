import AgentDesk.CommandLine.Arguments
import AgentDesk.Configuration.Reading
import AgentDesk.Failure.Fields
import AgentDesk.Network
import AgentDesk.Store
import AgentDesk.Text.Percent
/-!
# The surroundings of the program

The program works on files and databases, in a directory and for a user with a home, under an
environment and with a network. It prints to two channels. A step of the program that fails keeps
what was done and printed before.

## Main definitions

* `Print`, `Surroundings`, `ProgramFault`.
* `Program` — steps that print, change the surroundings, and may fail.
* `Program.configuration`, `Program.openStore`.
-/

namespace AgentDesk

/-- A piece of text on one of the channels. -/
inductive Print where
  | out (text : String)
  | err (text : String)
deriving Repr, BEq, DecidableEq, Inhabited

/-- Everything around the program. Databases are known by their file; the fresh name is for a
session that has none. -/
structure Surroundings where
  home : Path
  directory : Path
  environment : Table String String
  files : FileTree
  databases : Table Path Database
  network : Network
  freshName : String
  clock : Nat

/-- Why the program ends before its time. -/
inductive ProgramFault where
  | configuration (fault : ConfigurationFault)
  | message (text : String)
  | store (fault : StoreFailure)
  | turn (fault : TurnFailure)
  | file (fault : FileFault)
deriving Repr, BEq, DecidableEq

/-- A fault as it is shown at the end. -/
def ProgramFault.shown : ProgramFault → String
  | .configuration fault => fault.withFields
  | .message text => Text.quoted text
  | .store fault => fault.withFields
  | .turn fault => fault.withFields
  | .file fault => fault.withFields

/-- The surroundings and what was printed, the latest piece first. -/
structure Terminal where
  surroundings : Surroundings
  printed : List Print

/-- Steps of the program. -/
abbrev Program := ExceptT ProgramFault (StateM Terminal)

namespace Program

/-- Prints a piece. -/
def print (piece : Print) : Program Unit :=
  modify fun t => { t with printed := piece :: t.printed }

/-- Prints a text to the first channel. -/
def say (text : String) : Program Unit := print (.out text)

/-- The surroundings. -/
def surroundings : Program Surroundings := do return (← get).surroundings

/-- Changes the surroundings. -/
def change (f : Surroundings → Surroundings) : Program Unit :=
  modify fun t => { t with surroundings := f t.surroundings }

/-- What comes of a part that may fail. -/
def orFail (wrap : ε → ProgramFault) : Except ε α → Program α
  | .ok a => pure a
  | .error e => throw (wrap e)

/-- Loads the configuration of the user. -/
def loaded : Program (Except ConfigurationFault Configuration) := do
  let s ← surroundings
  return Configuration.loadFor s.files s.home fun name => Table.get? name s.environment

/-- The configuration of the user. -/
def configuration : Program Configuration := do orFail .configuration (← loaded)

/-- Makes a directory and those above it that are missing. -/
def makeDirectories (path : Path) : Program (Except FileFault Unit) := do
  let (result, files) := (← surroundings).files.makeDirectories path
  change ({ · with files })
  return result

/-! ## Stores -/

/-- A store and the file that it came from, if there is one. -/
structure OpenedStore where
  store : Store
  file : Option Path

/-- What stands in front of the name of a database. -/
def databaseScheme : String := "sqlite:"

/-- The name of the database that lives only as long as the program runs. -/
def passingName : String := ":memory:"

/-- What is said of a database that cannot be opened. -/
def unopened (code : Nat) (reason : String) : StoreFailure :=
  .storage s!"Failed to open SQLite: error returned from database: (code: {code}) {reason}"

/-- What is left of `s` without the copies of `p` at its start, of which at most so many are
removed. -/
def dropCopies (p : List Char) : Nat → List Char → List Char
  | 0, s => s
  | n + 1, s =>
    match Text.dropPrefix? p s with
    | some rest => dropCopies p n rest
    | none => s

/-- The address of a database without its schemes. -/
def withoutSchemes (text : String) : String :=
  let strip (scheme : String) (s : List Char) := dropCopies scheme.toList s.length s
  String.ofList (strip databaseScheme (strip (databaseScheme ++ "//") text.toList))

/-- The file that the address of a database names; none for the database that has no file. What
follows a question mark names no file. -/
def databaseFile? (text : String) : Option String :=
  let address := (Text.splitChar '?' (withoutSchemes text)).headD ""
  if address == passingName || address.isEmpty then none
  else some (Text.percentDecoded address)

/-- The database in a file. An empty file holds an empty one, and so does a file that does not yet
exist in a directory that does. -/
def databaseIn (s : Surroundings) (file : Path) : Except StoreFailure Database :=
  match Table.get? file s.databases, s.files.read file with
  | some database, _ => .ok database
  | none, .ok content =>
    if content.isEmpty then .ok .empty else .error (unopened 26 "file is not a database")
  | none, .error fault =>
    if fault == .notFound && s.files.isDirectory (file.parent?.getD Path.root) then .ok .empty
    else .error (unopened 14 "unable to open database file")

/-- Opens the database with an address. -/
def openDatabase (text : String) : Program OpenedStore := do
  let s ← surroundings
  let parent := ((Path.parse text).parent?).getD Path.root
  match ← makeDirectories (s.directory.join parent) with
  | .error fault =>
    throw (.store (.storage s!"cannot create {parent.text}: {fault.describe}"))
  | .ok () =>
    match databaseFile? text with
    | none => return ⟨.database .empty, none⟩
    | some name =>
      let file := (s.directory.join (Path.parse name)).normalize
      let database ← orFail .store (databaseIn (← surroundings) file)
      return ⟨.database database, some file⟩

/-- Opens the store that a configuration wants. -/
def openStore (c : Configuration) : Program OpenedStore := do
  match c.store.kind with
  | .memory => return ⟨.memory .empty, none⟩
  | .database => openDatabase (c.databasePath (← surroundings).home)

/-- Keeps what a store has become. -/
def keep (opened : OpenedStore) (store : Store) : Program Unit :=
  match store, opened.file with
  | .database d, some file => change fun s => { s with databases := Table.put file d s.databases }
  | _, _ => pure ()

end Program

end AgentDesk
