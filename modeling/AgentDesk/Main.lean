import AgentDesk.CommandLine.Run
import AgentDesk.Store.Archive
import Std.Time.DateTime.Timestamp
/-!
# The program

The outer layer: it gathers the surroundings of a run, hands typed lines to a chat, prints, and
writes back what a run has changed. Only what a run may look at is gathered: the way to the
configuration, to the database and to the attached files. The database is kept as an archive.

The program has no connection to the outside, so every request finds nobody at the other end.

## Main definitions

* `main`.
-/

namespace AgentDesk.CommandLine.Outer

/-- The variables that the configuration asks for. -/
def wanted : List String :=
  ["ANTHROPIC_API_KEY", "TASKLOOM_API_KEY", "TASKLOOM_PROVIDER", "TASKLOOM_MODEL"]

/-- The variables that are set. -/
def gatherEnvironment : IO (Table String String) :=
  wanted.filterMapM fun name => do return (← IO.getEnv name).map (name, ·)

/-- What lies at a path outside. -/
def nodeAt (path : String) : IO (Option FileNode) := do
  let outside := System.mkFilePath [path]
  if ← outside.isDir then return some .directory
  else
    match ← (IO.FS.readBinFile outside).toBaseIO with
    | .ok content => return some (.file content 0)
    | .error _ => return none

/-- Gathers everything on the way to a path. -/
def gather (files : FileTree) (path : Path) : IO FileTree := do
  let names := path.normalize.names
  let mut files := files
  for depth in List.range names.length do
    let place := names.take (depth + 1)
    if let some node ← nodeAt (Path.ofNames place).text then files := files.put place node
  return files

/-- The files that a command attaches. -/
def attached (arguments : List String) : List String :=
  match read arguments with
  | .ok (.run (.chat options)) => options.files
  | _ => []

/-- The file of the database, if the configuration has one. -/
def databaseFile? (s : Surroundings) : Option Path :=
  match Configuration.loadFor s.files s.home fun name => Table.get? name s.environment with
  | .ok c =>
    (Program.databaseFile? (c.databasePath s.home)).map fun name =>
      (s.directory.join (Path.parse name)).normalize
  | .error _ => none

/-- Gathers the database. -/
def gatherDatabase (s : Surroundings) : IO Surroundings := do
  match databaseFile? s with
  | none => return s
  | some file =>
    let files ← gather s.files file
    match (files.readText file).toOption.bind Database.ofArchive? with
    | some database => return { s with files, databases := [(file, database)] }
    | none => return { s with files }

/-- A name that no session has. -/
def freshName : IO String := do
  let digits ← (List.range 32).mapM fun _ => return Json.hexDigit (← IO.rand 0 15)
  let part (start length : Nat) := String.ofList ((digits.drop start).take length)
  return Text.join "-" [part 0 8, part 8 4, part 12 4, part 16 4, part 20 12]

/-- Gathers the surroundings of a run. -/
def gatherAll (arguments : List String) : IO Surroundings := do
  let directory := Path.parse (toString (← IO.currentDir))
  let home := Path.parse ((← IO.getEnv "HOME").getD "/")
  let paths := [directory, home, Configuration.file home] ++
    (attached arguments).map fun name => directory.join (Path.parse name)
  let files ← paths.foldlM gather (FileTree.empty 0)
  let now ← Std.Time.Timestamp.now
  gatherDatabase ⟨home, directory, ← gatherEnvironment, files, [], Network.silent, ← freshName,
    now.toNanosecondsSinceUnixEpoch.val.toNat⟩

/-- Prints pieces. -/
def print (pieces : List Print) : IO Unit := do
  for piece in pieces do
    match piece with
    | .out text =>
      (← IO.getStdout).putStr text
      (← IO.getStdout).flush
    | .err text =>
      (← IO.getStderr).putStr text
      (← IO.getStderr).flush

/-- Writes back what a run has changed. -/
def writeBack (before after : Surroundings) : IO Unit := do
  for (place, node) in after.files.nodes do
    unless before.files.node? place == some node do
      let path := (Path.ofNames place).text
      match node with
      | .directory => IO.FS.createDirAll path
      | .file content _ => IO.FS.writeBinFile path content
      | .link _ => pure ()
  for (file, database) in after.databases do
    IO.FS.writeFile file.text database.archive

/-- Prints what a chat has printed since the last time, and forgets it. -/
def printNew (chat : Chat) : IO Chat := do
  print chat.printed.reverse
  return { chat with printed := [] }

/-- Hands typed lines to a chat until it is closed or the input ends. -/
partial def converse (chat : Chat) : IO Chat := do
  let chat ← printNew chat
  if chat.closed then return chat
  else
    let line ← (← IO.getStdin).getLine
    if line.isEmpty then return { chat with closed := true } else converse (chat.feed line)

/-- A run with its surroundings. -/
def runIn (arguments : List String) (s : Surroundings) : IO Finished := do
  match start arguments s with
  | .over result => return result
  | .chatting chat opened t =>
    print t.printed.reverse
    return finish (← converse chat) opened { t with printed := [] }

end AgentDesk.CommandLine.Outer

/-- Runs the program. -/
def main (arguments : List String) : IO UInt32 := do
  let before ← AgentDesk.CommandLine.Outer.gatherAll arguments
  let result ← AgentDesk.CommandLine.Outer.runIn arguments before
  AgentDesk.CommandLine.Outer.print result.printed
  AgentDesk.CommandLine.Outer.writeBack before result.surroundings
  return UInt32.ofNat result.code
