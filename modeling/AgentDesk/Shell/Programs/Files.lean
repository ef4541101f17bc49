import AgentDesk.Shell.State
/-!
# Programs on files

The programs that list, make, remove, copy and move files and directories. Each names goes its
own way: a fault with one does not keep a program from the others.

## Main definitions

* `listFiles`, `makeDirectories`, `touch`.
* `remove`, `removeDirectories`, `copy`, `move`.
-/

namespace AgentDesk.Shell

/-- Applies a program to one name after another. A fault is said, and the status tells of it. -/
def forEachName (s : State) (names : List String)
    (act : FileTree → String → Except String FileTree) : Result :=
  names.foldl (fun r name =>
      match act r.state.files name with
      | .ok files => { r with state := { r.state with files } }
      | .error text =>
        { r with err := r.err ++ s!"{text}\n".toUTF8.toList,
                 state := { r.state with status := 1 } })
    (s.wrote 0 [] [])

/-- Whether a word holds options. -/
def isOption (word : String) : Bool := word.startsWith "-" && word != "-"

/-- The letters of the options among words, and the other words. -/
def lettersAndNames (args : List String) : List Char × List String :=
  ((args.filter isOption).flatMap fun o => o.toList.drop 1, args.filter fun a => !isOption a)

/-- What is said of a program without names. -/
def operandMissing (s : State) (program : String) : Result :=
  s.done 1 "" (s!"{program}: missing operand\n" ++
    s!"Try '{program} --help' for more information.\n")

/-! ## Listing -/

/-- The entries of a directory that a list shows. -/
def shownEntries (s : State) (letters : List Char) (path : Path) : List String :=
  match s.files.locate true path with
  | .error _ => []
  | .ok place =>
    let names := (s.files.entries place).map (·.1)
    if letters.elem 'a' then [".", ".."] ++ names
    else if letters.elem 'A' then names
    else names.filter fun n => !n.startsWith "."

/-- Lists files first, and then the entries of directories. -/
def listFiles (s : State) (args : List String) : Result :=
  let (letters, names) := lettersAndNames args
  let names := (if names.isEmpty then ["."] else names).mergeSort fun a b => a ≤ b
  let missing := names.filter fun n => !s.files.exists? (s.path n)
  let directories := names.filter fun n => s.files.isDirectory (s.path n) && !letters.elem 'd'
  let files := names.filter fun n => !missing.elem n && !directories.elem n
  let ofLines (lines : List String) := Text.join "" (lines.map fun l => s!"{l}\n")
  let sectionOf (n : String) : String :=
    let entries := ofLines (shownEntries s letters (s.path n))
    if names.length == 1 then entries else s!"{n}:\n{entries}"
  let sections := (if files.isEmpty then [] else [ofLines files]) ++ directories.map sectionOf
  let complaints := missing.map fun n =>
    s!"ls: cannot access '{n}': No such file or directory"
  s.done (if missing.isEmpty then 0 else 2) (Text.join "\n" sections) (ofLines complaints)

/-! ## Making -/

/-- Makes directories. -/
def makeDirectories (s : State) (args : List String) : Result :=
  let (letters, names) := lettersAndNames args
  if names.isEmpty then operandMissing s "mkdir"
  else forEachName s names fun files name =>
    let path := s.path name
    let made : Except FileFault FileTree :=
      if letters.elem 'p' then
        match files.makeDirectories path with
        | (.ok (), files) => .ok files
        | (.error fault, _) => .error fault
      else files.makeDirectory path
    made.mapError fun fault => s!"mkdir: cannot create directory '{name}': {faultText fault}"

/-- Creates the files that are missing. -/
def touch (s : State) (names : List String) : Result :=
  if names.isEmpty then
    s.done 1 "" "touch: missing file operand\nTry 'touch --help' for more information.\n"
  else forEachName s names fun files name =>
    if files.exists? (s.path name) then .ok files
    else (files.write (s.path name) ByteArray.empty).mapError fun fault =>
      s!"touch: cannot touch '{name}': {faultText fault}"

/-! ## Removing -/

/-- Removes files, and directories with all that they hold if that is asked for. -/
def remove (s : State) (args : List String) : Result :=
  let (letters, names) := lettersAndNames args
  let force := letters.elem 'f'
  if names.isEmpty && !force then operandMissing s "rm"
  else forEachName s names fun files name =>
    match files.locate false (s.path name) with
    | .error fault =>
      if force && fault == .notFound then .ok files
      else .error s!"rm: cannot remove '{name}': {faultText fault}"
    | .ok place =>
      match files.node? place with
      | none =>
        if force then .ok files
        else .error s!"rm: cannot remove '{name}': No such file or directory"
      | some .directory =>
        if letters.elem 'r' || letters.elem 'R' then .ok (files.removeTree place)
        else .error s!"rm: cannot remove '{name}': Is a directory"
      | some _ => .ok (files.removeTree place)

/-- Removes directories that hold nothing. -/
def removeDirectories (s : State) (names : List String) : Result :=
  if names.isEmpty then operandMissing s "rmdir"
  else forEachName s names fun files name =>
    let refused (text : String) : Except String FileTree :=
      .error s!"rmdir: failed to remove '{name}': {text}"
    match files.locate false (s.path name) with
    | .error fault => refused (faultText fault)
    | .ok place =>
      match files.node? place with
      | none => refused "No such file or directory"
      | some .directory =>
        if (files.entries place).isEmpty then .ok (files.removeTree place)
        else refused "Directory not empty"
      | some _ => refused "Not a directory"

/-! ## Copying and moving -/

/-- The place that a name is copied or moved to: in a directory it keeps its own name. -/
def targetOf (s : State) (files : FileTree) (name target : String) : Except FileFault Place := do
  let path := s.path target
  if files.isDirectory path then
    files.locate true (path.child (((s.path name).fileName?).getD name))
  else files.locate true path

/-- Applies a program to all names but the last, which is the target. -/
def toTarget (s : State) (program : String) (args : List String)
    (act : FileTree → List Char → String → Place → Place → Except String FileTree) : Result :=
  let (letters, words) := lettersAndNames args
  match words.reverse with
  | [] => s.done 1 "" (s!"{program}: missing file operand\n" ++
      s!"Try '{program} --help' for more information.\n")
  | [only] => s.done 1 "" (s!"{program}: missing destination file operand after '{only}'\n" ++
      s!"Try '{program} --help' for more information.\n")
  | target :: names =>
    forEachName s names.reverse fun files name =>
      match files.find (s.path name), files.locate true (s.path name),
          targetOf s files name target with
      | .error fault, _, _ => .error s!"{program}: cannot stat '{name}': {faultText fault}"
      | _, .error fault, _ => .error s!"{program}: cannot stat '{name}': {faultText fault}"
      | _, _, .error fault =>
        .error s!"{program}: cannot create regular file '{target}': {faultText fault}"
      | .ok _, .ok source, .ok place => act files letters name source place

/-- A copy of what lies at a place, written now. -/
def copied (files : FileTree) (source target : Place) : FileTree :=
  let now := files.clock + 1
  let stamp : FileNode → FileNode
    | .file content _ => .file content now
    | node => node
  { files.copyTree stamp source target with clock := now }

/-- Copies files, and directories with all that they hold if that is asked for. -/
def copy (s : State) (args : List String) : Result :=
  toTarget s "cp" args fun files letters name source target =>
    if files.node? source == some .directory then
      if letters.any fun c => c == 'r' || c == 'R' || c == 'a' then
        .ok (copied files source target)
      else .error s!"cp: -r not specified; omitting directory '{name}'"
    else .ok (copied files source target)

/-- Moves files and directories. -/
def move (s : State) (args : List String) : Result :=
  toTarget s "mv" args fun files _ _ source target =>
    if source == target then .ok files else .ok (files.moveTree source target)

end AgentDesk.Shell
