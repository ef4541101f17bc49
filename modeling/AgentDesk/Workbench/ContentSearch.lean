import AgentDesk.Glob.Braces
import AgentDesk.Glob.Pattern
import AgentDesk.Regex.Parse
import AgentDesk.Workbench.Settings
/-!
# Searching the content of files

The tool looks for a regular expression in every line of every text file below a directory. The
lines are shown file by file, the latest change first.

## Main definitions

* `LineMatch`, `ranked` — the order of the lines and the limit on their number.
* `ContentSearch.search`, `ContentSearch.render`.
* `ContentSearch.run`, `ContentSearch.info`.
-/

namespace AgentDesk.ContentSearch

/-- The name of the tool. -/
def name : String := "grep"

/-- The number of lines that are shown. -/
def limit : Nat := 100

/-- The number of characters that are shown of a line. -/
def lineLimit : Nat := 500

/-- The number of bytes that decide whether a file holds text. -/
def probeSize : Nat := 8192

/-- What is told about the tool. -/
def info : ToolInfo where
  name := name
  description := "Fast content search tool that finds files containing specific text or regex patterns.

HOW TO USE:
- Provide a regex pattern to search for within file contents
- Optionally specify a starting directory (defaults to the working directory)
- Optionally provide an include pattern to filter which files to search (eg. \"*.js\", \"*.\x7bts,tsx\x7d\")
- Results are grouped by file, most recently modified first

LIMITATIONS:
- Results are limited to 100 matches
- Binary and hidden files are skipped"
  parameters := [("pattern", parameter "string"
      "The regex pattern to search for in file contents"),
    ("path", parameter "string"
      "The directory to search in (defaults to the working directory)"),
    ("include", parameter "string"
      "File pattern to include in the search (e.g. \"*.js\", \"*.\x7bts,tsx\x7d\")")]
  required := ["pattern"]

/-- What the tool is asked. -/
structure Request where
  pattern : String
  path : String
  wanted : Option String
deriving Repr, BEq, DecidableEq

/-- Reads what the tool is asked. -/
def Request.shape : Shape Request := fun r d => do
  let fields ← (d.renamed "include_pattern" "include").record? ["pattern", "path", "include"] r
  pure ⟨← fields.orDefault? "pattern" Document.text? "",
    ← fields.orDefault? "path" Document.text? "",
    ← fields.orDefault? "include" (Document.nullable? Document.text?) none⟩

/-- A line that was found: its file and when that was last written, and the number and text of
the line. -/
structure LineMatch where
  path : Path
  modified : Nat
  number : Nat
  line : String
deriving Repr, BEq, DecidableEq

/-- Whether a line is shown no later than another: the latest change first, then by path, then by
number. -/
def precedes (a b : LineMatch) : Bool :=
  b.modified < a.modified || (a.modified == b.modified &&
    ((a.path.order b.path).then (compare a.number b.number)).isLE)

/-- Lines in the order in which they are shown, without those beyond the limit, and whether there
were any. -/
def ranked (limit : Nat) (found : List LineMatch) : List LineMatch × Bool :=
  ((found.mergeSort precedes).take limit, found.length > limit)

/-- Whether an entry is looked at: it is not hidden and no directory that is passed over. -/
def isVisited (entry : String) (node : FileNode) : Bool :=
  !(entry.startsWith "." || (node.isDirectory && Path.isSkipped entry))

/-- The patterns of files that are wanted; one without a meaning is passed over. -/
def wantedPatterns (wanted : Option String) : List Glob.Pattern :=
  match wanted with
  | none => []
  | some raw => (Glob.expandBraces raw).filterMap Glob.Pattern.parse?

/-- Whether a file is wanted, by its name or by its path below the root. -/
def isWanted (patterns : List Glob.Pattern) (name relative : String) : Bool :=
  patterns.isEmpty ||
    patterns.any fun p => p.accepts Glob.lax name || p.accepts Glob.lax relative

/-- The text of a file; none for a binary file. -/
def textOf? (content : ByteArray) : Option String :=
  if (content.extract 0 probeSize).data.any (· == 0) then none else String.fromUTF8? content

/-- A line as it is shown. -/
def shown (line : String) : String :=
  match Text.firstChars? lineLimit line with
  | some head => s!"{head}..."
  | none => line

/-- The lines of a text that match, with their numbers, the first of which is given. -/
def matchingLines (regex : Regex) (first : Nat) : List String → List (Nat × String)
  | [] => []
  | line :: rest =>
    let found := matchingLines regex (first + 1) rest
    if regex.occursIn line then (first, shown line) :: found else found

/-- The lines of one file that match. -/
def searchFile (regex : Regex) (path : Path) (content : ByteArray) (modified : Nat) :
    List LineMatch :=
  match textOf? content with
  | none => []
  | some text =>
    (matchingLines regex 1 (Text.lines text)).map fun (n, line) => ⟨path, modified, n, line⟩

/-- A regular file below the root: the names that lead to it, its content and when it was last
written. -/
structure Candidate where
  names : Place
  content : ByteArray
  modified : Nat

/-- The regular files below a root, or the root itself if it is one. A root that is a link is
followed only to a directory. -/
def candidates (files : FileTree) (root : Path) : List Candidate :=
  let own := match files.locate false root with
    | .ok place => files.node? place
    | .error _ => none
  match own, files.locate true root with
  | some (.file content modified), _ => [⟨[], content, modified⟩]
  | _, .ok place =>
    (files.walk isVisited place).filterMap fun e =>
      match e.node with
      | .file content modified => some ⟨e.names, content, modified⟩
      | _ => none
  | _, .error _ => []

/-- The lines below a root that match. -/
def search (files : FileTree) (root : Path) (regex : Regex) (patterns : List Glob.Pattern) :
    List LineMatch :=
  (candidates files root).flatMap fun c =>
    let path : Path := ⟨root.absolute, root.steps ++ c.names.map .name⟩
    if isWanted patterns (path.fileName?.getD "") (Text.join "/" c.names) then
      searchFile regex path c.content c.modified
    else []

/-- The lines with a header in front of each file. -/
def renderLines (current : Option Path) : List LineMatch → String
  | [] => ""
  | m :: rest =>
    let gap := if current.isSome then "\n" else ""
    let header := if current == some m.path then "" else s!"{gap}{m.path.text}:\n"
    header ++ s!"  Line {m.number}: {m.line}\n" ++ renderLines (some m.path) rest

/-- The text for the lines that are shown. -/
def render (found : List LineMatch) (truncated : Bool) : String :=
  s!"Found {found.length} matches\n" ++ renderLines none found ++
    (if truncated then
      "\n(Results are truncated. Consider using a more specific path or pattern.)" else "")

/-- Answers for a root. -/
def answer (files : FileTree) (root : Path) (regex : Regex) (wanted : Option String) :
    ToolResponse :=
  let (found, truncated) := ranked limit (search files root regex (wantedPatterns wanted))
  let text := if found.isEmpty then "No files found" else render found truncated
  (ToolResponse.text text).withMetadata <| .object
    [("number_of_matches", .nat found.length), ("truncated", .bool truncated)]

/-- What is said of an expression without a meaning. -/
def meaningless : String := "the expression is not written by the rules"

/-- Runs the tool. -/
def run (settings : WorkbenchSettings) (canceled : Bool) (call : Invocation) (files : FileTree) :
    ToolOutcome := do
  let request ← call.parameters? Request.shape
  if request.pattern.isEmpty then .ok (.error "pattern is required")
  else
    match Regex.parse? request.pattern with
    | none => .ok (.error s!"invalid regex pattern: {meaningless}")
    | some regex =>
      let root := settings.resolveOrHere request.path
      if !files.exists? root then .ok (.error s!"path does not exist: {root.text}")
      else if canceled then .error .canceled
      else .ok (answer files root regex request.wanted)

end AgentDesk.ContentSearch
