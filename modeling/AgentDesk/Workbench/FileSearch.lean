import AgentDesk.Glob.Braces
import AgentDesk.Glob.Search
import AgentDesk.Workbench.Settings
/-!
# Finding files by name

The tool lists the files that match a pattern, the latest change first.

## Main definitions

* `Hit`, `newestFirst` and `cap` — the order of the files and the limit on their number.
* `FileSearch.find` — the files that match a pattern.
* `FileSearch.run`, `FileSearch.info`.
-/

namespace AgentDesk.FileSearch

/-- The name of the tool. -/
def name : String := "glob"

/-- The number of files that are listed. -/
def limit : Nat := 100

/-- What is told about the tool. -/
def info : ToolInfo where
  name := name
  description := "Fast file pattern matching tool that finds files by name and pattern, returning matching paths sorted by modification time (newest first).

PATTERN SYNTAX:
- '*' matches any sequence of non-separator characters
- '**' matches any sequence of characters, including separators
- '?' matches any single non-separator character
- '\x7ba,b\x7d' matches either alternative

LIMITATIONS:
- Results are limited to 100 files
- Hidden files (starting with '.') are skipped"
  parameters := [("pattern", parameter "string" "The glob pattern to match files against"),
    ("path", parameter "string"
      "The directory to search in (defaults to the working directory)")]
  required := ["pattern"]

/-- What the tool is asked. -/
structure Request where
  pattern : String
  path : String
deriving Repr, BEq, DecidableEq

/-- Reads what the tool is asked. -/
def Request.shape : Shape Request := fun r d => do
  let fields ← d.record? ["pattern", "path"] r
  pure ⟨← fields.orDefault? "pattern" Document.text? "",
    ← fields.orDefault? "path" Document.text? ""⟩

/-- A file that was found: the text of its path, the path, and when it was last written. -/
structure Hit where
  text : String
  path : Path
  modified : Nat
deriving Repr, BEq, DecidableEq

/-- Whether a file is listed no later than another: the latest change first, then by path. -/
def precedes (a b : Hit) : Bool :=
  b.modified < a.modified || (a.modified == b.modified && (a.path.order b.path).isLE)

/-- Files in the order of the list, without those beyond the limit, and whether there were any. -/
def ranked (limit : Nat) (hits : List Hit) : List Hit × Bool :=
  ((hits.mergeSort precedes).take limit, hits.length > limit)

/-- The file at the end of a trail, unless it is hidden below the root. -/
def hit? (files : FileTree) (root : Path) (t : Glob.Trail) : Option Hit :=
  if root.isHiddenBelow t.path then none
  else
    match files.find t.path with
    | .ok (.file _ modified) => some ⟨t.text, t.path, modified⟩
    | _ => none

/-- Files without those that have the path of an earlier one. -/
def distinct (hits : List Hit) : List Hit :=
  (hits.foldl (fun kept h => if kept.any (·.path == h.path) then kept else h :: kept) []).reverse

/-- The root of a search as a part of a pattern. -/
def patternRoot (root : Path) : String :=
  String.ofList (((Glob.Pattern.escape root.text).toList.reverse.dropWhile (· == '/')).reverse)

/-- The files below a root that match a pattern. -/
def find (files : FileTree) (root : Path) (pattern : String) : List Hit :=
  let trails := (Glob.expandBraces pattern).flatMap fun p =>
    Glob.search files Glob.strict (patternRoot root ++ "/" ++ p)
  distinct (trails.filterMap (hit? files root))

/-- Answers for a root and a pattern. -/
def answer (files : FileTree) (root : Path) (pattern : String) : ToolResponse :=
  let (hits, truncated) := ranked limit (find files root pattern)
  let metadata : Json := .object
    [("number_of_files", .nat hits.length), ("truncated", .bool truncated)]
  let listed := Text.join "\n" (hits.map (·.text))
  let note := "\n\n(Results are truncated. Consider using a more specific path or pattern.)"
  let text :=
    if hits.isEmpty then "No files found"
    else if truncated then listed ++ note
    else listed
  (ToolResponse.text text).withMetadata metadata

/-- Runs the tool. -/
def run (settings : WorkbenchSettings) (call : Invocation) (files : FileTree) : ToolOutcome := do
  let request ← call.parameters? Request.shape
  if request.pattern.isEmpty then .ok (.error "pattern is required")
  else .ok (answer files (settings.resolveOrHere request.path) request.pattern)

end AgentDesk.FileSearch
