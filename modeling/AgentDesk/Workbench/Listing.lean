import AgentDesk.Glob.Pattern
import AgentDesk.Workbench.Settings
/-!
# Listing a directory

The tool shows a directory and all that lies below it as an indented tree. Hidden entries and
those that the caller wants to ignore are left out with all that they hold.

## Main definitions

* `Listing.lines`, `Listing.render`.
* `Listing.run`, `Listing.info`.
-/

namespace AgentDesk.Listing

/-- The name of the tool. -/
def name : String := "ls"

/-- The number of entries that are shown. -/
def limit : Nat := 1000

/-- The patterns of names that are never shown. -/
def ignoredAlways : List String := [".*", "__pycache__", "node_modules", ".git"]

/-- What is told about the tool. -/
def info : ToolInfo where
  name := name
  description := "Directory listing tool that shows files and subdirectories in a tree structure.

HOW TO USE:
- Provide a path to list (defaults to the working directory)
- Optionally specify glob patterns to ignore

LIMITATIONS:
- Results are limited to 1000 files
- Hidden files (starting with '.') are skipped"
  parameters := [("path", parameter "string"
      "The path to the directory to list (defaults to the working directory)"),
    ("ignore", Json.sorted [("type", .string "array"),
      ("description", .string "List of glob patterns to ignore"),
      ("items", Json.sorted [("type", .string "string")])])]
  required := ["path"]

/-- What the tool is asked. -/
structure Request where
  path : String
  ignore : List String
deriving Repr, BEq, DecidableEq

/-- Reads what the tool is asked. -/
def Request.shape : Shape Request := fun r d => do
  let fields ← d.record? ["path", "ignore"] r
  pure ⟨← fields.orDefault? "path" Document.text? "",
    ← fields.orDefault? "ignore" (Document.list? Document.text?) []⟩

/-- The patterns of names that are not shown; one without a meaning is passed over. -/
def ignoring (extra : List String) : List Glob.Pattern :=
  (ignoredAlways ++ extra).filterMap Glob.Pattern.parse?

/-- An entry as it is shown. -/
def line (e : FileTree.Entry) : String :=
  let indent := String.ofList (List.replicate (2 * e.names.length) ' ')
  let entry := e.names.getLast?.getD ""
  let mark := if e.node.isDirectory then "/" else ""
  s!"{indent}- {entry}{mark}"

/-- The lines for all entries below a directory. -/
def lines (files : FileTree) (place : Place) (ignore : List Glob.Pattern) : List String :=
  (files.walk (fun n _ => !ignore.any (Glob.Pattern.accepts Glob.lax · n)) place).map line

/-- The text of a listing, given all its lines. -/
def render (root : Path) (lines : List String) : String :=
  let note :=
    if lines.length > limit then
      s!"There are more than {limit} files in the directory. Use a more specific path " ++
      s!"or use the Glob tool to find specific files. The first {limit} files and directories " ++
      "are included below:\n\n"
    else ""
  let top := String.ofList ((root.text.toList.reverse.dropWhile (· == '/')).reverse)
  let shown := lines.take limit
  let body := if shown.isEmpty then ["  (empty)"] else shown
  note ++ s!"- {top}/\n" ++ String.join (body.map (· ++ "\n"))

/-- Answers for a directory. -/
def answer (files : FileTree) (root : Path) (extra : List String) : ToolResponse :=
  match files.find root, files.locate true root with
  | .ok .directory, .ok place =>
    let lines := lines files place (ignoring extra)
    (ToolResponse.text (render root lines)).withMetadata <| .object
      [("number_of_files", .nat (lines.take limit).length),
        ("truncated", .bool (lines.length > limit))]
  | .ok _, _ => .error s!"not a directory: {root.text}"
  | .error _, _ => .error s!"path does not exist: {root.text}"

/-- Runs the tool. -/
def run (settings : WorkbenchSettings) (call : Invocation) (files : FileTree) : ToolOutcome := do
  let request ← call.parameters? Request.shape
  .ok (answer files (settings.resolveOrHere request.path) request.ignore)

end AgentDesk.Listing
