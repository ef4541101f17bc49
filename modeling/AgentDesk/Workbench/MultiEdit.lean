import AgentDesk.Text.LineChanges
import AgentDesk.Text.Replacement
import AgentDesk.Workbench.Settings
/-!
# Several edits at once

The tool applies a list of replacements to one file, each to the result of the one before it. The
file is written only if all of them apply. The edits see line feeds only: a file with carriage
returns in front of its line feeds is written back with them.

## Main definitions

* `MultiEdit.fault?` — what is wrong with a list of edits.
* `MultiEdit.applyAll?` — the text after all edits.
* `MultiEdit.run`, `MultiEdit.info`.
-/

namespace AgentDesk.MultiEdit

open Text (Replacement)

/-- The name of the tool. -/
def name : String := "multiedit"

/-- The schema of one edit. -/
def editSchema : Json := Json.sorted
  [("type", .string "object"),
    ("properties", Json.sorted
      [("old_string", parameter "string" "The text to replace"),
        ("new_string", parameter "string" "The text to replace it with"),
        ("replace_all", Json.sorted [("type", .string "boolean"), ("default", .bool false),
          ("description", .string "Replace all occurrences of old_string (default false)")])]),
    ("required", Json.strings ["old_string", "new_string"]), ("additionalProperties", .bool false)]

/-- What is told about the tool. -/
def info : ToolInfo where
  name := name
  description := "Makes several find-and-replace edits to a single file in one operation. Prefer it over the edit tool when changing several places in the same file.

HOW TO USE:
- file_path: path to the file to modify or create
- edits: list of edits, each with old_string, new_string and optional replace_all

IMPORTANT:
- Edits are applied in the order given, each to the result of the previous one
- Either every edit applies or the file is left untouched
- Each edit follows the edit tool's rules: exact match, unique unless replace_all is set
- Make sure earlier edits do not change text that later edits look for

To create a new file, give the first edit an empty old_string and the file contents as new_string. Later edits then operate on that content."
  parameters := [("file_path", parameter "string" "The path to the file to modify"),
    ("edits", Json.sorted [("type", .string "array"), ("minItems", .nat 1),
      ("description", .string "Edit operations to perform in order on the file"),
      ("items", editSchema)])]
  required := ["file_path", "edits"]

/-- Reads one edit. -/
def editShape : Shape Replacement := fun r d => do
  let fields ← d.record? ["old_string", "new_string", "replace_all"] r
  pure ⟨← fields.orDefault? "old_string" Document.text? "",
    ← fields.orDefault? "new_string" Document.text? "",
    ← fields.orDefault? "replace_all" Document.truth? false⟩

/-- What the tool is asked. -/
structure Request where
  path : String
  edits : List Replacement
deriving Repr, BEq, DecidableEq

/-- Reads what the tool is asked. -/
def Request.shape : Shape Request := fun r d => do
  let fields ← d.record? ["file_path", "edits"] r
  pure ⟨← fields.orDefault? "file_path" Document.text? "",
    ← fields.orDefault? "edits" (Document.list? editShape) []⟩

/-- What is wrong with an edit; only the first one of a list may create a file. -/
def editFault? (number : Nat) (r : Replacement) : Option String :=
  if r.old.isEmpty && r.new.isEmpty then
    some s!"edit {number}: both old_string and new_string cannot be empty"
  else if r.old == r.new then some s!"edit {number}: old_string and new_string are identical"
  else if number > 1 && r.old.isEmpty then
    some s!"edit {number}: only the first edit can have an empty old_string (for file creation)"
  else none

/-- The first thing that is wrong with edits, the first of which has the given number. -/
def firstFault? (number : Nat) : List Replacement → Option String
  | [] => none
  | r :: rest => (editFault? number r).or (firstFault? (number + 1) rest)

/-- What is wrong with a list of edits. -/
def fault? : List Replacement → Option String
  | [] => some "at least one edit is required"
  | edits => firstFault? 1 edits

/-- The text after all edits, the first of which has the given number. -/
def applyAll? (number : Nat) (content : String) : List Replacement → Except String String
  | [] => .ok content
  | r :: rest =>
    match r.perform? content with
    | .error fault => .error s!"edit {number} failed: {fault.describe}"
    | .ok (content, _) => applyAll? (number + 1) content rest

/-- A failure of the file tree. -/
def failed (doing : String) (fault : FileFault) : ToolOutcome :=
  .error (.execution name s!"failed to {doing}: {fault.describe}")

/-- The answer after a file was changed. -/
def changed (message : String) (path : Path) (edits : Nat) (old new : String) : ToolOutcome :=
  let (added, removed) := Text.lineChanges old new
  .ok <| (ToolResponse.text message).withMetadata <| .object
    [("file_path", .string path.text), ("edits_applied", .nat edits), ("additions", .nat added),
      ("removals", .nat removed)]

/-- Creates a file with the text of the first edit after the other edits. -/
def create (files : FileTree) (path : Path) (first : Replacement) (rest : List Replacement) :
    ToolRun :=
  let text := path.text
  if files.exists? path then
    .refused files s!"file already exists: {text} (remove it first or use the edit tool)"
  else
    match applyAll? 2 first.new rest with
    | .error reason => .refused files reason
    | .ok content =>
      match files.makeDirectories (path.parent?.getD path) with
      | (.error fault, files) => (failed "create parent directories" fault, files)
      | (.ok (), files) =>
        match files.write path content.toUTF8 with
        | .error fault => (failed "write file" fault, files)
        | .ok files =>
          let n := rest.length + 1
          (changed s!"File created with {n} edits: {text}" path n "" content, files)

/-- A text with line feeds only. -/
def withoutReturns (content : String) : String := Text.replace "\r\n" "\n" content

/-- A text with a carriage return in front of each line feed. -/
def withReturns (content : String) : String := Text.replace "\n" "\r\n" content

/-- Edits a file that exists. -/
def editExisting (files : FileTree) (path : Path) (edits : List Replacement) : ToolRun :=
  let text := path.text
  match files.find path with
  | .ok .directory => .refused files s!"path is a directory, not a file: {text}"
  | .error _ =>
    .refused files
      s!"file does not exist: {text} (use a first edit with an empty old_string to create it)"
  | .ok _ =>
    match files.readText path with
    | .error fault => (failed "read file" fault, files)
    | .ok content =>
      let old := withoutReturns content
      match applyAll? 1 old edits with
      | .error reason => .refused files reason
      | .ok new =>
        if new == old then
          .refused files "No changes made (all edits resulted in identical content)"
        else
          let written := if Text.contains "\r\n" content then withReturns new else new
          match files.write path written.toUTF8 with
          | .error fault => (failed "write file" fault, files)
          | .ok files =>
            let n := edits.length
            (changed s!"Applied {n} edits to file: {text}" path n old new, files)

/-- Runs the tool. -/
def run (settings : WorkbenchSettings) (call : Invocation) (files : FileTree) : ToolRun :=
  match call.parameters? Request.shape with
  | .error failure => (.error failure, files)
  | .ok ⟨raw, edits⟩ =>
    if raw.isEmpty then .refused files "file_path is required"
    else
      match fault? edits, edits with
      | some reason, _ => .refused files reason
      | none, [] => .refused files "at least one edit is required"
      | none, first :: rest =>
        let path := settings.resolve raw
        match settings.refusal? name path with
        | some failure => (.error failure, files)
        | none =>
          if first.old.isEmpty then create files path first rest
          else editExisting files path edits

end AgentDesk.MultiEdit
