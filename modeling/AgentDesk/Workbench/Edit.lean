import AgentDesk.Text.LineChanges
import AgentDesk.Text.Replacement
import AgentDesk.Workbench.Settings
/-!
# Editing a file

The tool replaces a text in a file. Without a text to replace it creates a file.

## Main definitions

* `Edit.create`, `Edit.replace`.
* `Edit.run`, `Edit.info`.
-/

namespace AgentDesk.Edit

/-- The name of the tool. -/
def name : String := "edit"

/-- What is told about the tool. -/
def info : ToolInfo where
  name := name
  description := "Edits files by replacing text, creating new files, or deleting content.

HOW TO USE:
- file_path: path to the file to modify or create
- old_string: the text to replace (must match exactly, including whitespace)
- new_string: the replacement text
- replace_all: replace every occurrence instead of requiring a unique match

SPECIAL CASES:
- To create a new file: leave old_string empty and put the file contents in new_string
- To delete content: provide old_string and leave new_string empty"
  parameters := [("file_path", parameter "string" "The path to the file to modify"),
    ("old_string", parameter "string" "The text to replace"),
    ("new_string", parameter "string" "The text to replace it with"),
    ("replace_all", parameter "boolean" "Replace all occurrences of old_string (default false)")]
  required := ["file_path", "old_string", "new_string"]

/-- What the tool is asked. -/
structure Request where
  path : String
  replacement : Text.Replacement
deriving Repr, BEq, DecidableEq

/-- Reads what the tool is asked. -/
def Request.shape : Shape Request := fun r d => do
  let fields ← d.record? ["file_path", "old_string", "new_string", "replace_all"] r
  let path ← fields.orDefault? "file_path" Document.text? ""
  let old ← fields.orDefault? "old_string" Document.text? ""
  let new ← fields.orDefault? "new_string" Document.text? ""
  let everywhere ← fields.orDefault? "replace_all" Document.truth? false
  pure ⟨path, ⟨old, new, everywhere⟩⟩

/-- A failure of the file tree. -/
def failed (doing : String) (fault : FileFault) : ToolOutcome :=
  .error (.execution name s!"failed to {doing}: {fault.describe}")

/-- The answer after a file was changed. -/
def changed (message : String) (path : Path) (old new : String) : ToolOutcome :=
  let (added, removed) := Text.lineChanges old new
  .ok <| (ToolResponse.text message).withMetadata <| .object
    [("file_path", .string path.text), ("additions", .nat added), ("removals", .nat removed)]

/-- Creates a file, with the directories above it. -/
def create (files : FileTree) (path : Path) (content : String) : ToolRun :=
  let text := path.text
  match files.find path with
  | .ok .directory => .refused files s!"path is a directory, not a file: {text}"
  | .ok _ => .refused files s!"file already exists: {text}"
  | .error _ =>
    match files.makeDirectories (path.parent?.getD path) with
    | (.error fault, files) => (failed "create parent directories" fault, files)
    | (.ok (), files) =>
      match files.write path content.toUTF8 with
      | .error fault => (failed "write file" fault, files)
      | .ok files => (changed s!"File created: {text}" path "" content, files)

/-- What is told about a replacement in a file. -/
def message (r : Text.Replacement) (path : Path) (occurrences : Nat) : String :=
  let text := path.text
  if r.new.isEmpty then
    s!"Content deleted from file: {text} ({occurrences} occurrence(s) removed)"
  else s!"File successfully edited: {text} ({occurrences} occurrence(s) replaced)"

/-- Replaces a text in a file that exists. -/
def replace (files : FileTree) (path : Path) (r : Text.Replacement) : ToolRun :=
  match files.find path with
  | .ok .directory => .refused files s!"path is a directory, not a file: {path.text}"
  | .error _ => .refused files s!"file does not exist: {path.text}"
  | .ok _ =>
    match files.readText path with
    | .error fault => (failed "read file" fault, files)
    | .ok old =>
      match r.perform? old with
      | .error fault => .refused files fault.describe
      | .ok (new, occurrences) =>
        if new == old then
          .refused files "new content is the same as old content. No changes made."
        else
          match files.write path new.toUTF8 with
          | .error fault => (failed "write file" fault, files)
          | .ok files => (changed (message r path occurrences) path old new, files)

/-- Runs the tool. -/
def run (settings : WorkbenchSettings) (call : Invocation) (files : FileTree) : ToolRun :=
  match call.parameters? Request.shape with
  | .error failure => (.error failure, files)
  | .ok ⟨raw, r⟩ =>
    if raw.isEmpty then .refused files "file_path is required"
    else if r.old.isEmpty && r.new.isEmpty then
      .refused files "either old_string or new_string must be provided"
    else if r.old == r.new then
      .refused files "old_string and new_string are identical. No changes needed."
    else
      let path := settings.resolve raw
      match settings.refusal? name path with
      | some failure => (.error failure, files)
      | none => if r.old.isEmpty then create files path r.new else replace files path r

end AgentDesk.Edit
