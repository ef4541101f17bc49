import AgentDesk.Text.LineChanges
import AgentDesk.Workbench.Settings
/-!
# Writing a file

The tool gives a file a new content, and creates the file and the directories above it if they are
missing.

## Main definitions

* `Write.run`, `Write.info`.
-/

namespace AgentDesk.Write

/-- The name of the tool. -/
def name : String := "write"

/-- What is told about the tool. -/
def info : ToolInfo where
  name := name
  description := "File writing tool that creates or updates files in the filesystem.

HOW TO USE:
- Provide the path to the file you want to write
- Include the complete content to be written to the file
- Parent directories are created when missing

TIPS:
- Use the view tool first to examine existing files before modifying them
- Use the edit tool for targeted changes to large files"
  parameters := [("file_path", parameter "string" "The path to the file to write"),
    ("content", parameter "string" "The content to write to the file")]
  required := ["file_path", "content"]

/-- What the tool is asked. -/
structure Request where
  path : String
  content : String
deriving Repr, BEq, DecidableEq

/-- Reads what the tool is asked. -/
def Request.shape : Shape Request := fun r d => do
  let fields ← d.record? ["file_path", "content"] r
  pure ⟨← fields.orDefault? "file_path" Document.text? "",
    ← fields.orDefault? "content" Document.text? ""⟩

/-- The text in front of the change; a file that holds no text counts as empty. -/
def earlierText (files : FileTree) (path : Path) : String :=
  match files.readText path with
  | .ok text => text
  | .error _ => ""

/-- Writes a content to a path where no directory lies. -/
def store (files : FileTree) (path : Path) (content : String) : ToolRun :=
  let earlier := earlierText files path
  let failed (doing : String) (fault : FileFault) : ToolOutcome :=
    .error (.execution name s!"error {doing}: {fault.describe}")
  if files.exists? path && earlier == content then
    .refused files "File content unchanged. No write performed."
  else
    match files.makeDirectories (path.parent?.getD path) with
    | (.error fault, files) => (failed "creating directory" fault, files)
    | (.ok (), files) =>
      match files.write path content.toUTF8 with
      | .error fault => (failed "writing file" fault, files)
      | .ok files =>
        let text := path.text
        let (added, removed) := Text.lineChanges earlier content
        let message :=
          s!"<result>\nsuccessfully wrote {content.utf8ByteSize} bytes to {text}\n</result>"
        (.ok ((ToolResponse.text message).withMetadata (.object
          [("file_path", .string text), ("additions", .nat added), ("removals", .nat removed)])),
          files)

/-- Runs the tool. -/
def run (settings : WorkbenchSettings) (call : Invocation) (files : FileTree) : ToolRun :=
  match call.parameters? Request.shape with
  | .error failure => (.error failure, files)
  | .ok request =>
    if request.path.isEmpty then .refused files "file_path is required"
    else
      let path := settings.resolve request.path
      match settings.refusal? name path with
      | some failure => (.error failure, files)
      | none =>
        if files.isDirectory path then
          .refused files s!"path is a directory, not a file: {path.text}"
        else store files path request.content

end AgentDesk.Write
