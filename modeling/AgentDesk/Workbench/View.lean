import AgentDesk.Text.LowerCase
import AgentDesk.Workbench.Settings
/-!
# Viewing a file

The tool shows a page of a text file with line numbers.

## Main definitions

* `View.page` — the lines of a page and the notice that more follow.
* `View.run`, `View.info`.
-/

namespace AgentDesk.View

/-- The name of the tool. -/
def name : String := "view"

/-- The number of bytes in a file that is shown. -/
def sizeLimit : Nat := 250 * 1024

/-- The number of lines on a page unless another is asked for. -/
def pageLength : Nat := 2000

/-- The number of characters that are shown of a line. -/
def lineLimit : Nat := 2000

/-- The number of names that are suggested for a missing file. -/
def suggestionLimit : Nat := 3

/-- What is told about the tool. -/
def info : ToolInfo where
  name := name
  description := "File viewing tool that reads and displays the contents of files with line numbers.

HOW TO USE:
- Provide the path to the file you want to view
- Optionally specify an offset (0-based line) to start reading from
- Optionally specify a limit to control how many lines are read (default 2000)
- Do not use this for directories, use the ls tool instead

LIMITATIONS:
- Maximum file size is 250KB
- Lines longer than 2000 characters are truncated
- Cannot display binary files or images"
  parameters := [("file_path", parameter "string" "The path to the file to read"),
    ("offset", parameter "integer"
      "Number of lines to skip from the beginning (0-based, default 0)"),
    ("limit", parameter "integer" "The number of lines to read (defaults to 2000)")]
  required := ["file_path"]

/-- What the tool is asked. No limit stands for the usual one. -/
structure Request where
  path : String
  offset : Nat
  limit : Nat
deriving Repr, BEq, DecidableEq

/-- Reads what the tool is asked. -/
def Request.shape : Shape Request := fun r d => do
  let fields ← d.record? ["file_path", "offset", "limit"] r
  let count := Document.natUpTo? (UInt64.size - 1)
  pure ⟨← fields.orDefault? "file_path" Document.text? "", ← fields.orDefault? "offset" count 0,
    ← fields.orDefault? "limit" count 0⟩

/-- The kind of image that a file name tells of. -/
def imageKind? (path : Path) : Option String :=
  path.extension?.bind fun ext =>
    match Text.lower ext with
    | "jpg" => some "JPEG"
    | "jpeg" => some "JPEG"
    | "png" => some "PNG"
    | "gif" => some "GIF"
    | "bmp" => some "BMP"
    | "svg" => some "SVG"
    | "webp" => some "WebP"
    | _ => none

/-- The paths next to a missing file whose names overlap with its name, regardless of case. -/
def suggestions (files : FileTree) (path : Path) : List String :=
  match path.parent?, path.fileName? with
  | some dir, some missing =>
    match files.locate true dir with
    | .ok place =>
      let missing := Text.lower missing
      let similar := (files.entries place).filter fun (entry, _) =>
        let entry := Text.lower entry
        Text.contains missing entry || Text.contains entry missing
      (similar.take suggestionLimit).map fun (entry, _) => (dir.child entry).text
    | .error _ => []
  | _, _ => []

/-- A line as it is shown. -/
def shown (line : String) : String :=
  match Text.firstChars? lineLimit line with
  | some head => s!"{head}... (truncated)"
  | none => line

/-- Lines with their numbers, the first of which is given. -/
def numbered (first : Nat) : List String → List String
  | [] => []
  | line :: rest => s!"{Text.padLeft 6 (toString first)}→{line}" :: numbered (first + 1) rest

/-- The lines of a page. -/
def pageLines (content : String) (offset limit : Nat) : List String :=
  ((Text.lines content).drop offset).take limit

/-- The notice that lines follow behind a page: how many, and the number of the first one. -/
def notice (content : String) (offset limit : Nat) : Option (Nat × Nat) :=
  let total := (Text.lines content).length
  let read := (pageLines content offset limit).length
  if read = limit ∧ total > offset + read then some (total - (offset + read), offset + read + 1)
  else none

/-- A page of a text. -/
def page (content : String) (offset limit : Nat) : String :=
  let body :=
    if content.isEmpty then "(empty file)"
    else Text.join "\n" (numbered (offset + 1) ((pageLines content offset limit).map shown))
  let more := match notice content offset limit with
    | some (left, next) =>
      s!"\n\n(File has {left} more lines. Use 'offset' parameter to read from line {next})"
    | none => ""
  s!"<file>\n{body}{more}\n</file>"

/-- A failure of the tool. -/
def failed (reason : String) : ToolOutcome := .error (.execution name reason)

/-- Shows a file that was found. -/
def showFile (path : Path) (request : Request) (content : ByteArray) : ToolOutcome :=
  if content.size > sizeLimit then
    .ok (.error s!"File is too large ({content.size} bytes). Maximum size is {sizeLimit} bytes")
  else
    match imageKind? path with
    | some kind => .ok (.error s!"This is an image file of type: {kind}")
    | none =>
      match String.fromUTF8? content with
      | none => .ok (.error "File content is not valid UTF-8")
      | some content =>
        let limit := if request.limit = 0 then pageLength else request.limit
        .ok <| (ToolResponse.text (page content request.offset limit)).withMetadata <| .object
          [("file_path", .string path.text),
            ("lines_read", .nat (pageLines content request.offset limit).length),
            ("total_lines", .nat (Text.lines content).length)]

/-- Answers for a path. -/
def answer (files : FileTree) (path : Path) (request : Request) : ToolOutcome :=
  match files.find path with
  | .error .notFound =>
    let text := path.text
    match suggestions files path with
    | [] => .ok (.error s!"File not found: {text} (no such file or directory)")
    | similar =>
      let listed := Text.join "\n" similar
      .ok (.error s!"File not found: {text}\n\nDid you mean one of these?\n{listed}")
  | .error fault => failed s!"error accessing file: {fault.describe}"
  | .ok (.file content _) => showFile path request content
  | .ok _ => .ok (.error s!"Path is a directory, not a file: {path.text}")

/-- Runs the tool. -/
def run (settings : WorkbenchSettings) (call : Invocation) (files : FileTree) : ToolOutcome := do
  let request ← call.parameters? Request.shape
  if request.path.isEmpty then .ok (.error "file_path is required")
  else answer files (settings.resolve request.path) request

end AgentDesk.View
