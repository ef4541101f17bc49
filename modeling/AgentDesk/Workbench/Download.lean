import AgentDesk.Network
import AgentDesk.Text.LowerCase
import AgentDesk.Workbench.Settings
/-!
# Downloading a text

The tool asks the network for an address and shows the text that it answers, tidied up if the
caller wants that. Long answers are cut off.

## Main definitions

* `Download.tidy` — blanks at line ends and long runs of blank lines removed.
* `Download.readUpTo` — what is read of a body.
* `Download.cut` — a text of limited size.
* `Download.run`, `Download.info`.
-/

namespace AgentDesk.Download

/-- The name of the tool. -/
def name : String := "fetch"

/-- The number of bytes that are read. -/
def readLimit : Nat := 5 * 1024 * 1024

/-- The number of bytes that are shown. -/
def sizeLimit : Nat := 250 * 1024

/-- How the tool introduces itself. -/
def agent : String := "taskloom/0.1.0"

/-- What is told about the tool. -/
def info : ToolInfo where
  name := name
  description := "Fetches content from a URL and returns it in the specified format.

HOW TO USE:
- Provide the URL to fetch content from
- Specify the desired output format (text or raw)
- Optionally set a timeout in seconds (max 120)

LIMITATIONS:
- Responses larger than 5MB are cut off
- Only supports HTTP and HTTPS protocols"
  parameters := [("url", parameter "string" "The URL to fetch content from"),
    ("format", Json.sorted [("type", .string "string"),
      ("description", .string "The format to return the content in (text or raw)"),
      ("enum", Json.strings ["text", "raw"])]),
    ("timeout", parameter "number" "Optional timeout in seconds (max 120)")]
  required := ["url", "format"]

/-- What the tool is asked. -/
structure Request where
  url : String
  format : String
  timeout : Option Nat
deriving Repr, BEq, DecidableEq

/-- Reads what the tool is asked. -/
def Request.shape : Shape Request := fun r d => do
  let fields ← d.record? ["url", "format", "timeout"] r
  pure ⟨← fields.orDefault? "url" Document.text? "", ← fields.orDefault? "format" Document.text? "",
    ← fields.orDefault? "timeout" (Document.nullable? (Document.natUpTo? (UInt64.size - 1))) none⟩

/-- How a downloaded text is shown. -/
inductive Format where
  | tidied
  | raw
deriving Repr, BEq, DecidableEq

/-- The format that a text names, regardless of case. -/
def Format.parse? (text : String) : Option Format :=
  match Text.lower text with
  | "text" => some .tidied
  | "raw" => some .raw
  | _ => none

/-! ## Texts -/

/-- The number of blank lines that are kept in a row. -/
def blankRun : Nat := 2

/-- Drops the blank lines behind the second of a run; the blank lines directly in front are
counted. -/
def dropBlankLines (blanks : Nat) : List (List Char) → List (List Char)
  | [] => []
  | line :: rest =>
    if line.isEmpty then
      if blanks < blankRun then line :: dropBlankLines (blanks + 1) rest
      else dropBlankLines (blanks + 1) rest
    else line :: dropBlankLines 0 rest

/-- A text without blanks at line ends and around it, and with short runs of blank lines. -/
def tidy (body : String) : String :=
  let lines := dropBlankLines 0 ((Text.linesOf body.toList).map Text.dropBlankEnd)
  String.ofList (Text.strip (List.intercalate ['\n'] lines))

/-- The characters at the start of a text that fit into a number of bytes. -/
def fitting (room : Nat) : List Char → List Char
  | [] => []
  | c :: r => if c.utf8Size ≤ room then c :: fitting (room - c.utf8Size) r else []

/-- A text, cut to whole characters if it is too long. -/
def cut (content : String) : String :=
  if content.utf8ByteSize > sizeLimit then
    String.ofList (fitting sizeLimit content.toList) ++
      s!"\n\n[Content truncated to {sizeLimit} bytes]"
  else content

/-! ## Runs -/

/-- Whether the tool can ask for an address. -/
def isWebAddress (url : String) : Bool :=
  (Text.stripPrefix? "http://" url).isSome || (Text.stripPrefix? "https://" url).isSome

/-- A failure of the tool. -/
def failed (reason : String) : ToolOutcome := .error (.execution name reason)

/-- What a reply says of its content; nothing if that is not plain ASCII. -/
def contentType (reply : HttpReply) : String :=
  match reply.header? "content-type" with
  | some text => if text.toList.all (fun c => c.toNat < 127) then text else ""
  | none => ""

/-- What is read of a body in chunks as long as there is room, and whether the room was filled. -/
def readUpTo (room : Nat) : List ByteArray → ByteArray × Bool
  | [] => (ByteArray.empty, false)
  | chunk :: rest =>
    if chunk.size ≥ room then (chunk.extract 0 room, true)
    else
      let (more, full) := readUpTo (room - chunk.size) rest
      (chunk ++ more, full)

/-- Answers for a reply. A body that ends too early is not noticed behind what is read. -/
def answer (url : String) (format : Format) (reply : HttpReply) : ToolOutcome :=
  let (body, full) := readUpTo readLimit reply.chunks
  if !reply.isSuccess then .ok (.error s!"Request failed with status code: {reply.status}")
  else if !reply.complete && !full then
    failed s!"failed to read response body: {Network.bodyCut}"
  else
    match String.fromUTF8? body with
    | none => .ok (.error "Response content is not valid UTF-8")
    | some text =>
      let content := match format with
        | .tidied => tidy text
        | .raw => text
      .ok <| (ToolResponse.text (cut content)).withMetadata <| .object
        [("url", .string url), ("status", .nat reply.status),
          ("content_type", .string (contentType reply)),
          ("bytes", .nat content.utf8ByteSize)]

/-- The request for an address. -/
def requestFor (url : String) : HttpRequest := ⟨"GET", url, [("user-agent", agent)], ""⟩

/-- Runs the tool. -/
def run (canceled : Bool) (call : Invocation) (net : Network) : ToolOutcome × Network :=
  match call.parameters? Request.shape with
  | .error failure => (.error failure, net)
  | .ok request =>
    let refused (message : String) : ToolOutcome × Network := (.ok (.error message), net)
    if request.url.isEmpty then refused "URL parameter is required"
    else if request.format.isEmpty then refused "format parameter is required"
    else
      match Format.parse? request.format with
      | none => refused "format must be 'text' or 'raw'"
      | some format =>
        if !isWebAddress request.url then refused "URL must start with http:// or https://"
        else if canceled then (.error .canceled, net)
        else
          match net.send (requestFor request.url) with
          | (.error text, net) => (failed s!"failed to fetch URL: {text}", net)
          | (.ok reply, net) => (answer request.url format reply, net)

end AgentDesk.Download
