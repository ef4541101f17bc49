import AgentDesk.Shell.Run
import AgentDesk.Text.LowerCase
import AgentDesk.Text.Utf8
import AgentDesk.Workbench.Settings
/-!
# Running commands of the shell

The tool runs a command in the working directory and shows what it wrote. Commands that start with
a banned text are refused, also behind another one; the run has a time limit.

## Main definitions

* `Terminal.bannedIn?` — the banned text that a command starts with.
* `Terminal.run`, `Terminal.info`.
-/

namespace AgentDesk.Terminal

/-- The name of the tool. -/
def name : String := "bash"

/-- The most milliseconds that a run may take. -/
def longestTime : Nat := 10 * 60 * 1000

/-- The number of characters that are shown. -/
def outputLimit : Nat := 30000

/-- The texts that no command may start with. -/
def bannedAlways : List String :=
  ["curl", "wget", "nc", "netcat", "telnet", "ssh", "scp", "sftp", "ftp", "rsync", "nmap",
    "sudo", "su", "doas",
    "chmod", "chown", "chgrp",
    "rm -rf /", "rm -rf /*", "dd if=/dev/zero", "dd if=/dev/random",
    "shutdown", "reboot", "halt", "poweroff", "init",
    "kill -9 -1", "pkill -9", "killall -9",
    "mkfs", "fdisk", "parted", "format",
    "apt install", "apt-get install", "yum install", "brew install", "pip install --system",
    "npm install -g", "gem install"]

/-- What is told about the tool. -/
def info : ToolInfo where
  name := name
  description := "Execute bash commands in a shell environment.

WHEN TO USE THIS TOOL:
- Use when you need to run shell commands or scripts
- Helpful for running build commands, tests, or other CLI tools

HOW TO USE:
- Provide the command you want to execute
- Optionally specify a timeout in milliseconds (max 600000)

LIMITATIONS:
- Some commands are blocked for security (like curl, wget, sudo)
- Cannot run interactive commands
- Output is truncated if it exceeds 30000 characters"
  parameters := [("command", parameter "string" "The bash command to execute"),
    ("timeout", parameter "number" "Optional timeout in milliseconds (max 600000)")]
  required := ["command"]

/-- What the tool is asked. -/
structure Request where
  command : String
  timeout : Option Nat
deriving Repr, BEq, DecidableEq

/-- Reads what the tool is asked. -/
def Request.shape : Shape Request := fun r d => do
  let fields ← d.record? ["command", "timeout"] r
  pure ⟨← fields.orDefault? "command" Document.text? "",
    ← fields.orDefault? "timeout" (Document.nullable? (Document.natUpTo? (UInt64.size - 1))) none⟩

/-! ## Banned commands -/

/-- Whether a character separates two commands. -/
def separates (c : Char) : Bool :=
  c == '\n' || c == ';' || c == '|' || c == '&' || c == '(' || c == ')' || c == Char.ofNat 96

/-- The commands of a text in lower case, without blanks around them. -/
def segments (command : String) : List (List Char) :=
  ((Text.splitOn separates (Text.lowerText command.toList)).map Text.strip).filter
    fun s => !s.isEmpty

/-- Whether a command is a text or starts with it, in whole words. -/
def startsWithWords (segment banned : List Char) : Bool :=
  match Text.dropPrefix? banned segment with
  | some [] => true
  | some (c :: _) => Text.isBlank c
  | none => false

/-- The banned text that one of the commands of a text starts with; the first command counts, and
for it the first banned text. -/
def bannedIn? (blocked : List String) (command : String) : Option String :=
  let banned := bannedAlways ++ blocked.map Text.lower
  (segments command).findSome? fun segment =>
    banned.find? fun b => startsWithWords segment b.toList

/-! ## Runs -/

/-- The milliseconds that a run may take. -/
def timeFor (settings : WorkbenchSettings) (asked : Option Nat) : Nat :=
  match asked with
  | some (ms + 1) => min (ms + 1) longestTime
  | _ => settings.shellTimeout

/-- What a run shows of what was written to the two streams. -/
def shown (out err : List UInt8) : String :=
  let first := Text.decodeLossy out
  let output :=
    if err.isEmpty then first
    else (if first.isEmpty then first else first ++ "\n") ++ Text.decodeLossy err
  match Text.firstChars? outputLimit output with
  | some head => head ++ "\n... (output truncated)"
  | none => if output.isEmpty then "no output" else output

/-- The metadata of a run that started at a time and took a time, both in milliseconds. -/
def metadata (settings : WorkbenchSettings) (start elapsed : Nat) : Json := .object
  [("start_time", .nat start), ("end_time", .nat (start + elapsed)),
    ("working_directory", .string settings.directory.text)]

/-- The number of bytes that a command must stay below. -/
def commandLimit : Nat := 128 * 1024

/-- The place where a shell starts for a command, or why none starts: the command cannot be handed
over, or the directory cannot be entered. -/
def startPlace (files : FileTree) (directory : Path) (command : String) : Except String Place :=
  if command.toList.elem '\x00' then .error "nul byte found in provided data"
  else
    match files.find directory, files.locate true directory with
    | .ok .directory, .ok place =>
      if command.utf8ByteSize < commandLimit then .ok place
      else .error "Argument list too long (os error 7)"
    | .error fault, _ => .error fault.describe
    | _, _ => .error FileFault.notDirectory.describe

/-- What a command does at a place. -/
def execute (settings : WorkbenchSettings) (place : Place) (limit : Nat) (command : String)
    (files : FileTree) : Shell.Result :=
  let here := Path.ofNames place
  let environment := [("PWD", here.text)] ++
    (settings.home.map fun home => ("HOME", home.text)).toList
  Shell.runText Shell.patience command [] (Shell.State.start files here environment limit)

/-- The answer for what a command did. -/
def answer (settings : WorkbenchSettings) (limit start : Nat) (r : Shell.Result) : ToolResponse :=
  let metadata := metadata settings start (min limit r.state.elapsed)
  if r.state.isLate then
    (ToolResponse.error s!"Command timed out after {limit} ms").withMetadata metadata
  else
    let text := shown r.out r.err
    if r.ending == .killed then
      (ToolResponse.error s!"{text}\n\nExit code: -1").withMetadata metadata
    else if r.state.status = 0 then (ToolResponse.text text).withMetadata metadata
    else (ToolResponse.error s!"{text}\n\nExit code: {r.state.status}").withMetadata metadata

/-- Runs the tool. -/
def run (settings : WorkbenchSettings) (canceled : Bool) (call : Invocation) (files : FileTree) :
    ToolRun :=
  match call.parameters? Request.shape with
  | .error failure => (.error failure, files)
  | .ok request =>
    if Text.isBlankText request.command then .refused files "command is required"
    else
      match bannedIn? settings.blockedCommands request.command with
      | some banned =>
        let reason := s!"command '{banned}' is not allowed for security reasons"
        (.error (.denied name reason), files)
      | none =>
        if canceled then (.error .canceled, files)
        else
          match startPlace files settings.directory request.command with
          | .error reason =>
            (.error (.execution name s!"failed to execute command: {reason}"), files)
          | .ok place =>
            let limit := timeFor settings request.timeout
            let r := execute settings place limit request.command files
            (.ok (answer settings limit (files.clock / 1000000) r), r.state.files)

end AgentDesk.Terminal
