import AgentDesk.Shell.Command
import AgentDesk.Shell.Expansion
import AgentDesk.Shell.Programs.Conditions
import AgentDesk.Shell.Programs.Files
import AgentDesk.Shell.Programs.Texts
import AgentDesk.Text.Utf8
/-!
# Running commands

A command is run by putting values into its words, leading its streams where it says, and finding
out who does the work: the shell itself or a program. A repetition may go on for ever; then the
time runs out.

## Main definitions

* `runProgram` — the programs that need no other command.
* `Wiring`, `wire`, `pour` — the streams.
* `Shell.run`, `Shell.runText` — what a command and a text of commands do.
-/

namespace AgentDesk.Shell

/-! ## Programs -/

/-- The milliseconds of a unit of time. -/
def unit? (c : Char) : Option Nat :=
  match c with
  | 's' => some 1000
  | 'm' => some 60000
  | 'h' => some 3600000
  | 'd' => some 86400000
  | _ => none

/-- The milliseconds that a text writes in seconds, or in a unit of its own. -/
def milliseconds? (text : String) : Option Nat :=
  let (digits, unit) :=
    match text.toList.getLast?.bind unit? with
    | some ms => (String.ofList text.toList.dropLast, ms)
    | none => (text, 1000)
  match Text.splitChar '.' digits with
  | [whole] => whole.toNat?.map (· * unit)
  | [whole, part] =>
    match (if whole.isEmpty then some 0 else whole.toNat?), part.toNat? with
    | some w, some p => some (w * unit + p * unit / Nat.pow 10 part.length)
    | _, _ => none
  | _ => none

/-- Goes to a directory. -/
def changeDirectory (s : State) (args : List String) : Result :=
  let name := args.headD (s.value "HOME")
  let path := s.path name
  match s.files.find path with
  | .ok .directory => { s.assign ("PWD", path.text) with directory := path }.done 0 "" ""
  | .ok _ => s.complain 1 "cd" s!"{name}: Not a directory"
  | .error fault => s.complain 1 "cd" s!"{name}: {faultText fault}"

/-- Ends the shell. -/
def exit (s : State) : List String → Result
  | [] => (s.done s.status "" "").leaving
  | n :: _ =>
    match n.toInt? with
    | some n => (s.done (n % 256).toNat "" "").leaving
    | none => (s.complain 2 "exit" s!"{n}: numeric argument required").leaving

/-- Waits. -/
def sleep (s : State) : List String → Result
  | [] => s.done 1 "" "sleep: missing operand\nTry 'sleep --help' for more information.\n"
  | n :: _ =>
    match milliseconds? n with
    | some ms => { s with elapsed := s.elapsed + ms }.done 0 "" ""
    | none => s.done 1 "" (s!"sleep: invalid time interval '{n}'\n" ++
        "Try 'sleep --help' for more information.\n")

/-- Sends a signal to the shell itself; there is nobody else. -/
def kill (s : State) (args : List String) : Result :=
  match args.getLast? with
  | none => s.complain 2 "kill" "usage: kill [-s sigspec | -n signum | -sigspec] pid"
  | some target =>
    if target != ownNumber then s.complain 1 "kill" s!"({target}) - No such process"
    else if args.elem "-0" then s.done 0 "" ""
    else { s.done 0 "" "" with ending := .killed }

/-- The variable and the value in a word that was put together. -/
def cutAssignment (word : String) : String × Option String :=
  match Text.cutAt? ['='] word.toList with
  | some (name, value) => (String.ofList name, some (String.ofList value))
  | none => (word, none)

/-- Sets the variables that words set. -/
def exportAll (s : State) (args : List String) : Result :=
  let s := args.foldl (fun s word =>
    match cutAssignment word with
    | (name, some value) => s.assign (name, value)
    | (_, none) => s) s
  s.done 0 "" ""

/-- What is said of a command that there is not. -/
def unknown (s : State) (command : String) : Result :=
  if !command.toList.elem '/' then s.complain 127 command "command not found"
  else
    match s.files.find (s.path command) with
    | .ok .directory => s.complain 126 command "Is a directory"
    | .ok _ => s.complain 126 command "Permission denied"
    | .error fault => s.complain 127 command (faultText fault)

/-- Runs a command that runs no other. -/
def runProgram (s : State) (input : List UInt8) (command : String) (args : List String) : Result :=
  match command with
  | "true" | ":" | "wait" | "set" => s.done 0 "" ""
  | "false" => s.done 1 "" ""
  | "echo" => echo s args
  | "printf" => printFormatted s args
  | "exit" => exit s args
  | "pwd" => s.done 0 (s.directory.text ++ "\n") ""
  | "cd" => changeDirectory s args
  | "sleep" => sleep s args
  | "test" => test s "test" args
  | "[" =>
    if args.getLast? == some "]" then test s "[" args.dropLast
    else s.complain 2 "[" "missing `]'"
  | "kill" => kill s args
  | "export" => exportAll s args
  | "unset" =>
    { s with environment := args.foldl (fun t n => Table.erase n t) s.environment }.done 0 "" ""
  | "shift" => { s with arguments := s.arguments.drop 1 }.done 0 "" ""
  | "break" => { s.done 0 "" "" with ending := .leaveLoop }
  | "continue" => { s.done 0 "" "" with ending := .nextRound }
  | "cat" => concatenate s input args
  | "head" => head s input args
  | "tail" => tail s input args
  | "sort" => sortLines s input args
  | "tr" => exchange s input args
  | "wc" => count s input args
  | "seq" => sequence s args
  | "basename" => baseName s args
  | "dirname" => directoryName s args
  | "ls" => listFiles s args
  | "mkdir" => makeDirectories s args
  | "touch" => touch s args
  | "rm" => remove s args
  | "rmdir" => removeDirectories s args
  | "cp" => copy s args
  | "mv" => move s args
  | command => unknown s command

/-! ## Redirections -/

/-- Where the bytes of a stream go. -/
inductive Sink where
  | out
  | err
  | nowhere
  | file (path : Path)
deriving Repr, BEq, DecidableEq

/-- The input of a command and the sinks of its two streams. -/
structure Wiring where
  input : List UInt8
  first : Sink
  second : Sink

/-- The sink of a stream. -/
def Wiring.sink (w : Wiring) (stream : Nat) : Sink := if stream = 2 then w.second else w.first

/-- Leads a stream to a sink. -/
def Wiring.lead (w : Wiring) (stream : Nat) (sink : Sink) : Wiring :=
  if stream = 2 then { w with second := sink } else { w with first := sink }

/-- What the shell says of a file that a stream cannot lead to. -/
def State.unusable (s : State) (name : String) (fault : FileFault) : String :=
  s!"{s.name}: line {s.line}: {name}: {faultText fault}\n"

/-- Opens a file for a stream, with what it already holds or without. -/
def openFile (s : State) (w : Wiring) (stream : Nat) (name : String) (keep : Bool) :
    Except String (State × Wiring) :=
  if name == "/dev/null" then .ok (s, w.lead stream .nowhere)
  else
    let path := s.path name
    let earlier := match s.files.read path with
      | .ok bytes => if keep then bytes else ByteArray.empty
      | .error _ => ByteArray.empty
    match s.files.write path earlier with
    | .ok files => .ok ({ s with files }, w.lead stream (.file path))
    | .error fault => .error (s.unusable name fault)

/-- Leads bytes to a sink. -/
def pour (r : Result) (bytes : List UInt8) : Sink → Result
  | .out => { r with out := r.out ++ bytes }
  | .err => { r with err := r.err ++ bytes }
  | .nowhere => r
  | .file path =>
    match r.state.files.read path with
    | .ok earlier =>
      match r.state.files.write path ⟨earlier.data ++ bytes.toArray⟩ with
      | .ok files => { r with state := { r.state with files } }
      | .error _ => r
    | .error _ => r

/-! ## Commands -/

/-- What a command in a shell of its own leaves behind. -/
def detached (s : State) (r : Result) : Result :=
  { r with
    state := { s with files := r.state.files, elapsed := r.state.elapsed, status := r.state.status }
    ending := if r.ending == .killed then .killed else .next }

/-- The time of a state has run out. -/
def State.late (s : State) : State := { s with elapsed := max s.elapsed s.limit }

/-- What a repetition does with a round. -/
def loopEnding (r : Result) : Result :=
  { r with ending := if r.ending == .nextRound then .next else r.ending }

/-- A repetition that was left goes on with what follows it. -/
def leftLoop (r : Result) : Result :=
  { r with ending := if r.ending == .leaveLoop then .next else r.ending }

/-- The output of a command as a value: without the line ends behind it. -/
def outputText (bytes : List UInt8) : String :=
  String.ofList ((Text.decodeLossy bytes).toList.reverse.dropWhile (· == '\n')).reverse

mutual

/-- Puts the outputs of commands into a word; the state behind them, and what they wrote to the
second stream. -/
def putIn : Nat → State → Word → State × List UInt8 × Word
  | 0, s, w => (s.late, [], w)
  | _ + 1, s, [] => (s, [], [])
  | fuel + 1, s, .output command quoted :: r =>
    let done := detached s (runText fuel command [] s)
    let (s, err, w) := putIn fuel done.state r
    (s, done.err ++ err, .output (outputText done.out) quoted :: w)
  | fuel + 1, s, f :: r =>
    let (s, err, w) := putIn fuel s r
    (s, err, f :: w)

/-- The glyphs of a word. A sum without a value is said to be wrong. -/
def glyphs : Nat → State → Word → State × List UInt8 × List Glyph
  | 0, s, _ => (s.late, [], [])
  | fuel + 1, s, w =>
    let (s, err, w) := putIn fuel s w
    match glyphs? s w with
    | some gs => (s, err, gs)
    | none =>
      let text := s.complaint "arithmetic" "syntax error in expression"
      ({ s with status := 1 }, err ++ text.toUTF8.toList, [])

/-- The words that written words stand for. -/
def expand : Nat → State → List Word → State × List UInt8 × List String
  | 0, s, _ => (s.late, [], [])
  | _ + 1, s, [] => (s, [], [])
  | fuel + 1, s, w :: ws =>
    let (s, err, gs) := glyphs fuel s w
    let found := wordsOf s gs
    let (s, more, words) := expand fuel s ws
    (s, err ++ more, found ++ words)

/-- Prepares redirections from left to right. -/
def wire : Nat → State → Wiring → List Redirection → Except String (State × Wiring)
  | 0, s, w, _ => .ok (s.late, w)
  | _ + 1, s, w, [] => .ok (s, w)
  | fuel + 1, s, w, .read source :: rest =>
    let (s, _, gs) := glyphs fuel s source
    let name := textOf gs
    if name == "/dev/null" then wire fuel s { w with input := [] } rest
    else
      match s.files.read (s.path name) with
      | .ok bytes => wire fuel s { w with input := bytes.toList } rest
      | .error fault => .error (s.unusable name fault)
  | fuel + 1, s, w, .copy stream other :: rest => wire fuel s (w.lead stream (w.sink other)) rest
  | fuel + 1, s, w, .write stream target :: rest =>
    let (s, _, gs) := glyphs fuel s target
    match openFile s w stream (textOf gs) false with
    | .ok (s, w) => wire fuel s w rest
    | .error text => .error text
  | fuel + 1, s, w, .append stream target :: rest =>
    let (s, _, gs) := glyphs fuel s target
    match openFile s w stream (textOf gs) true with
    | .ok (s, w) => wire fuel s w rest
    | .error text => .error text

/-- Runs a command with redirections. -/
def redirected : Nat → State → List UInt8 → List Redirection → Command → Result
  | 0, s, _, _, _ => s.late.done 1 "" ""
  | fuel + 1, s, input, rs, c =>
    match wire fuel s ⟨input, .out, .err⟩ rs with
    | .error text => s.done 1 "" text
    | .ok (s, w) =>
      let r := run fuel c w.input s
      pour (pour ⟨r.state, [], [], r.ending⟩ r.out w.first) r.err w.second

/-- Sets the variables of assignments. -/
def assignAll : Nat → State → List (String × Word) → State × List UInt8
  | 0, s, _ => (s.late, [])
  | _ + 1, s, [] => (s, [])
  | fuel + 1, s, (name, w) :: rest =>
    let (s, err, gs) := glyphs fuel { s with status := 0 } w
    let (s, more) := assignAll fuel (s.assign (name, textOf gs)) rest
    (s, err ++ more)

/-- Runs words: the shell itself or a program does the work. -/
def runWords : Nat → State → List UInt8 → List String → Result
  | 0, s, _, _ => s.late.done 1 "" ""
  | _ + 1, s, _, [] => s.done s.status "" ""
  | fuel + 1, s, input, command :: args =>
    match command, args with
    | "exec", [] => s.done 0 "" ""
    | "exec", program :: rest =>
      let r := runWords fuel s input (program :: rest)
      if r.state.status == 127 && r.out.isEmpty && !program.toList.elem '/' then
        (s.complain 127 "exec" s!"{program}: not found").leaving
      else r.leaving
    | "command", words => runWords fuel s input words
    | "builtin", words => runWords fuel s input words
    | "eval", words => runText fuel (Text.join " " words) input s
    | "sh", "-c" :: text :: rest => nested fuel s input "sh" text rest
    | "bash", "-c" :: text :: rest => nested fuel s input "bash" text rest
    | command, args => runProgram s input command args

/-- Runs a text in a shell of its own. -/
def nested : Nat → State → List UInt8 → String → String → List String → Result
  | 0, s, _, _, _, _ => s.late.done 1 "" ""
  | fuel + 1, s, input, shell, text, args =>
    let inner := { s with name := args.headD shell, arguments := args.drop 1, status := 0 }
    let r := runText fuel text input inner
    let status := if r.ending == .killed then 137 else r.state.status
    { detached s { r with ending := .next } with
      state := { s with files := r.state.files, elapsed := r.state.elapsed, status } }

/-- What a command does. -/
def run : Nat → Command → List UInt8 → State → Result
  | 0, _, _, s => s.late.done 1 "" ""
  | _ + 1, .nothing, _, s => ⟨s, [], [], .next⟩
  | fuel + 1, .simple line ws [], input, s =>
    let s := { s with line }
    let assigned := (ws.takeWhile fun w => (assignment? w).isSome).filterMap assignment?
    let (s', err, words) := expand fuel { s with status := s.status } (ws.drop assigned.length)
    match words with
    | [] =>
      let (s', more) := assignAll fuel { s' with status := 0 } assigned
      s'.wrote s'.status [] (err ++ more)
    | words =>
      let (inner, more) := assignAll fuel s' assigned
      let r := runWords fuel { inner with status := s'.status } input words
      let r := if assigned.isEmpty then r
        else { r with state := { r.state with environment := s'.environment } }
      { r with err := err ++ more ++ r.err }
  | fuel + 1, .simple line ws rs, input, s =>
    redirected fuel { s with line } input rs (.simple line ws [])
  | fuel + 1, .group body rs, input, s => detached s (redirected fuel s input rs body)
  | fuel + 1, .block body rs, input, s => redirected fuel s input rs body
  | fuel + 1, .branch condition yes no, input, s =>
    (run fuel condition input s).andThen fun s =>
      if s.status = 0 then run fuel yes input s else run fuel no input { s with status := 0 }
  | fuel + 1, .loop whileFails condition body, input, s =>
    leftLoop <| (run fuel condition input s).andThen fun after =>
      if (after.status = 0) = whileFails then ⟨{ after with status := 0 }, [], [], .next⟩
      else (loopEnding (run fuel body input after)).andThen fun s =>
        run fuel (.loop whileFails condition body) input s
  | fuel + 1, .each name ws body, input, s =>
    let (s, err, words) := expand fuel s ws
    let r := leftLoop (rounds fuel name words body input { s with status := 0 })
    { r with err := err ++ r.err }
  | fuel + 1, .pipe a b, input, s =>
    let left := detached s (run fuel a input s)
    let right := detached s (run fuel b left.out { left.state with elapsed := s.elapsed })
    let elapsed := max left.state.elapsed right.state.elapsed
    { right with state := { right.state with elapsed }, err := left.err ++ right.err }
  | fuel + 1, .negate a, input, s =>
    let r := run fuel a input s
    { r with state := { r.state with status := if r.state.status = 0 then 1 else 0 } }
  | fuel + 1, .conjunction a b, input, s =>
    (run fuel a input s).andThen fun s =>
      if s.status = 0 then run fuel b input s else ⟨s, [], [], .next⟩
  | fuel + 1, .disjunction a b, input, s =>
    (run fuel a input s).andThen fun s =>
      if s.status = 0 then ⟨s, [], [], .next⟩ else run fuel b input s
  | fuel + 1, .sequence a b, input, s => (run fuel a input s).andThen (run fuel b input)

/-- A round for each of several words. -/
def rounds : Nat → String → List String → Command → List UInt8 → State → Result
  | 0, _, _, _, _, s => s.late.done 1 "" ""
  | _ + 1, _, [], _, _, s => ⟨s, [], [], .next⟩
  | fuel + 1, name, w :: ws, body, input, s =>
    (loopEnding (run fuel body input (s.assign (name, w)))).andThen
      (rounds fuel name ws body input)

/-- What a text of commands does. -/
def runText : Nat → String → List UInt8 → State → Result
  | 0, _, _, s => s.late.done 1 "" ""
  | fuel + 1, text, input, s =>
    let script := Script.read text
    let r := runAll fuel script.commands input s
    match script.fault with
    | none => r
    | some fault => r.andThen fun s => (s.done 2 "" (fault.describe s.name text)).leaving

/-- Commands one after another. -/
def runAll : Nat → List Command → List UInt8 → State → Result
  | 0, _, _, s => s.late.done 1 "" ""
  | _ + 1, [], _, s => ⟨s, [], [], .next⟩
  | fuel + 1, c :: cs, input, s => (run fuel c input s).andThen (runAll fuel cs input)

end

/-- As many steps as a shell takes one inside another before its time is over. -/
def patience : Nat := 20000

end AgentDesk.Shell
