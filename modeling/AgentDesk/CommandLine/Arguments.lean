import AgentDesk.Table
import AgentDesk.Text.Pieces
/-!
# The arguments of the command line

The first argument that is no option names a command. Options have a long name, some also a letter.
The value of an option is the next argument, or it stands in the same argument, behind an equality
sign or directly behind the letter. Letters without values may share an argument. Behind two dashes
nothing is an option.

## Main definitions

* `Command`, `Intent` — what the user wants.
* `UsageFault` — why the arguments make no sense.
* `CommandLine.read` — reads the arguments.
-/

namespace AgentDesk

/-- How to talk to an agent: with one message or by typing. -/
structure ChatOptions where
  message : Option String
  agent : Option String
  session : Option String
  files : List String
deriving Repr, BEq, DecidableEq

/-- What the program can do. -/
inductive Command where
  | setup
  | chat (options : ChatOptions)
  | sessions
  | history (session : String)
  | agents
  | tools
  | pricing
deriving Repr, BEq, DecidableEq

/-- What the user wants: a command, the version, or help. -/
inductive Intent where
  | run (command : Command)
  | version
  | help
deriving Repr, BEq, DecidableEq

/-- Why the arguments make no sense. The usage tells what would have. -/
inductive UsageFault where
  | noCommand
  | unknownCommand (name : String)
  | unexpected (argument usage : String)
  | unexpectedValue (value option usage : String)
  | noValue (option : String)
  | repeated (option usage : String)
  | missing (argument usage : String)
deriving Repr, BEq, DecidableEq

namespace CommandLine

/-- The name of the program. -/
def program : String := "taskloom"

/-- The version of the program. -/
def version : String := "0.1.0"

/-- An option: a flag, or with a value that has a name; some may be given more than once. -/
structure OptionInfo where
  name : String
  letter : Option Char
  value : Option String
  repeats : Bool
deriving Repr, BEq, DecidableEq

namespace OptionInfo

/-- The option as it is shown. -/
def shown (o : OptionInfo) : String :=
  match o.value with
  | some value => s!"--{o.name} <{value}>"
  | none => s!"--{o.name}"

end OptionInfo

/-- The options of every command. -/
def commonOptions : List OptionInfo :=
  [⟨"verbose", some 'v', none, false⟩, ⟨"help", some 'h', none, true⟩]

/-- What a command takes. -/
structure CommandInfo where
  name : String
  options : List OptionInfo
  argument : Option String
deriving Repr, BEq, DecidableEq

/-- The commands. -/
def commands : List CommandInfo := [
  ⟨"init", [], none⟩,
  ⟨"chat", [⟨"message", some 'm', some "MESSAGE", false⟩, ⟨"agent", some 'a', some "AGENT", false⟩,
    ⟨"session", some 's', some "SESSION", false⟩, ⟨"attach", none, some "PATH", true⟩], none⟩,
  ⟨"sessions", [], none⟩,
  ⟨"history", [], some "SESSION_ID"⟩,
  ⟨"agents", [], none⟩,
  ⟨"tools", [], none⟩,
  ⟨"pricing", [], none⟩]

/-- How a command is used. -/
def CommandInfo.usage (c : CommandInfo) : String :=
  let argument := match c.argument with
    | some name => s!" <{name}>"
    | none => ""
  s!"{program} {c.name} [OPTIONS]{argument}"

/-- How the program is used. -/
def usage : String := s!"{program} [OPTIONS] <COMMAND>"

end CommandLine

/-- What the user is told about arguments that make no sense. -/
def UsageFault.describe (fault : UsageFault) : String :=
  let hint := "For more information, try '--help'.\n"
  let withUsage (text usage : String) : String := s!"error: {text}\n\nUsage: {usage}\n\n{hint}"
  match fault with
  | .noCommand => withUsage "a command is required" CommandLine.usage
  | .unknownCommand name => withUsage s!"unrecognized subcommand '{name}'" CommandLine.usage
  | .unexpected argument usage => withUsage s!"unexpected argument '{argument}' found" usage
  | .unexpectedValue value option usage =>
    withUsage s!"unexpected value '{value}' for '{option}' found; no more were expected" usage
  | .noValue option =>
    s!"error: a value is required for '{option}' but none was supplied\n\n{hint}"
  | .repeated option usage =>
    withUsage s!"the argument '{option}' cannot be used multiple times" usage
  | .missing argument usage =>
    withUsage s!"the following required arguments were not provided:\n  {argument}" usage

namespace CommandLine

/-! ## Options -/

/-- Options that were given, and the other arguments. -/
structure Given where
  options : List (OptionInfo × String)
  others : List String
deriving Repr, BEq, DecidableEq

/-- Whether an argument has the form of an option. -/
def isOption (argument : String) : Bool := argument.startsWith "-" && argument != "-"

/-- Adds an option, unless it may not be repeated. -/
def Given.add (g : Given) (usage : String) (o : OptionInfo) (value : String) :
    Except UsageFault Given :=
  if !o.repeats && g.options.any (·.1 == o) then .error (.repeated o.shown usage)
  else .ok { g with options := g.options ++ [(o, value)] }

/-- Cuts a text at its first equality sign. -/
def cutValue (text : String) : String × Option String :=
  match Text.cutAt? ['='] text.toList with
  | some (name, value) => (String.ofList name, some (String.ofList value))
  | none => (text, none)

/-- What the letters of an argument are. The last option may still want a value. -/
def readLetters (infos : List OptionInfo) (usage : String) (g : Given) :
    List Char → Except UsageFault (Given × Option OptionInfo)
  | [] => .ok (g, none)
  | c :: rest =>
    match infos.find? (·.letter == some c) with
    | none => .error (.unexpected (String.ofList ['-', c]) usage)
    | some o =>
      if o.value.isSome then
        match rest with
        | [] => .ok (g, some o)
        | '=' :: value => (g.add usage o (String.ofList value)).map (·, none)
        | value => (g.add usage o (String.ofList value)).map (·, none)
      else
        match g.add usage o "" with
        | .error fault => .error fault
        | .ok g => readLetters infos usage g rest

/-- What a long option is. It may still want a value. -/
def readLong (infos : List OptionInfo) (usage : String) (g : Given) (text : String) :
    Except UsageFault (Given × Option OptionInfo) :=
  let (name, value) := cutValue text
  match infos.find? (·.name == name) with
  | none => .error (.unexpected s!"--{name}" usage)
  | some o =>
    match o.value, value with
    | some _, some value => (g.add usage o value).map (·, none)
    | some _, none => .ok (g, some o)
    | none, some value => .error (.unexpectedValue value o.shown usage)
    | none, none => (g.add usage o "").map (·, none)

/-- Reads one argument that has the form of an option. -/
def readOption (infos : List OptionInfo) (usage : String) (g : Given) (argument : String) :
    Except UsageFault (Given × Option OptionInfo) :=
  match Text.stripPrefix? "--" argument with
  | some text => readLong infos usage g text
  | none => readLetters infos usage g (argument.toList.drop 1)

/-- Reads arguments; `wanting` is an option whose value comes next. Reading stops in front of the
argument that exceeds the number of others. -/
def readArguments (infos : List OptionInfo) (usage : String) (room : Nat) :
    Option OptionInfo → Given → List String → Except UsageFault (Given × List String)
  | some o, _, [] => .error (.noValue o.shown)
  | none, g, [] => .ok (g, [])
  | some o, g, argument :: rest =>
    if isOption argument then .error (.noValue o.shown)
    else
      match g.add usage o argument with
      | .error fault => .error fault
      | .ok g => readArguments infos usage room none g rest
  | none, g, argument :: rest =>
    if argument == "--" then
      let room := room - g.others.length
      .ok ({ g with others := g.others ++ rest.take room }, rest.drop room)
    else if isOption argument then
      match readOption infos usage g argument with
      | .error fault => .error fault
      | .ok (g, wanting) => readArguments infos usage room wanting g rest
    else if g.others.length < room then
      readArguments infos usage room none { g with others := g.others ++ [argument] } rest
    else .ok (g, argument :: rest)

/-! ## Commands -/

/-- The values that were given for an option. -/
def Given.values (g : Given) (name : String) : List String :=
  (g.options.filter (·.1.name == name)).map (·.2)

/-- Whether an option was given. -/
def Given.has (g : Given) (name : String) : Bool := !(g.values name).isEmpty

/-- The command of a name with what was given for it. -/
def commandOf? (name : String) (g : Given) : Option Command :=
  match name with
  | "init" => some .setup
  | "chat" => some (.chat ⟨(g.values "message").head?, (g.values "agent").head?,
      (g.values "session").head?, g.values "attach"⟩)
  | "sessions" => some .sessions
  | "history" => g.others.head?.map .history
  | "agents" => some .agents
  | "tools" => some .tools
  | "pricing" => some .pricing
  | _ => none

/-- Reads the arguments of a command. -/
def readCommand (info : CommandInfo) (arguments : List String) : Except UsageFault Intent :=
  match readArguments (info.options ++ commonOptions) info.usage
      (if info.argument.isSome then 1 else 0) none ⟨[], []⟩ arguments with
  | .error fault => .error fault
  | .ok (g, rest) =>
    if g.has "help" then .ok .help
    else
      match rest with
      | extra :: _ => .error (.unexpected extra info.usage)
      | [] =>
        match commandOf? info.name g with
        | some command => .ok (.run command)
        | none =>
          let argument := info.argument.getD ""
          .error (.missing s!"<{argument}>" s!"{program} {info.name} <{argument}>")

/-- The options in front of a command. -/
def leadingOptions : List OptionInfo := ⟨"version", some 'V', none, true⟩ :: commonOptions

/-- Reads the arguments of the program. -/
def read (arguments : List String) : Except UsageFault Intent :=
  match readArguments leadingOptions usage 0 none ⟨[], []⟩ arguments with
  | .error fault => .error fault
  | .ok (g, rest) =>
    if g.has "help" then .ok .help
    else if g.has "version" then .ok .version
    else
      match rest with
      | [] => .error .noCommand
      | name :: rest =>
        if name == "help" then .ok .help
        else
          match commands.find? (·.name == name) with
          | some info => readCommand info rest
          | none => .error (.unknownCommand name)

/-- What the user is told who asks for help. -/
def help : String := Text.join "\n" [
  "Taskloom: LLM agent orchestration with tools and sub-agents", "",
  s!"Usage: {usage}", "", "Commands:",
  "  init      Write a default configuration file",
  "  chat      Chat with an agent",
  "  sessions  List sessions",
  "  history   Print a session's messages",
  "  agents    Show configured agents",
  "  tools     Show built-in tools",
  "  pricing   Show model pricing (USD per 1M tokens)",
  "  help      Print this message or the help of the given subcommand(s)", "", "Options:",
  "  -v, --verbose  Enable verbose logging",
  "  -h, --help     Print help",
  "  -V, --version  Print version", ""]

end CommandLine

end AgentDesk
