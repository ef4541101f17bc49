import AgentDesk.CommandLine.Chat
import AgentDesk.Configuration.Printing
/-!
# Running the program

A run of the program prints, changes its surroundings, and ends with a code: zero when all went
well, one for a fault, two for arguments that make no sense. A chat goes on as long as lines are
typed; every other run is over at once.

## Main definitions

* `Run`, `CommandLine.start`, `CommandLine.finish` — the two ends of a run.
* `CommandLine.run` — a whole run with all lines that are typed.
-/

namespace AgentDesk.CommandLine

/-- What a run leaves behind. -/
structure Finished where
  code : Nat
  printed : List Print
  surroundings : Surroundings

/-- A run that has started: it is over, or it is a chat that listens. -/
inductive Run where
  | over (result : Finished)
  | chatting (chat : Chat) (opened : Program.OpenedStore) (terminal : Terminal)

/-! ## Commands -/

/-- Writes a configuration for a new user. -/
def setup : Program Unit := do
  let s ← Program.surroundings
  let directory := Configuration.directory s.home
  let file := Configuration.file s.home
  Program.say "Taskloom Setup\n================\n\n"
  if s.files.exists? directory then
    Program.say s!"  Config directory exists: {directory.text}\n"
  else
    Program.orFail .file (← Program.makeDirectories directory)
    Program.say s!"  Created config directory: {directory.text}\n"
  let s ← Program.surroundings
  if s.files.exists? file then
    Program.say s!"\n  Config already exists at: {file.text}\n"
    Program.say "  Edit it manually or delete it and re-run init.\n\n"
  else
    let files ← Program.orFail .file (s.files.write file Configuration.starter.toUTF8)
    Program.change ({ · with files })
    Program.say s!"  Created config.toml at: {file.text}\n"
    Program.say (Report.ofLines ["", "  Next steps:",
      "    1. Set ANTHROPIC_API_KEY or add `api_key` to the config",
      "    2. Adjust [agents.*] and [tools] to taste", "    3. Run `taskloom chat`", ""])

/-- The catalog of a configuration over the usual prices. -/
def catalog (c : Configuration) : Catalog := .ofConfiguration c .standard

/-- Performs one call of an opened store and keeps what it has become. -/
def perform (opened : Program.OpenedStore) (act : Timestamp → Store → StoreReply Store α) :
    Program (α × Program.OpenedStore) := do
  let s ← Program.surroundings
  Program.change fun s => { s with clock := s.clock + 1 }
  let reply := act (Timestamp.ofNanos s.clock) opened.store
  Program.keep opened reply.store
  let a ← Program.orFail .store reply.result
  return (a, { opened with store := reply.store })

/-- Reports about all sessions. -/
def sessions : Program Unit := do
  let opened ← Program.openStore (← Program.configuration)
  let (all, _) ← perform opened fun now => Store.listSessions now
  Program.say (Report.sessions all)

/-- Reports about one session. -/
def history (id : String) : Program Unit := do
  let opened ← Program.openStore (← Program.configuration)
  let (session, opened) ← perform opened fun now => Store.getSession now id
  let (messages, _) ← perform opened fun now => Store.listMessages now id
  Program.say (Report.history session messages)

/-! ## Chats -/

/-- What is said to a user without a key. -/
def keyGuide (file : Path) : String := Report.ofLines ["",
  "  ERROR: No API key configured!", "", "  Set one of these environment variables:",
  "    export ANTHROPIC_API_KEY='sk-ant-...'",
  "    export TASKLOOM_API_KEY='sk-ant-...'     (takes precedence)", "",
  "  Or add it to your config file:", s!"    {file.text}", "",
  "  Run `taskloom init` to write a default config.", ""]

/-- The type of a file, by the part of its name behind the last dot. -/
def mimeOf (path : Path) : String :=
  match (path.extension?.getD "").toLower with
  | "png" => "image/png"
  | "jpg" | "jpeg" => "image/jpeg"
  | "gif" => "image/gif"
  | "webp" => "image/webp"
  | "pdf" => "application/pdf"
  | _ => "text/plain"

/-- Loads a file to attach. -/
def attachment (name : String) : Program Binary := do
  let s ← Program.surroundings
  let path := Path.parse name
  let content ← Program.orFail .file (s.files.read (s.directory.join path))
  return ⟨name, mimeOf path, content.toList⟩

/-- What the tools of a configuration work on. A relative working directory stays relative: it
lies below the directory of the program. -/
def workbench (c : Configuration) (s : Surroundings) : Workbench where
  settings :=
    { directory := (c.tools.directory.map Path.parse).getD s.directory
      home := some s.home
      blockedCommands := c.tools.blockedCommands
      shellTimeout := c.tools.shellSeconds * 1000 }
  files := { s.files with origin := s.directory.normalize.names }
  network := s.network

/-- Where the answers for an agent come from. -/
def sourceFor (k : Catalog) (d : AgentDefinition) : Source :=
  match k.connect d.provider d.model with
  | .ok connection => .service connection
  | .error _ => .script (Script.ofTurns [])

/-- The provider of an agent is the source in the place of its definition. -/
def lineFor (k : Catalog) (all : List AgentDefinition) (d : AgentDefinition) :
    Except ProviderFailure Line :=
  (k.connect d.provider d.model).map fun connection => ⟨all.idxOf d, connection.model⟩

/-- Sets up the desk for a configuration. -/
def openDesk (c : Configuration) (opened : Program.OpenedStore) : Program Desk := do
  let k := catalog c
  let all := k.definitions
  let tools := ToolBox.ofList (Workbench.Kind.all.map fun kind => (kind.info, ToolBody.bench kind))
  let roster ← Program.orFail .turn (Roster.build all (lineFor k all) tools c.maxDepth)
  let s ← Program.surroundings
  let desk := Desk.openOn roster (all.map (sourceFor k)) (.ofStore opened.store [])
    (workbench c s)
  return { desk with clock := s.clock }

/-- The session to chat in: the one that is named, or a new one. -/
def sessionFor (opened : Program.OpenedStore) :
    Option String → Program (Session × Program.OpenedStore)
  | some id => perform opened fun now => Store.getSession now id
  | none => do
    let s ← Program.surroundings
    perform opened fun now => Store.createSession now s.freshName Session.defaultTitle

/-- The configuration for a chat, which needs a key. -/
def chatConfiguration : Program Configuration := do
  match ← Program.loaded with
  | .error fault => throw (.message s!"Failed to load config: {fault.describe}")
  | .ok c =>
    if c.hasKey then return c
    else
      Program.print (.err (keyGuide (Configuration.file (← Program.surroundings).home)))
      throw (.message "No API key found. See above for setup instructions.")

/-- Prepares a chat. -/
def openChat (options : ChatOptions) : Program (Chat × Program.OpenedStore) := do
  let c ← chatConfiguration
  let opened ← Program.openStore c
  let desk ← openDesk c opened
  let id := options.agent.getD c.defaultAgent
  match desk.roster.find? id with
  | none => throw (.message s!"Unknown agent: {id}")
  | some post =>
    match desk.posts[post]? with
    | none => throw (.message s!"Unknown agent: {id}")
    | some p =>
      let (session, opened) ← sessionFor opened options.session
      let files ← options.files.mapM attachment
      let desk := { desk with
        store := .ofStore opened.store [], clock := (← Program.surroundings).clock }
      let (root, desk) := desk.forkToken none
      return (⟨desk, root, post, p.agent, session.id, files, none, false, []⟩, opened)

/-- Closes a chat: everything that goes on is canceled, and the session is summed up. -/
def closeChat (chat : Chat) (opened : Program.OpenedStore) : Program Unit := do
  let chat := chat.cancelAll
  chat.printed.reverse.forM Program.print
  let bench := chat.desk.bench
  Program.change fun s =>
    { s with files := bench.files, network := bench.network, clock := chat.desk.clock }
  let opened := { opened with store := chat.desk.store.store }
  Program.keep opened opened.store
  let (session, _) ← perform opened fun now => Store.getSession now chat.session
  Program.say (Report.closing session)

/-! ## Runs -/

/-- Ends a run with a result. -/
def ended (result : Except ProgramFault Unit × Terminal) : Finished :=
  let (outcome, t) := result
  match outcome with
  | .ok () => ⟨0, t.printed.reverse, t.surroundings⟩
  | .error fault =>
    ⟨1, (.err s!"Error: {fault.shown}\n" :: t.printed).reverse, t.surroundings⟩

/-- Runs steps of the program to their end. -/
def complete (steps : Program Unit) (t : Terminal) : Finished := ended (steps.run.run t)

/-- Starts a chat. -/
def startChat (options : ChatOptions) (t : Terminal) : Run :=
  match (openChat options).run.run t with
  | (.error fault, t) => .over (ended (.error fault, t))
  | (.ok (chat, opened), t) =>
    match options.message with
    | some text => .over (complete (closeChat (chat.ask text) opened) t)
    | none => .chatting (chat.print chat.banner) opened t

/-- Starts a command. -/
def startCommand (command : Command) (t : Terminal) : Run :=
  match command with
  | .setup => .over (complete setup t)
  | .chat options => startChat options t
  | .sessions => .over (complete sessions t)
  | .history id => .over (complete (history id) t)
  | .agents => .over (complete (do
      Program.say (Report.agents (catalog (← Program.configuration)))) t)
  | .tools => .over (complete (do
      let _ ← Program.configuration
      Program.say Report.tools) t)
  | .pricing => .over (complete (do
      Program.say (Report.prices (catalog (← Program.configuration)).prices)) t)

/-- Starts a run. -/
def start (arguments : List String) (s : Surroundings) : Run :=
  match read arguments with
  | .error fault => .over ⟨2, [.err fault.describe], s⟩
  | .ok .version => .over ⟨0, [.out s!"{program} {version}\n"], s⟩
  | .ok .help => .over ⟨0, [.out help], s⟩
  | .ok (.run command) => startCommand command ⟨s, []⟩

/-- Ends a chat. -/
def finish (chat : Chat) (opened : Program.OpenedStore) (t : Terminal) : Finished :=
  complete (closeChat (chat.print [Chat.goodbye]) opened) t

/-- A whole run, given all lines that are typed. -/
def run (arguments lines : List String) (s : Surroundings) : Finished :=
  match start arguments s with
  | .over result => result
  | .chatting chat opened t => finish (chat.feedAll lines) opened t

end AgentDesk.CommandLine
