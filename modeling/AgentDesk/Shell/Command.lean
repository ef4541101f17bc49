import AgentDesk.Shell.Word
/-!
# Commands of the shell

The written form of commands: words and redirections, pipelines, lists, and what is put together
from lists: groups, choices and repetitions. A text is read line by line as far as a command goes,
so what stands in front of a mistake is still there.

## Main definitions

* `Redirection`, `Command`, `SyntaxFault`.
* `Script`, `Script.read`.
-/

namespace AgentDesk.Shell

/-- Where one of the numbered streams of a command leads to or comes from. -/
inductive Redirection where
  | read (source : Word)
  | write (stream : Nat) (target : Word)
  | append (stream : Nat) (target : Word)
  | copy (stream other : Nat)
deriving Repr, BEq, DecidableEq

/-- A command. A simple one knows its line. -/
inductive Command where
  | nothing
  | simple (line : Nat) (words : List Word) (redirections : List Redirection)
  | group (body : Command) (redirections : List Redirection)
  | block (body : Command) (redirections : List Redirection)
  | branch (condition yes no : Command)
  | loop (whileFails : Bool) (condition body : Command)
  | each (name : String) (words : List Word) (body : Command)
  | pipe (a b : Command)
  | negate (a : Command)
  | conjunction (a b : Command)
  | disjunction (a b : Command)
  | sequence (a b : Command)
deriving Repr, BEq, DecidableEq, Inhabited

/-- Why a text is no command. -/
inductive SyntaxFault where
  | unexpected (token : String) (line : Nat)
  | unclosed (mark : Char) (line : Nat)
  | unfinished
deriving Repr, BEq, DecidableEq

/-- What the shell of a name says of a fault in a text. -/
def SyntaxFault.describe (shell text : String) : SyntaxFault → String
  | .unexpected token line =>
    let shown := ((Text.splitChar '\n' text)[line - 1]?).getD ""
    s!"{shell}: -c: line {line}: syntax error near unexpected token `{token}'\n" ++
      s!"{shell}: -c: line {line}: `{shown}'\n"
  | .unclosed mark line =>
    s!"{shell}: -c: line {line}: unexpected EOF while looking for matching `{mark}'\n"
  | .unfinished =>
    let line := (Text.lines text).length + 1
    s!"{shell}: -c: line {line}: syntax error: unexpected end of file\n"

/-! ## Tokens -/

/-- One element of a written command. -/
inductive Token where
  | word (w : Word)
  | operator (s : String)
  | redirect (stream : Option Nat) (operator : String)
  | fault (f : SyntaxFault)
deriving Repr, BEq, DecidableEq

/-- A token with its line. -/
structure Lexeme where
  token : Token
  line : Nat
deriving Repr, BEq, DecidableEq

/-- The operators, the longer ones first. -/
def operators : List String := ["&&", "||", ";", "&", "|", "(", ")", "\n"]

/-- The operators of redirections, the longer ones first. -/
def redirectOperators : List String := [">>", ">&", "&>", "<", ">"]

/-- Reads one of several texts. -/
def oneOf? (texts : List String) (s : List Char) : Option (String × List Char) :=
  texts.findSome? fun t => (Text.dropPrefix? t.toList s).map (t, ·)

/-- The number of line ends between a text and its rest. -/
def linesUpTo (s rest : List Char) : Nat :=
  ((s.take (s.length - rest.length)).filter (· == '\n')).length

/-- Reads the tokens of a text; those read so far are kept in reverse. Every step reads a
character, so more than the length of the text is fuel enough. -/
def lexemes : Nat → Nat → List Lexeme → List Char → List Lexeme
  | fuel + 1, line, found, c :: r =>
    if c == ' ' || c == '\t' then lexemes fuel line found r
    else if c == '\\' && r.head? == some '\n' then lexemes fuel (line + 1) found r.tail
    else if c == '#' then lexemes fuel line found (r.dropWhile (· != '\n'))
    else
      match oneOf? redirectOperators (c :: r), oneOf? operators (c :: r) with
      | some (t, r), _ => lexemes fuel line (⟨.redirect none t, line⟩ :: found) r
      | none, some (t, r) =>
        lexemes fuel (if t == "\n" then line + 1 else line) (⟨.operator t, line⟩ :: found) r
      | none, none =>
        match if c.isDigit then oneOf? redirectOperators r else none with
        | some (t, r) =>
          lexemes fuel line (⟨.redirect (some (c.toNat - 48)) t, line⟩ :: found) r
        | none =>
          match word? (r.length + 2) [] (c :: r) with
          | .ok (w, rest) =>
            lexemes fuel (line + linesUpTo (c :: r) rest) (⟨.word w, line⟩ :: found) rest
          | .error mark => (⟨.fault (.unclosed mark line), line⟩ :: found).reverse
  | _, _, found, _ => found.reverse

/-- How a token is shown in a message. -/
def Token.shown : Token → String
  | .word w => (plain? w).getD ""
  | .operator "\n" => "newline"
  | .operator s => s
  | .redirect _ s => s
  | .fault _ => ""

/-! ## Reading commands -/

/-- The fault of tokens that do not go on as they should. -/
def unexpected : List Lexeme → SyntaxFault
  | [] => .unfinished
  | ⟨.fault f, _⟩ :: _ => f
  | ⟨t, line⟩ :: _ => .unexpected t.shown line

/-- A reader works on the tokens that are left. -/
abbrev Reader := StateT (List Lexeme) (Except SyntaxFault)

namespace Reader

/-- Fails at the token in front. -/
def fail : Reader α := do throw (unexpected (← get))

/-- Passes the token in front. -/
def next : Reader Unit := modify List.tail

/-- The text of a word in front that is not quoted. -/
def word? : Reader (Option String) := do
  match ← get with
  | ⟨.word w, _⟩ :: _ => return plain? w
  | _ => return none

/-- The operator in front. -/
def operator? : Reader (Option String) := do
  match ← get with
  | ⟨.operator s, _⟩ :: _ => return some s
  | _ => return none

/-- Drops line ends. -/
def skipLines : Reader Unit := modify fun ts => ts.dropWhile (·.token == .operator "\n")

/-- Reads a word that has to come. -/
def expectWord (word : String) : Reader Unit := do
  if (← word?) == some word then next else fail

/-- Reads an operator that has to come. -/
def expectOperator (operator : String) : Reader Unit := do
  if (← operator?) == some operator then next else fail

/-- The words that end a list inside of something else. -/
def closers : List String := ["then", "elif", "else", "fi", "do", "done", "\x7d"]

/-- Whether a list ends here. -/
def endsList (inner : Bool) : Reader Bool := do
  match ← word?, ← operator? with
  | some w, _ => return closers.elem w
  | none, some s => return s == ")" || (!inner && s == "\n")
  | none, none => return (← get).isEmpty

/-- The number that a word writes. -/
def digits? (w : Word) : Option Nat := (plain? w).bind String.toNat?

/-- A redirection with its operator. -/
def redirection? (stream : Option Nat) (operator : String) (w : Word) :
    Option (List Redirection) :=
  match operator with
  | "<" => some [.read w]
  | ">" => some [.write (stream.getD 1) w]
  | ">>" => some [.append (stream.getD 1) w]
  | ">&" =>
    match digits? w with
    | some n => some [.copy (stream.getD 1) n]
    | none => some [.write 1 w, .copy 2 1]
  | "&>" => some [.write 1 w, .copy 2 1]
  | _ => none

/-- The words and redirections in front of other tokens; if there may be no words, only
redirections. -/
def wordsIn (withWords : Bool) (ws : List Word) (rs : List Redirection) :
    List Lexeme → Except SyntaxFault ((List Word × List Redirection) × List Lexeme)
  | ⟨.redirect stream operator, _⟩ :: ⟨.word w, line⟩ :: ts =>
    match redirection? stream operator w with
    | some more => wordsIn withWords ws (rs ++ more) ts
    | none => .error (unexpected (⟨.word w, line⟩ :: ts))
  | ⟨.redirect _ _, line⟩ :: ts =>
    .error (if ts.isEmpty then .unexpected "newline" line else unexpected ts)
  | ⟨.word w, line⟩ :: ts =>
    if withWords then wordsIn withWords (w :: ws) rs ts
    else .ok ((ws.reverse, rs), ⟨.word w, line⟩ :: ts)
  | ts => .ok ((ws.reverse, rs), ts)

/-- Reads redirections. -/
def redirections : Reader (List Redirection) := do
  let (_, rs) ← (wordsIn false [] [] : Reader (List Word × List Redirection))
  return rs

/-- Reads a simple command. -/
def simple : Reader Command := do
  let line := ((← get).head?.map (·.line)).getD 1
  let (ws, rs) ← (wordsIn true [] [] : Reader (List Word × List Redirection))
  if ws.isEmpty && rs.isEmpty then fail else return .simple line ws rs

/-- The word that a token is. -/
def wordOf? (t : Lexeme) : Option Word :=
  match t.token with
  | .word w => some w
  | _ => none

/-- Reads words. -/
def words : Reader (List Word) := do
  let ts ← get
  set (ts.dropWhile fun t => (wordOf? t).isSome)
  return (ts.takeWhile fun t => (wordOf? t).isSome).filterMap wordOf?

/-- Reads the name and the words of a repetition for each of several words. -/
def eachHead : Reader (String × List Word) := do
  match ← word? with
  | none => fail
  | some name =>
    next
    skipLines
    if (← word?) == some "in" then
      next
      let ws ← words
      let closed := (← operator?) == some ";"
      if closed then next
      else if (← operator?) != some "\n" then fail
      skipLines
      return (name, ws)
    else
      if (← operator?) == some ";" then next
      skipLines
      return (name, [[.variable "@" none true]])

mutual

/-- Reads a list of commands; inside of something else it may go on behind a line end. -/
def list (inner : Bool) : Nat → Reader Command
  | 0 => fail
  | fuel + 1 => do
    if inner then skipLines
    if ← endsList inner then return .nothing
    let a ← chain fuel
    match ← operator? with
    | some ";" | some "&" =>
      next
      return .sequence a (← list inner fuel)
    | some "\n" => if inner then return .sequence a (← list inner fuel) else return a
    | _ => return a

/-- Reads a list inside of something else, which cannot be empty. -/
def body : Nat → Reader Command
  | 0 => fail
  | fuel + 1 => do
    let a ← list true fuel
    if a == .nothing then fail else return a

/-- Reads pipelines joined by conditions, which bind from the left. -/
def chain : Nat → Reader Command
  | 0 => fail
  | fuel + 1 => do joined fuel (← pipeline fuel)

/-- Reads what follows a pipeline. -/
def joined : Nat → Command → Reader Command
  | 0, _ => fail
  | fuel + 1, a => do
    match ← operator? with
    | some "&&" =>
      next
      skipLines
      joined fuel (.conjunction a (← pipeline fuel))
    | some "||" =>
      next
      skipLines
      joined fuel (.disjunction a (← pipeline fuel))
    | _ => return a

/-- Reads a pipeline. -/
def pipeline : Nat → Reader Command
  | 0 => fail
  | fuel + 1 => do
    if (← word?) == some "!" then
      next
      return .negate (← pipeline fuel)
    let a ← element fuel
    if (← operator?) == some "|" then
      next
      skipLines
      return .pipe a (← pipeline fuel)
    return a

/-- Reads what follows the condition of a choice. -/
def choice : Nat → Command → Reader Command
  | 0, _ => fail
  | fuel + 1, condition => do
    expectWord "then"
    let yes ← body fuel
    match ← word? with
    | some "elif" =>
      next
      return .branch condition yes (← choice fuel (← body fuel))
    | some "else" =>
      next
      let no ← body fuel
      expectWord "fi"
      return .branch condition yes no
    | _ =>
      expectWord "fi"
      return .branch condition yes .nothing

/-- Reads the body of a repetition. -/
def repeated : Nat → Reader Command
  | 0 => fail
  | fuel + 1 => do
    expectWord "do"
    let a ← body fuel
    expectWord "done"
    return a

/-- Reads one command of a pipeline. -/
def element : Nat → Reader Command
  | 0 => fail
  | fuel + 1 => do
    if (← operator?) == some "(" then
      next
      let a ← body fuel
      expectOperator ")"
      return .group a (← redirections)
    match ← word? with
    | some "\x7b" =>
      next
      let a ← body fuel
      expectWord "\x7d"
      return .block a (← redirections)
    | some "if" =>
      next
      let a ← choice fuel (← body fuel)
      return .block a (← redirections)
    | some "while" =>
      next
      let condition ← body fuel
      let a ← repeated fuel
      return .block (.loop false condition a) (← redirections)
    | some "until" =>
      next
      let condition ← body fuel
      let a ← repeated fuel
      return .block (.loop true condition a) (← redirections)
    | some "for" =>
      next
      let (name, ws) ← eachHead
      let a ← repeated fuel
      return .block (.each name ws a) (← redirections)
    | some w => if closers.elem w then fail else simple
    | none => simple

end

end Reader

/-! ## Scripts -/

/-- The commands of a text, and the fault that ends it. -/
structure Script where
  commands : List Command
  fault : Option SyntaxFault
deriving Repr, BEq, DecidableEq

/-- Reads the commands of one line, and of the lines that they go on in. -/
def Reader.whole (fuel : Nat) : Reader Command := do
  let a ← list false fuel
  if (← get).isEmpty || (← operator?) == some "\n" then return a else fail

/-- Reads command after command; those found so far are kept in reverse. -/
def Script.readFrom : Nat → List Command → List Lexeme → Script
  | 0, found, _ => ⟨found.reverse, none⟩
  | fuel + 1, found, ts =>
    match ts.dropWhile (·.token == .operator "\n") with
    | [] => ⟨found.reverse, none⟩
    | ts =>
      match (Reader.whole (8 * ts.length + 8)).run ts with
      | .error fault => ⟨found.reverse, some fault⟩
      | .ok (a, rest) => readFrom fuel (a :: found) rest

/-- Reads a text of commands. -/
def Script.read (text : String) : Script :=
  let ts := lexemes (text.length + 1) 1 [] text.toList
  readFrom (ts.length + 1) [] ts

end AgentDesk.Shell
