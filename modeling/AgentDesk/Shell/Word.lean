import AgentDesk.Text.Pieces
/-!
# Words of the shell

A word is written with quotes, backslashes and dollar signs. Reading it gives its fragments: plain
text, and places where a value is put in when the command runs. Quotes keep a value from being
split, and keep wildcards from being taken for such.

## Main definitions

* `Fragment`, `Word`.
* `word?` — reads a word.
-/

namespace AgentDesk.Shell

/-- What the value of a variable is replaced by: the text in place of one that is missing, or the
text in place of one that is there. An empty value may count as missing. -/
inductive Substitute where
  | missing (emptyToo : Bool) (instead : String)
  | present (emptyToo : Bool) (instead : String)
deriving Repr, BEq, DecidableEq

/-- A piece of a word. -/
inductive Fragment where
  | text (s : String) (quoted : Bool)
  | variable (name : String) (substitute : Option Substitute) (quoted : Bool)
  | size (name : String) (quoted : Bool)
  | output (command : String) (quoted : Bool)
  | sum (expression : String) (quoted : Bool)
deriving Repr, BEq, DecidableEq

/-- A word before its values are put in. -/
abbrev Word := List Fragment

/-- The text of a word that is not quoted and holds no places for values. -/
def plain? : Word → Option String
  | [] => some ""
  | .text s false :: r => (plain? r).map (s ++ ·)
  | _ => none

/-- Whether a character may stand in the name of a variable. -/
def inName (c : Char) : Bool := (c.isAlphanum && c.toNat < 128) || c == '_'

/-- Whether a character is the name of a variable that the shell keeps. -/
def isSpecial (c : Char) : Bool := "?$#@*-!".toList.elem c

/-- The character that encloses a command whose output is put in. -/
def backtick : Char := Char.ofNat 96

/-- Cuts a text at the parenthesis that closes one which was just opened. Quotes hide parentheses;
`depth` counts those that were opened inside, and what was passed is kept in reverse. -/
def cutParenthesis? : Nat → Option Char → List Char → List Char → Option (List Char × List Char)
  | _, _, _, [] => none
  | depth, quote, passed, '\\' :: c :: r =>
    if quote == some '\'' then cutParenthesis? depth quote ('\\' :: passed) (c :: r)
    else cutParenthesis? depth quote (c :: '\\' :: passed) r
  | depth, some q, passed, c :: r =>
    cutParenthesis? depth (if c == q then none else some q) (c :: passed) r
  | depth, none, passed, c :: r =>
    if c == '\'' || c == '"' then cutParenthesis? depth (some c) (c :: passed) r
    else if c == '(' then cutParenthesis? (depth + 1) none (c :: passed) r
    else if c == ')' then
      match depth with
      | 0 => some (passed.reverse, r)
      | d + 1 => cutParenthesis? d none (c :: passed) r
    else cutParenthesis? depth none (c :: passed) r
termination_by _ _ _ s => s.length

/-- Cuts a text at the next backtick that has no backslash in front of it. -/
def cutBacktick? : List Char → List Char → Option (List Char × List Char)
  | _, [] => none
  | passed, '\\' :: c :: r =>
    if c == backtick || c == '\\' || c == '$' then cutBacktick? (c :: passed) r
    else cutBacktick? (c :: '\\' :: passed) r
  | passed, c :: r =>
    if c == backtick then some (passed.reverse, r) else cutBacktick? (c :: passed) r

/-- What the text behind the name of a variable, inside its braces, says. -/
def substitute? : List Char → Option (Option Substitute)
  | [] => some none
  | ':' :: '-' :: r => some (some (.missing true (String.ofList r)))
  | '-' :: r => some (some (.missing false (String.ofList r)))
  | ':' :: '+' :: r => some (some (.present true (String.ofList r)))
  | '+' :: r => some (some (.present false (String.ofList r)))
  | _ => none

/-- The name at the start of a text, and the rest. -/
def cutName (s : List Char) : List Char × List Char :=
  match s with
  | c :: r => if isSpecial c then ([c], r) else (s.takeWhile inName, s.dropWhile inName)
  | [] => ([], [])

/-- The variable inside braces. -/
def braced? (quoted : Bool) (inside : List Char) : Option Fragment :=
  match inside with
  | '#' :: c :: r => some (.size (String.ofList (c :: r)) quoted)
  | inside =>
    let (name, rest) := cutName inside
    if name.isEmpty then none
    else (substitute? rest).map fun s => .variable (String.ofList name) s quoted

/-- Reads what follows a dollar sign; a sign that stands for nothing stands for itself. The value
is none if something was opened and not closed. -/
def dollar? (quoted : Bool) (s : List Char) : Option (Fragment × List Char) :=
  match s with
  | '{' :: r =>
    match r.dropWhile (· != '}') with
    | _ :: after =>
      some (((braced? quoted (r.takeWhile (· != '}'))).getD (.text "$" quoted)), after)
    | [] => none
  | '(' :: r =>
    (cutParenthesis? 0 none [] r).map fun (inside, after) =>
      match inside, inside.getLast? with
      | '(' :: inside, some ')' => (.sum (String.ofList inside.dropLast) quoted, after)
      | inside, _ => (.output (String.ofList inside) quoted, after)
  | c :: r =>
    if isSpecial c || c.isDigit then some (.variable c.toString none quoted, r)
    else if inName c then
      some (.variable (String.ofList (s.takeWhile inName)) none quoted, s.dropWhile inName)
    else some (.text "$" quoted, s)
  | [] => some (.text "$" quoted, s)

/-- Why a word cannot be read: what was opened is not closed by this character. -/
abbrev Unclosed := Char

/-- Reads the inside of double quotes; the fragments so far are kept in reverse. -/
def quoted? : Nat → Word → List Char → Except Unclosed (Word × List Char)
  | _ + 1, w, '"' :: r => .ok (.text "" true :: w, r)
  | fuel + 1, w, '\\' :: c :: r =>
    if c == '\n' then quoted? fuel w r
    else if c == '"' || c == '\\' || c == '$' || c == backtick then
      quoted? fuel (.text c.toString true :: w) r
    else quoted? fuel (.text c.toString true :: .text "\\" true :: w) r
  | fuel + 1, w, '$' :: r =>
    match dollar? true r with
    | some (fragment, r) => quoted? fuel (fragment :: w) r
    | none => .error ')'
  | fuel + 1, w, c :: r =>
    if c == backtick then
      match cutBacktick? [] r with
      | some (inside, r) => quoted? fuel (.output (String.ofList inside) true :: w) r
      | none => .error backtick
    else quoted? fuel (.text c.toString true :: w) r
  | _, _, _ => .error '"'

/-- Whether a character ends a word. -/
def endsWord (c : Char) : Bool := " \t\n;&|()<>".toList.elem c

/-- Reads a word, whose fragments so far are kept in reverse. Every step reads a character, so
more than the length of the text is fuel enough. -/
def word? : Nat → Word → List Char → Except Unclosed (Word × List Char)
  | fuel + 1, w, '\'' :: r =>
    match r.dropWhile (· != '\'') with
    | _ :: after => word? fuel (.text (String.ofList (r.takeWhile (· != '\''))) true :: w) after
    | [] => .error '\''
  | fuel + 1, w, '"' :: r => do
    let (w, r) ← quoted? fuel w r
    word? fuel w r
  | fuel + 1, w, '\\' :: r =>
    match r with
    | '\n' :: r => word? fuel w r
    | c :: r => word? fuel (.text c.toString true :: w) r
    | [] => word? fuel (.text "\\" true :: w) []
  | fuel + 1, w, '$' :: r =>
    match dollar? false r with
    | some (fragment, r) => word? fuel (fragment :: w) r
    | none => .error ')'
  | fuel + 1, w, c :: r =>
    if endsWord c then .ok (w.reverse, c :: r)
    else if c == backtick then
      match cutBacktick? [] r with
      | some (inside, r) => word? fuel (.output (String.ofList inside) false :: w) r
      | none => .error backtick
    else word? fuel (.text c.toString false :: w) r
  | _, w, r => .ok (w.reverse, r)

end AgentDesk.Shell
