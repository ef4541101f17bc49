import AgentDesk.Glob.Search
import AgentDesk.Shell.State
import AgentDesk.Shell.Sum
/-!
# What words stand for

A word that is not quoted may stand for several words: a value is split at its blanks, and a
pattern stands for the files that match it. What is quoted stays one word.

## Main definitions

* `Glyph`, `glyphs` — a word with its values put in.
* `fieldsOf`, `matching` — splitting at blanks, and files for patterns.
* `assignment?` — a word that sets a variable.
-/

namespace AgentDesk.Shell

/-- One sign of a word whose values are put in: a character, a place where the word is split, or a
mark that keeps a word that is empty. -/
inductive Glyph where
  | char (c : Char) (quoted : Bool)
  | gap
  | mark
deriving Repr, BEq, DecidableEq

/-- The glyphs of a text that is kept as it is. -/
def kept (quoted : Bool) (text : String) : List Glyph :=
  (if quoted then [.mark] else []) ++ text.toList.map (.char · quoted)

/-- The glyphs of a value, which is split at its blanks unless it is quoted. -/
def valueGlyphs (quoted : Bool) (text : String) : List Glyph :=
  if quoted then kept true text
  else text.toList.map fun c => if c == ' ' || c == '\t' || c == '\n' then .gap else .char c false

/-- The text that a variable stands for. -/
def substituted (value : Option String) : Option Substitute → String
  | none => value.getD ""
  | some (.missing emptyToo instead) =>
    match value with
    | none => instead
    | some v => if emptyToo && v.isEmpty then instead else v
  | some (.present emptyToo instead) =>
    match value with
    | none => ""
    | some v => if emptyToo && v.isEmpty then "" else instead

/-- The glyphs of all arguments, each a word of its own. -/
def argumentGlyphs : List String → List Glyph
  | [] => []
  | [a] => kept true a
  | a :: rest => kept true a ++ .gap :: argumentGlyphs rest

/-- The glyphs of a fragment; the output of a command was put in before. A sum that has no value
gives none. -/
def fragmentGlyphs? (s : State) : Fragment → Option (List Glyph)
  | .text t quoted => some (kept quoted t)
  | .variable "@" none true => some (argumentGlyphs s.arguments)
  | .variable n substitute quoted =>
    some (valueGlyphs quoted (substituted (s.value? n) substitute))
  | .size n quoted => some (valueGlyphs quoted (toString (s.value n).length))
  | .output text quoted => some (valueGlyphs quoted text)
  | .sum expression quoted =>
    (Sum.value? s.value expression).map fun n => valueGlyphs quoted (toString n)

/-- A word whose tilde in front is replaced by the home directory. -/
def withHome (w : Word) : Word :=
  match w with
  | .text "~" false :: r =>
    match r with
    | [] => [.variable "HOME" none true]
    | .text t false :: _ => if t.startsWith "/" then .variable "HOME" none true :: r else w
    | _ => w
  | w => w

/-- The glyphs of a word. -/
def glyphs? (s : State) (w : Word) : Option (List Glyph) :=
  ((withHome w).mapM (fragmentGlyphs? s)).map List.flatten

/-! ## Fields -/

/-- The glyphs between gaps; nothing between two gaps is no field. -/
def fieldsOf (gs : List Glyph) : List (List Glyph) :=
  (Text.splitOn (· == .gap) gs).filter fun f => !f.isEmpty

/-- The text of glyphs. -/
def textOf (gs : List Glyph) : String :=
  String.ofList <| gs.filterMap fun
    | .char c _ => some c
    | _ => none

/-- Whether glyphs hold a wildcard. -/
def isPattern (gs : List Glyph) : Bool :=
  gs.any fun
    | .char c false => c == '*' || c == '?' || c == '['
    | _ => false

/-- The pattern that glyphs write; what is quoted stands for itself. -/
def patternOf (gs : List Glyph) : String :=
  Text.join "" <| gs.map fun
    | .char c false => c.toString
    | .char c true => Glob.Pattern.escape c.toString
    | _ => ""

/-- The files that a pattern in glyphs stands for, in order; one that no file matches stands for
its text. -/
def matching (s : State) (gs : List Glyph) : List String :=
  if !isPattern gs then [textOf gs]
  else
    let pattern := patternOf gs
    let front := if pattern.startsWith "/" then "" else s.directory.text ++ "/"
    let found := (Glob.search s.files Glob.strict (Glob.Pattern.escape front ++ pattern)).map
      fun t => ((Text.stripPrefix? front t.text).getD t.text)
    if found.isEmpty then [textOf gs] else found.mergeSort fun a b => a ≤ b

/-- The words that glyphs stand for. -/
def wordsOf (s : State) (gs : List Glyph) : List String := (fieldsOf gs).flatMap (matching s)

/-! ## Assignments -/

/-- The part of an unquoted name at the start of a word that goes up to an equality sign, in
reverse, and the value behind it. -/
def assignmentFrom? (name : List Char) : Word → Option (String × Word)
  | .text t false :: r =>
    match t.toList with
    | [c] =>
      if c == '=' then
        match name.reverse with
        | first :: more =>
          if first.isDigit then none else some (String.ofList (first :: more), r)
        | [] => none
      else if inName c then assignmentFrom? (c :: name) r
      else none
    | _ => none
  | _ => none

/-- The variable that a word sets, and the word for its value. -/
def assignment? (w : Word) : Option (String × Word) := assignmentFrom? [] w

end AgentDesk.Shell
