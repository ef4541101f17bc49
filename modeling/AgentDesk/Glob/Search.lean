import AgentDesk.Files
import AgentDesk.Glob.Pattern
/-!
# Files that match a pattern

A pattern with slashes is followed from directory to directory: a name without wildcards leads
straight on, other names are compared with the entries of the directory, and `**` leads into
every directory below. A path that is found keeps the dots of the pattern that led to it.

## Main definitions

* `Trail` — a path as it was followed.
* `Glob.search` — the paths that match a pattern.
-/

namespace AgentDesk.Glob

/-- A path as it was followed from the root or from the directory where relative paths start: its
names and dots. An empty name at the end stands for a slash at the end. -/
structure Trail where
  absolute : Bool
  names : List String
deriving Repr, BEq, DecidableEq

namespace Trail

/-- Goes on to a name. -/
def push (t : Trail) (name : String) : Trail :=
  let names := if t.names.getLast? == some "" then t.names.dropLast else t.names
  { t with names := if names.isEmpty && name.isEmpty then [] else names ++ [name] }

/-- The text of a trail. -/
def text (t : Trail) : String := (if t.absolute then "/" else "") ++ Text.join "/" t.names

/-- The path of a trail; where relative paths start, it is a dot. -/
def path (t : Trail) : Path := if t.text.isEmpty then ⟨false, [.here]⟩ else Path.parse t.text

/-- The name that a trail ends with. -/
def fileName? (t : Trail) : Option String := t.path.fileName?

end Trail

/-- What is searched for where. -/
structure Search where
  files : FileTree
  strictness : Strictness
  directoriesOnly : Bool

namespace Search

/-- Whether a trail leads to a directory. -/
def isDirectory (s : Search) (t : Trail) : Bool := s.files.isDirectory t.path

/-- Whether a trail leads to anything, be it a link that leads nowhere. -/
def leads (s : Search) (t : Trail) : Bool :=
  match s.files.locate false t.path with
  | .ok place => (s.files.node? place).isSome
  | .error _ => false

/-- The names in a directory that wildcards may stand for. -/
def children (s : Search) (t : Trail) : List String :=
  match s.files.locate true t.path with
  | .ok place =>
    ((s.files.entries place).map (·.1)).filter fun n => !(s.strictness.dot && n.startsWith ".")
  | .error _ => []

/-- The dots that a pattern of its own accord may stand for: only one that begins with a dot
does. -/
def dots (s : Search) (p : Pattern) : List String :=
  match p with
  | .char '.' :: _ => [".", ".."].filter (Pattern.accepts s.strictness p)
  | _ => []

/-- Whether a pattern stands for directories at any depth. -/
def isDeep (p : Pattern) : Bool := p.elem .directories

/-- The trail, unless only directories are searched for and it leads to none. -/
def found (s : Search) (t : Trail) : List Trail :=
  if s.directoriesOnly && !s.isDirectory t then [] else [t]

mutual

/-- What the patterns lead to from a directory. -/
def follow (s : Search) : Nat → List Pattern → Trail → List Trail
  | 0, _, _ => []
  | _ + 1, [], _ => []
  | fuel + 1, p :: rest, t =>
    let goOn (t : Trail) : List Trail := if rest.isEmpty then s.found t else follow s fuel rest t
    match p.literal? with
    | some name =>
      let next := t.push name
      let there := if name == "." || name == ".." then s.isDirectory t else s.leads next
      if there then goOn next else []
    | none =>
      if s.isDirectory t then
        (s.children t).flatMap (fun n => meet s fuel (p :: rest) (t.push n)) ++
          (s.dots p).flatMap fun n => goOn (t.push n)
      else []

/-- What the patterns lead to when the first of them meets an entry of a directory. -/
def meet (s : Search) : Nat → List Pattern → Trail → List Trail
  | 0, _, _ => []
  | _ + 1, [], _ => []
  | fuel + 1, p :: rest, t =>
    let compare : List Pattern → List Trail
      | [] => []
      | q :: rest =>
        match t.fileName? with
        | none => []
        | some name =>
          if !q.accepts s.strictness name then []
          else if rest.isEmpty then s.found t
          else follow s fuel rest t
    if isDeep p then
      let rest := rest.dropWhile isDeep
      if s.isDirectory t then
        follow s fuel (p :: rest) t ++ (if rest.isEmpty then [t] else compare rest)
      else compare rest
    else compare (p :: rest)

end

/-- More steps than any search takes: every link is followed through the whole tree. -/
def fuel (s : Search) (patterns : List Pattern) : Nat :=
  2 * ((FileTree.linkLimit + 1) * (s.files.nodes.length + 1) + patterns.length)

end Search

/-- The pieces of a pattern between its slashes; a slash at the end adds none. -/
def components (text : String) : List String :=
  match (Text.splitChar '/' text).reverse with
  | "" :: rest => rest.reverse
  | all => all.reverse

/-- The paths that match a pattern; none if the pattern has no meaning. -/
def search (files : FileTree) (strictness : Strictness) (pattern : String) : List Trail :=
  let absolute := pattern.startsWith "/"
  let rest := if absolute then String.ofList (pattern.toList.drop 1) else pattern
  let pieces := if rest.isEmpty then [""] else components rest
  match Pattern.parse? pattern, pieces.mapM Pattern.parse? with
  | some _, some patterns =>
    let s : Search := ⟨files, strictness, pattern.endsWith "/"⟩
    s.follow (s.fuel patterns) patterns ⟨absolute, []⟩
  | _, _ => []

end AgentDesk.Glob
