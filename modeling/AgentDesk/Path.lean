import AgentDesk.Text.Pieces
/-!
# Paths

A path is read as a list of steps from the root or from a directory that is not named. Paths are
compared step by step, never as texts. Normalizing works on the steps alone: a step up takes away
the step before it, and is lost where there is none.

## Main definitions

* `Path`, `Path.parse`, `Path.text`, `Path.join`.
* `Path.normalize` — no step up and no dot is left.
* `Path.resolve` — the path that a user means in a working directory.
* `Path.guardedBy?` — the protected location that a path lies in.
* `Path.isHiddenBelow`, `Path.isSkipped` — what listings and searches leave out.
-/

namespace AgentDesk

/-- One step of a path. A dot is kept only at the start of a relative path. -/
inductive PathStep where
  | here
  | up
  | name (text : String)
deriving Repr, BEq, DecidableEq, Inhabited

/-- A path: whether it starts at the root, and its steps. -/
structure Path where
  absolute : Bool
  steps : List PathStep
deriving Repr, BEq, DecidableEq, Inhabited

namespace Path

/-- The root. -/
def root : Path := ⟨true, []⟩

/-- The step that a piece of text stands for; empty pieces and dots stand for none. -/
def stepOf? (piece : String) : Option PathStep :=
  if piece = "" ∨ piece = "." then none
  else if piece = ".." then some .up
  else some (.name piece)

/-- Reads a path. -/
def parse (text : String) : Path :=
  let pieces := Text.splitChar '/' text
  match pieces with
  | "" :: rest =>
    if rest.isEmpty then ⟨false, []⟩ else ⟨true, rest.filterMap stepOf?⟩
  | "." :: rest => ⟨false, .here :: rest.filterMap stepOf?⟩
  | _ => ⟨false, pieces.filterMap stepOf?⟩

/-- The text of a step. -/
def stepText : PathStep → String
  | .here => "."
  | .up => ".."
  | .name n => n

/-- The text of a path. -/
def text (p : Path) : String :=
  (if p.absolute then "/" else "") ++ Text.join "/" (p.steps.map stepText)

/-- A path below a directory; an absolute path stands for itself. -/
def join (dir p : Path) : Path :=
  if p.absolute then p
  else ⟨dir.absolute, dir.steps ++ p.steps.filter fun s => !(s == .here)⟩

/-- What is left of the steps taken so far, the latest one first, after one more step. -/
def walk (taken : List PathStep) : PathStep → List PathStep
  | .here => taken
  | .up => taken.tail
  | .name n => .name n :: taken

/-- Removes dots and steps up without looking at any file. -/
def normalize (p : Path) : Path := ⟨p.absolute, (p.steps.foldl walk []).reverse⟩

/-- What a user's text means, before it is normalized: a leading `~/` stands for the home
directory, and a relative path lies in the working directory. -/
def located (home : Option Path) (dir : Path) (raw : String) : Path :=
  let expanded := match home, Text.stripPrefix? "~/" raw with
    | some home, some rest => home.join (parse rest)
    | _, _ => parse raw
  dir.join expanded

/-- The path that a user's text means. -/
def resolve (home : Option Path) (dir : Path) (raw : String) : Path :=
  (located home dir raw).normalize

/-- What follows the path `p` in `q`, if `q` is `p` or lies below it. -/
def below? (p q : Path) : Option (List PathStep) :=
  if p.absolute = q.absolute then Text.dropPrefix? p.steps q.steps else none

/-- Whether `q` is `p` or lies below it. -/
def contains (p q : Path) : Bool := (p.below? q).isSome

/-- The locations that no tool may write to. -/
def guarded : List String :=
  ["~/.ssh", "~/.gnupg", "~/.aws", "~/.config/gcloud", "~/.taskloom/config.toml", "/etc/shadow",
    "/etc/passwd", "/etc/sudoers"]

/-- The path of a protected location; one in the home directory has none without a home. -/
def guardedPath? (home : Option Path) (location : String) : Option Path :=
  match Text.stripPrefix? "~/" location with
  | some rest => home.map (·.join (parse rest))
  | none => some (parse location)

/-- The first protected location that a path lies in. -/
def guardedBy? (home : Option Path) (p : Path) : Option String :=
  guarded.find? fun location =>
    match guardedPath? home location with
    | some g => g.contains p.normalize
    | none => false

/-- Whether a step has a name that starts with a dot. -/
def isDotted : PathStep → Bool
  | .name n => n.startsWith "."
  | _ => false

/-- Whether a path has a dotted name below `dir`; a path that is elsewhere is looked at whole. -/
def isHiddenBelow (dir p : Path) : Bool :=
  ((dir.below? p).getD p.steps).any isDotted

/-- The names of directories that are searched only on request. -/
def skipped : List String := ["node_modules", "__pycache__", "target", "venv", "dist"]

/-- Whether directories of this name are passed over. -/
def isSkipped (name : String) : Bool := skipped.elem name

/-- The names on a path that was normalized. -/
def names (p : Path) : List String :=
  p.steps.filterMap fun
    | .name n => some n
    | _ => none

/-- The absolute path with these names. -/
def ofNames (names : List String) : Path := ⟨true, names.map .name⟩

/-- The path with one more name. -/
def child (p : Path) (name : String) : Path := ⟨p.absolute, p.steps ++ [.name name]⟩

/-- The directory that a path lies in. -/
def parent? (p : Path) : Option Path :=
  match p.steps.reverse with
  | [] => none
  | _ :: rest => some ⟨p.absolute, rest.reverse⟩

/-- The last name of a path. -/
def fileName? (p : Path) : Option String :=
  match p.steps.getLast? with
  | some (.name n) => some n
  | _ => none

/-- The part of the last name behind its last dot, unless the name starts with that dot. -/
def extension? (p : Path) : Option String :=
  p.fileName?.bind fun n =>
    match (Text.splitChar '.' n).reverse with
    | ext :: rest => if rest.isEmpty ∨ rest = [""] then none else some ext
    | [] => none

/-- The order of one step against another: a dot, then a step up, then names. -/
def compareSteps : PathStep → PathStep → Ordering
  | .here, .here => .eq
  | .here, _ => .lt
  | .up, .here => .gt
  | .up, .up => .eq
  | .up, .name _ => .lt
  | .name a, .name b => compare a b
  | .name _, _ => .gt

/-- The order of paths: step by step, and the shorter of two first. -/
def compareLists : List PathStep → List PathStep → Ordering
  | [], [] => .eq
  | [], _ :: _ => .lt
  | _ :: _, [] => .gt
  | a :: as, b :: bs => (compareSteps a b).then (compareLists as bs)

/-- The order of two paths; absolute paths come first. -/
def order (p q : Path) : Ordering :=
  (compare (!p.absolute) (!q.absolute)).then (compareLists p.steps q.steps)

end Path

end AgentDesk
