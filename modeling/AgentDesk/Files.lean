import AgentDesk.Path
import AgentDesk.Table
/-!
# File trees

A file tree holds files, directories and symbolic links by their place, the names on the way from
the root. Every operation follows the rules of a file system: the directories on the way must
exist, links are followed, and a failure leaves the tree as it was.

## Main definitions

* `FileNode`, `FileTree`, `FileFault`.
* `FileTree.locate` — the place that a path leads to.
* `FileTree.read`, `FileTree.write`, `FileTree.makeDirectories`, `FileTree.entries`,
  `FileTree.walk`.
-/

namespace AgentDesk

/-- What lies at a place. A file knows its content and when it was last written. -/
inductive FileNode where
  | file (content : ByteArray) (modified : Nat)
  | directory
  | link (target : String)
deriving BEq, Inhabited

/-- Whether a node is a directory. -/
def FileNode.isDirectory : FileNode → Bool
  | .directory => true
  | _ => false

/-- Why a file operation fails. -/
inductive FileFault where
  | notFound
  | exists
  | notDirectory
  | isDirectory
  | nameTooLong
  | tooManyLinks
  | zeroByte
  | notText
deriving Repr, BEq, DecidableEq, Inhabited

/-- The sentence for a fault. -/
def FileFault.describe : FileFault → String
  | .notFound => "No such file or directory (os error 2)"
  | .exists => "File exists (os error 17)"
  | .notDirectory => "Not a directory (os error 20)"
  | .isDirectory => "Is a directory (os error 21)"
  | .nameTooLong => "File name too long (os error 36)"
  | .tooManyLinks => "Too many levels of symbolic links (os error 40)"
  | .zeroByte => "file name contained an unexpected NUL byte"
  | .notText => "stream did not contain valid UTF-8"

/-- The names on the way from the root. -/
abbrev Place := List String

/-- The nodes by place, apart from the root, a clock that every writing advances, and the directory
that relative paths start from. -/
structure FileTree where
  nodes : Table Place FileNode
  clock : Nat
  origin : Place
deriving Inhabited

namespace FileTree

/-- The tree with nothing but its root, where relative paths start. -/
def empty (clock : Nat) : FileTree := ⟨[], clock, []⟩

/-- What lies at a place. -/
def node? (t : FileTree) : Place → Option FileNode
  | [] => some .directory
  | place => Table.get? place t.nodes

/-- Puts a node at a place. -/
def put (t : FileTree) (place : Place) (node : FileNode) : FileTree :=
  { t with nodes := Table.put place node t.nodes }

/-! ## Finding a place -/

/-- The number of links that are followed on the way to one place. -/
def linkLimit : Nat := 40

/-- The number of bytes in a name. -/
def nameLimit : Nat := 255

/-- The number of bytes in a path. -/
def pathLimit : Nat := 4095

/-- The place that steps lead to from a directory. The last step may lead to a place where nothing
lies yet; `follow` tells whether a link at the end is followed. -/
def locateFrom (t : FileTree) (follow : Bool) (links : Nat) (dir : Place) :
    List PathStep → Except FileFault Place
  | [] => .ok dir
  | .here :: rest => locateFrom t follow links dir rest
  | .up :: rest => locateFrom t follow links dir.dropLast rest
  | .name n :: rest =>
    if n.utf8ByteSize > nameLimit then .error .nameTooLong
    else
      match t.node? (dir ++ [n]) with
      | none => if rest.isEmpty then .ok (dir ++ [n]) else .error .notFound
      | some .directory => locateFrom t follow links (dir ++ [n]) rest
      | some (.file _ _) => if rest.isEmpty then .ok (dir ++ [n]) else .error .notDirectory
      | some (.link target) =>
        if rest.isEmpty && !follow then .ok (dir ++ [n])
        else
          match links with
          | 0 => .error .tooManyLinks
          | links + 1 =>
            let path := Path.parse target
            locateFrom t follow links (if path.absolute then [] else dir) (path.steps ++ rest)
termination_by steps => (links, steps.length)

/-- The place that a path leads to. A path without any step leads nowhere unless it is the root. -/
def locate (t : FileTree) (follow : Bool) (path : Path) : Except FileFault Place :=
  if path.text.toList.elem '\x00' then .error .zeroByte
  else if path.text.utf8ByteSize > pathLimit then .error .nameTooLong
  else if path.text.isEmpty then .error .notFound
  else t.locateFrom follow linkLimit (if path.absolute then [] else t.origin) path.steps

/-- What a path leads to, behind all links. -/
def find (t : FileTree) (path : Path) : Except FileFault FileNode := do
  let place ← t.locate true path
  match t.node? place with
  | some node => .ok node
  | none => .error .notFound

/-- Whether a path leads to anything. -/
def exists? (t : FileTree) (path : Path) : Bool :=
  match t.find path with
  | .ok _ => true
  | .error _ => false

/-- Whether a path leads to a directory. -/
def isDirectory (t : FileTree) (path : Path) : Bool :=
  match t.find path with
  | .ok .directory => true
  | _ => false

/-! ## Reading and writing -/

/-- The content of a file. -/
def read (t : FileTree) (path : Path) : Except FileFault ByteArray := do
  match ← t.find path with
  | .file content _ => .ok content
  | _ => .error .isDirectory

/-- The content of a file that holds text. -/
def readText (t : FileTree) (path : Path) : Except FileFault String := do
  match String.fromUTF8? (← t.read path) with
  | some text => .ok text
  | none => .error .notText

/-- Writes a file anew, or creates it in a directory that exists. -/
def write (t : FileTree) (path : Path) (content : ByteArray) : Except FileFault FileTree := do
  let place ← t.locate true path
  match t.node? place with
  | some .directory => .error .isDirectory
  | _ => .ok { t.put place (.file content (t.clock + 1)) with clock := t.clock + 1 }

/-- Makes one directory. -/
def makeDirectory (t : FileTree) (path : Path) : Except FileFault FileTree := do
  let place ← t.locate false path
  match t.node? place with
  | some _ => .error .exists
  | none => .ok (t.put place .directory)

/-- Makes a directory, given the steps to it in reverse, and those above it that are missing. The
tree that is left by a failure holds what was made before. -/
def makeDirectoriesFrom (t : FileTree) (absolute : Bool) :
    List PathStep → Except FileFault Unit × FileTree
  | [] => (.ok (), t)
  | s :: above =>
    let path : Path := ⟨absolute, (s :: above).reverse⟩
    let made (t : FileTree) : Except FileFault Unit × FileTree :=
      match t.makeDirectory path with
      | .ok t => (.ok (), t)
      | .error e => (if t.isDirectory path then .ok () else .error e, t)
    match t.makeDirectory path with
    | .error .notFound =>
      match makeDirectoriesFrom t absolute above with
      | (.ok (), t) => made t
      | failed => failed
    | _ => made t

/-- Makes a directory and those above it that are missing. -/
def makeDirectories (t : FileTree) (path : Path) : Except FileFault Unit × FileTree :=
  t.makeDirectoriesFrom path.absolute path.steps.reverse

/-! ## Removing, copying and moving -/

/-- What lies behind a place on the way to another, if it leads there. -/
def behind? : Place → Place → Option Place
  | [], place => some place
  | d :: dir, p :: place => if d = p then behind? dir place else none
  | _, _ => none

/-- The tree without what lies at a place and below it. -/
def removeTree (t : FileTree) (place : Place) : FileTree :=
  { t with nodes := t.nodes.filter fun (p, _) => (behind? place p).isNone }

/-- The tree with what lies at a place and below it put at another place as well, changed by
`f`. -/
def copyTree (t : FileTree) (f : FileNode → FileNode) (source target : Place) : FileTree :=
  t.nodes.foldl (fun t (p, node) =>
    match behind? source p with
    | some names => t.put (target ++ names) (f node)
    | none => t) t

/-- The tree with what lies at a place and below it at another place instead. -/
def moveTree (t : FileTree) (source target : Place) : FileTree :=
  ((t.removeTree target).copyTree id source target).removeTree source

/-! ## Listing -/

/-- The name below `dir` at which an entry lies, if it lies directly in `dir`. -/
def nameIn? : Place → Place → Option String
  | [], [n] => some n
  | d :: dir, p :: place => if d = p then nameIn? dir place else none
  | _, _ => none

/-- The entries of a directory, by name. -/
def entries (t : FileTree) (dir : Place) : List (String × FileNode) :=
  (t.nodes.filterMap fun (place, node) => (nameIn? dir place).map (·, node)).mergeSort
    fun a b => a.1 ≤ b.1

/-- An entry found on a walk: the names below the start and what lies there. -/
structure Entry where
  names : Place
  node : FileNode

/-- The entries below a directory, each directory in front of what it holds and everything by name.
An entry that is not wanted is left out with all that it holds. Links are not followed. `depth`
bounds how deep the walk goes. -/
def walkFrom (t : FileTree) (wanted : String → FileNode → Bool) (start : Place) :
    Nat → Place → List Entry
  | 0, _ => []
  | depth + 1, below =>
    (t.entries (start ++ below)).flatMap fun (name, node) =>
      if wanted name node then
        ⟨below ++ [name], node⟩ ::
          (if node.isDirectory then walkFrom t wanted start depth (below ++ [name]) else [])
      else []

/-- The entries below a directory. No directory lies deeper than there are nodes. -/
def walk (t : FileTree) (wanted : String → FileNode → Bool) (start : Place) : List Entry :=
  t.walkFrom wanted start t.nodes.length []

end FileTree

end AgentDesk
