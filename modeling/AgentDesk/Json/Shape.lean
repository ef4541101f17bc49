import AgentDesk.Json.Document
/-!
# Reading typed values from documents

A record is read from an object or from an array that lists its fields in order. An object may
hold other members, which are skipped; a field that it names twice is an error. In an object a
field for an optional value may be absent; in an array it may not, unless the field has a default.

A choice whose object names the case in the member `type` is read in two passes: the whole object
is kept first, so that nothing in it may be ill-formed, and then the fields of the case are read
from it.

## Main definitions

* `Reading` — how deep containers may still be nested, and whether the document was kept first.
* `Document.record?`, `Record.required?`, `Record.optional?`, `Record.orDefault?` — records.
* `Document.caseName?`, `Document.tagged?` — choices without and with fields.
-/

namespace AgentDesk

/-- The state of a reader: how many containers may still be entered, and whether the document
stems from an object that was kept as a whole. -/
structure Reading where
  room : Nat
  kept : Bool
deriving Repr, DecidableEq

namespace Reading

/-- The state at the root of a text. -/
def start : Reading := ⟨Document.depthLimit, false⟩

/-- Enters a container. -/
def enter? (r : Reading) : Option Reading :=
  match r.room with
  | 0 => none
  | n + 1 => some { r with room := n }

end Reading

/-- A function that reads a value of type `α` from a document. -/
abbrev Shape (α : Type) := Reading → Document → Option α

/-- The fields found for a record, in order of declaration. -/
structure Record where
  names : List String
  cells : List (Option Document)
  listed : Bool
  inner : Reading

namespace Document

/-- Reads a string. -/
def text? : Shape String
  | _, .string s => s
  | _, _ => none

/-- Reads a truth value. -/
def truth? : Shape Bool
  | _, .bool b => some b
  | _, _ => none

/-- Reads a natural number of at most `max`. -/
def natUpTo? (max : Nat) : Shape Nat
  | _, .number n =>
    match n.value? with
    | some (.int i) => if 0 ≤ i && i.toNat ≤ max then some i.toNat else none
    | _ => none
  | _, _ => none

/-- Reads a number as a floating-point number. -/
def float? : Shape Float
  | _, .number n =>
    match n.value? with
    | some (.int i) => some (Float.ofInt i)
    | some (.float x) => some x
    | none => none
  | _, _ => none

/-- Reads null as nothing. -/
def nullable? (f : Shape α) : Shape (Option α)
  | _, .null => some none
  | r, d => (f r d).map some

/-- Reads a list of values. -/
def list? (f : Shape α) : Shape (List α)
  | r, .array items => r.enter?.bind fun r => items.mapM (f r)
  | _, _ => none

/-- Reads any value. -/
def any? : Shape Json
  | r, d => d.value? r.room

/-- The documents of the members named `name`. -/
def membersNamed (name : String) (members : List (String × Document)) : List Document :=
  (members.filter (·.1 == name)).map (·.2)

/-- The document of a field that is named at most once. -/
def cell? (members : List (String × Document)) (name : String) : Option (Option Document) :=
  match membersNamed name members with
  | [] => some none
  | [d] => some (some d)
  | _ => none

/-- The members of an object whose names are all well-formed. -/
def named? (members : List (Option String × Document)) : Option (List (String × Document)) :=
  members.mapM fun (n, d) => n.map (·, d)

/-- The document with the members named `old` under the name `new`. -/
def renamed (old new : String) : Document → Document
  | .object members =>
    .object (members.map fun (n, d) => (if n == some old then some new else n, d))
  | d => d

/-- Finds the fields of a record. -/
def record? (names : List String) : Shape Record
  | r, .object members =>
    r.enter?.bind fun inner => do
      let members ← named? members
      let cells ← names.mapM (cell? members)
      pure ⟨names, cells, false, inner⟩
  | r, .array items =>
    if names.length < items.length then none
    else r.enter?.map fun inner => ⟨names, items.map some, true, inner⟩
  | _, _ => none

/-- Reads the name of a case without fields: a string, or an object that gives the name nothing
but null. An object that was kept first may also give it an empty object. -/
def caseName? : Shape String
  | _, .string s => s
  | r, .object [(some name, d)] =>
    r.enter?.bind fun _ =>
      match d with
      | .null => some name
      | .object [] => if r.kept then some name else none
      | _ => none
  | _, _ => none

/-- Reads the tag of a choice and the document of its fields. -/
def tagged? (tag : String) : Shape (String × Reading × Document)
  | r, d =>
    match d.value? r.room with
    | none => none
    | some _ =>
      match d with
      | .object members => do
        let members ← named? members
        match membersNamed tag members with
        | [.string (some name)] =>
          let rest := members.filter (·.1 != tag)
          pure (name, { r with kept := true }, .object (rest.map fun (n, d) => (some n, d)))
        | _ => none
      | .array (.string (some name) :: rest) =>
        some (name, { r with kept := true }, .array rest)
      | _ => none

end Document

namespace Record

/-- The document of a field: `none` if the record has no such cell. -/
def cell? (rec : Record) (name : String) : Option (Option Document) :=
  ((rec.names.zip rec.cells).find? (·.1 == name)).map (·.2)

/-- Reads a field that must be there. -/
def required? (rec : Record) (name : String) (f : Shape α) : Option α :=
  match rec.cell? name with
  | some (some d) => f rec.inner d
  | _ => none

/-- Reads a field whose value may be null, or absent from an object. -/
def optional? (rec : Record) (name : String) (f : Shape α) : Option (Option α) :=
  match rec.cell? name with
  | some (some d) => Document.nullable? f rec.inner d
  | _ => if rec.listed then none else some none

/-- Reads a field with a default for its absence. -/
def orDefault? (rec : Record) (name : String) (f : Shape α) (fallback : α) : Option α :=
  match rec.cell? name with
  | some (some d) => f rec.inner d
  | _ => some fallback

end Record

/-- Reads a whole text. -/
def Shape.parse? (f : Shape α) (s : String) : Option α :=
  (Document.parse? s).bind (f Reading.start)

end AgentDesk
