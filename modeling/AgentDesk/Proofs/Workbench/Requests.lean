import AgentDesk.Proofs.Message.Written
import AgentDesk.Workbench.Edit
import AgentDesk.Workbench.MultiEdit
import AgentDesk.Workbench.Write
/-!
# Requests to the tools that change files

What a tool is asked can be written as JSON, and the tool reads what was written.

## Main definitions

* `Edit.Request.toJson`, `MultiEdit.Request.toJson`, `Write.Request.toJson`.
* `Edit.Request.call`, `MultiEdit.Request.call`, `Write.Request.call` — the calls that ask it.
* `WorkbenchSettings.workplace` — settings under which it may be asked.
-/

namespace AgentDesk

/-- The tools work in a directory; nothing in it is protected. -/
def WorkbenchSettings.workplace : WorkbenchSettings := ⟨Path.ofNames ["w"], none, [], 0⟩

/-- A call of a tool with an object as its input. -/
def Invocation.ofObject (name : String) (members : List (String × Json)) : Invocation :=
  ⟨"", name, (Json.object members).compact⟩

/-- An object that was written is what a tool reads its parameters from. -/
theorem Invocation.parameters?_ofObject {α : Type} {shape : Shape α} {a : α} (name : String)
    {members : List (String × Json)} (hexact : (Json.object members).Exact)
    (hshape : shape Reading.start (Json.object members).document = some a) :
    (ofObject name members).parameters? shape = .ok a := by
  have hblank : Text.isBlankText (Json.object members).compact = false := by
    simp [Text.isBlankText, Json.compact, Json.write, Text.isBlank]
  have hparse : shape.parse? (Json.object members).compact = some a := by
    rw [Shape.parse?, Json.parse?_compact hexact, Option.bind_some, hshape]
  simp [parameters?, ofObject, hblank, hparse]

variable {room : Nat} {kept : Bool}

namespace Edit.Request

/-- A request as the members of an object. -/
def members (q : Edit.Request) : List (String × Json) :=
  [("file_path", .string q.path), ("old_string", .string q.replacement.old),
    ("new_string", .string q.replacement.new), ("replace_all", .bool q.replacement.everywhere)]

/-- The call that asks for an edit. -/
def call (q : Edit.Request) : Invocation := .ofObject Edit.name q.members

theorem shape_members (q : Edit.Request) (room : Nat) :
    Edit.Request.shape ⟨room + 1, kept⟩ (Json.object q.members).document = some q := by
  simp [members, shape, Document.record?_document, Document.cell?, Document.membersNamed,
    Record.orDefault?, Record.cell?]

theorem parameters?_call (q : Edit.Request) : q.call.parameters? Edit.Request.shape = .ok q :=
  Invocation.parameters?_ofObject Edit.name (by simp [members, Json.Exact, Json.ExactMembers])
    (q.shape_members 126)

end Edit.Request

namespace Write.Request

/-- A request as the members of an object. -/
def members (q : Write.Request) : List (String × Json) :=
  [("file_path", .string q.path), ("content", .string q.content)]

/-- The call that asks for a file to be written. -/
def call (q : Write.Request) : Invocation := .ofObject Write.name q.members

theorem shape_members (q : Write.Request) (room : Nat) :
    Write.Request.shape ⟨room + 1, kept⟩ (Json.object q.members).document = some q := by
  simp [members, shape, Document.record?_document, Document.cell?, Document.membersNamed,
    Record.orDefault?, Record.cell?]

theorem parameters?_call (q : Write.Request) : q.call.parameters? Write.Request.shape = .ok q :=
  Invocation.parameters?_ofObject Write.name (by simp [members, Json.Exact, Json.ExactMembers])
    (q.shape_members 126)

end Write.Request

namespace MultiEdit

/-- An edit as JSON. -/
def editToJson (r : Text.Replacement) : Json := .object
  [("old_string", .string r.old), ("new_string", .string r.new),
    ("replace_all", .bool r.everywhere)]

theorem exact_editToJson (r : Text.Replacement) : (editToJson r).Exact := by
  simp [editToJson, Json.Exact, Json.ExactMembers]

theorem editShape_editToJson (r : Text.Replacement) :
    editShape ⟨room + 1, kept⟩ (editToJson r).document = some r := by
  simp [editToJson, editShape, Document.record?_document, Document.cell?, Document.membersNamed,
    Record.orDefault?, Record.cell?]

theorem exactItems_editToJson (edits : List Text.Replacement) :
    Json.ExactItems (edits.map editToJson) := by
  induction edits with
  | nil => trivial
  | cons r edits ih => exact ⟨exact_editToJson r, ih⟩

theorem mapM_editShape (edits : List Text.Replacement) :
    (Json.documents (edits.map editToJson)).mapM (editShape ⟨room + 1, kept⟩) = some edits := by
  induction edits with
  | nil => rfl
  | cons r edits ih => simp [Json.documents, editShape_editToJson, ih]

namespace Request

/-- A request as the members of an object. -/
def members (q : MultiEdit.Request) : List (String × Json) :=
  [("file_path", .string q.path), ("edits", .array (q.edits.map editToJson))]

/-- The call that asks for several edits. -/
def call (q : MultiEdit.Request) : Invocation := .ofObject MultiEdit.name q.members

theorem shape_members (q : MultiEdit.Request) (room : Nat) :
    MultiEdit.Request.shape ⟨room + 3, kept⟩ (Json.object q.members).document = some q := by
  have hedits : Document.list? editShape ⟨room + 2, kept⟩
      (Json.array (q.edits.map editToJson)).document = some q.edits := by
    rw [Json.document, Document.list?]
    exact mapM_editShape q.edits
  simp [members, shape, Document.record?_document, Document.cell?, Document.membersNamed,
    Record.orDefault?, Record.cell?, hedits]

theorem parameters?_call (q : MultiEdit.Request) :
    q.call.parameters? MultiEdit.Request.shape = .ok q :=
  Invocation.parameters?_ofObject MultiEdit.name
    (by simp [members, Json.Exact, Json.ExactMembers, exactItems_editToJson])
    (q.shape_members 124)

end Request

end MultiEdit

end AgentDesk
