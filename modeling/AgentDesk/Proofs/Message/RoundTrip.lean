import AgentDesk.Proofs.Message.Written
import AgentDesk.Store.Database
/-!
# Reading back whole messages

A message that is written as JSON, or kept in a row of a database, is read back as the same message,
whatever its parts are and whatever stands in its texts. All that is asked of it is that its times
are times.

## Main definitions

* `Message.Timed` — the times that a message names are valid.
-/

namespace AgentDesk

/-- The times that a message names are valid. -/
structure Message.Timed (m : Message) : Prop where
  created : m.createdAt.isValid
  updated : m.updatedAt.isValid
  parts : ∀ p ∈ m.parts, p.Timed

theorem Role.ofName?_name (role : Role) : Role.ofName? role.name = some role := by
  cases role <;> rfl

theorem Role.shape_name (role : Role) (r : Reading) :
    Role.shape r (.string (some role.name)) = some role := by
  rw [Role.shape, Document.caseName?, Option.bind_some, Role.ofName?_name]

namespace Message

variable {m : Message}

theorem exact_toJson (m : Message) : m.toJson.Exact := by
  cases hmodel : m.model <;> cases hprovider : m.provider <;>
    simp [toJson, Json.Exact, Json.ExactMembers, Json.given, hmodel, hprovider,
      exact_partsToJson, Timestamp.toJson]

/-- A message that is written is read back, as long as there is room for its parts. -/
theorem shape_toJson (h : m.Timed) (room : Nat) (kept : Bool) :
    Message.shape ⟨room + 4, kept⟩ m.toJson.document = some m := by
  obtain ⟨id, sessionId, role, parts, model, provider, createdAt, updatedAt⟩ := m
  obtain ⟨hcreated, hupdated, hparts⟩ := h
  have hlist := list?_partsToJson hparts room kept
  -- Which of the optional labels are there decides which members are written.
  cases model <;> cases provider <;>
    simp [shape, toJson, Json.given, Document.record?_document, Document.cell?,
      Document.membersNamed, Record.required?, Record.orDefault?, Record.cell?, hlist,
      Role.shape_name, Timestamp.shape_write hcreated, Timestamp.shape_write hupdated]

/-- A message that is kept in a row is found there again. -/
theorem toMessage?_ofMessage (h : m.Timed) (now : Timestamp) :
    (MessageRow.ofMessage m).toMessage? now = .ok m := by
  have hparts : (MessageRow.ofMessage m).parts? = some m.parts := parse?_partsToJson h.parts
  have hcreated : keptTime now m.createdAt.writeSortable = m.createdAt := by
    rw [keptTime, Timestamp.parse?_writeSortable h.created, Option.getD_some]
  have hupdated : keptTime now m.updatedAt.writeSortable = m.updatedAt := by
    rw [keptTime, Timestamp.parse?_writeSortable h.updated, Option.getD_some]
  rw [MessageRow.toMessage?, hparts]
  simp [MessageRow.ofMessage, Role.ofName?_name, hcreated, hupdated]

/-- **Messages are read back.** Every message is what is read from the JSON text that is written for
it, and what is read from the row that a database keeps of it; in particular its parts are those
that were written into the row. -/
theorem read_back (h : m.Timed) (now : Timestamp) :
    Shape.parse? Message.shape m.toJson.compact = some m ∧
      (MessageRow.ofMessage m).toMessage? now = .ok m := by
  refine ⟨?_, toMessage?_ofMessage h now⟩
  rw [Shape.parse?, Json.parse?_compact m.exact_toJson, Option.bind_some]
  exact shape_toJson h 123 false

/-- A message with a part of every kind, with quotes, control characters and characters of every
width in its texts, the extreme bytes, a leap second, and the last nanosecond of the year 9999. -/
def sixParts : Message where
  id := "m\u0000"
  sessionId := "\"s\\\n\t\r\u0008\u000c\u001f\u007f"
  role := .assistant
  parts := [
    .finish ⟨.permissionDenied, "é", "", ⟨9999, 12, 31, 23, 59, 59, 999999999⟩⟩,
    .binary ⟨"/p", "image/png", [0, 255, 34]⟩,
    .reasoning ⟨"\u2028", "", ⟨0, 1, 1, 0, 0, 0, 0⟩, some ⟨2016, 12, 31, 23, 59, 60, 500000000⟩⟩,
    .toolResult ⟨"c", "", "😀", some "\x7b\x7d", true⟩,
    .toolCall ⟨"c", "type", "\x7b\"type\":\"text\"\x7d", false⟩,
    .text "\uffff", .text ""]
  model := some ""
  provider := none
  createdAt := ⟨2024, 2, 29, 0, 0, 0, 1000⟩
  updatedAt := ⟨2024, 2, 29, 0, 0, 0, 1000000⟩

theorem timed_sixParts : sixParts.Timed := by
  refine ⟨rfl, rfl, fun p hp => ?_⟩
  simp only [sixParts, List.mem_cons, List.not_mem_nil, or_false] at hp
  rcases hp with rfl | rfl | rfl | rfl | rfl | rfl | rfl
  · exact rfl
  · trivial
  · exact ⟨rfl, fun t ht => Option.mem_some.mp ht ▸ rfl⟩
  all_goals trivial

theorem read_back_sixParts : Shape.parse? Message.shape sixParts.toJson.compact = some sixParts ∧
    (MessageRow.ofMessage sixParts).toMessage? sixParts.updatedAt = .ok sixParts :=
  read_back timed_sixParts sixParts.updatedAt

end Message

end AgentDesk
