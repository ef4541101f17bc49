import AgentDesk.Message.Json
import AgentDesk.Proofs.Json.ReadBack
import AgentDesk.Proofs.Timestamps
/-!
# Reading back the parts of a message

The text that keeps the parts of a message is read back as the same parts.

## Main definitions

* `Part.Timed` — the times that a part names are valid.
-/

namespace AgentDesk

/-- The times that a part names are valid. -/
def Part.Timed : Part → Prop
  | .reasoning r => r.startedAt.isValid ∧ ∀ t ∈ r.finishedAt, t.isValid
  | .finish f => f.time.isValid
  | _ => True

variable {members : List (String × Json)} {room : Nat} {kept : Bool} {r : Reading} {p : Part}

/-! ## Numbers -/

namespace Numeral

theorem accumulate_digitValues (ds : List Char) (start : Nat)
    (h : start * 10 ^ ds.length + digitsValue ds ≤ wordMax) :
    accumulate start (Document.digitValues ds) =
      (start * 10 ^ ds.length + digitsValue ds, []) := by
  induction ds generalizing start with
  | nil => simp [Document.digitValues, accumulate, digitsValue]
  | cons c ds ih =>
    have hstep : start * 10 ^ (c :: ds).length + digitsValue (c :: ds) =
        (start * 10 + (c.toNat - 48)) * 10 ^ ds.length + digitsValue ds := by
      rw [digitsValue_cons, List.length_cons, pow_succ]
      ring
    rw [hstep] at h ⊢
    have hfits : ¬wordMax < start * 10 + (c.toNat - 48) := by
      have := Nat.le_mul_of_pos_right (start * 10 + (c.toNat - 48))
        (show 0 < 10 ^ ds.length by positivity)
      omega
    exact (if_neg hfits).trans (ih _ h)

/-- The digits of a number that fits in 64 bits stand for it. -/
theorem value?_toDigits {n : Nat} (h : n ≤ wordMax) :
    (value? ⟨false, Document.digitValues (Nat.toDigits 10 n), none, none⟩) = some (.int n) := by
  have hvalue := digitsValue_toDigits n
  have haccumulate := accumulate_digitValues (Nat.toDigits 10 n) 0 (by omega)
  simp [value?, haccumulate, hvalue]

end Numeral

/-! ## Fields of an object -/

namespace Document

theorem named?_memberDocuments (members : List (String × Json)) :
    named? (Json.memberDocuments members) = some (members.map fun m => (m.1, m.2.document)) := by
  induction members with
  | nil => rfl
  | cons m ms ih =>
    simp only [named?] at ih
    simp [named?, Json.memberDocuments, ih]

/-- The fields of a record are looked up among the members of an object. -/
theorem record?_document (names : List String) (members : List (String × Json)) :
    (Json.object members).document.record? names ⟨room + 1, kept⟩ =
      (names.mapM (cell? (members.map fun m => (m.1, m.2.document)))).map
        fun cells => ⟨names, cells, false, ⟨room, kept⟩⟩ := by
  rw [Json.document, record?]
  simp only [Reading.enter?, named?_memberDocuments, Option.bind_eq_bind, Option.bind_some]
  cases names.mapM (cell? (members.map fun m => (m.1, m.2.document))) <;> rfl

theorem memberValues?_isSome (h : ∀ m ∈ members, (m.2.document.value? room).isSome) :
    (memberValues? room (Json.memberDocuments members)).isSome := by
  induction members with
  | nil => rfl
  | cons m ms ih =>
    obtain ⟨v, hv⟩ := Option.isSome_iff_exists.mp (h m List.mem_cons_self)
    have hms := ih fun m hm => h m (List.mem_cons_of_mem _ hm)
    simp [Json.memberDocuments, memberValues?, hv, hms]

theorem values?_isSome {items : List Json} (h : ∀ v ∈ items, (v.document.value? room).isSome) :
    (values? room (Json.documents items)).isSome := by
  induction items with
  | nil => rfl
  | cons v vs ih =>
    obtain ⟨value, hvalue⟩ := Option.isSome_iff_exists.mp (h v List.mem_cons_self)
    have hvs := ih fun v hv => h v (List.mem_cons_of_mem _ hv)
    simp [Json.documents, values?, hvalue, hvs]

/-- The case of a choice is named by the member with the tag, and its fields are the others. -/
theorem tagged?_document {tag : String} (kind : String) (kept : Bool)
    (hvalues : ∀ m ∈ members, (m.2.document.value? room).isSome)
    (hnames : ∀ m ∈ members, m.1 ≠ tag) :
    (Json.object ((tag, .string kind) :: members)).document.tagged? tag ⟨room + 1, kept⟩ =
      some (kind, ⟨room + 1, true⟩, (Json.object members).document) := by
  have hwhole : (memberValues? room
      (Json.memberDocuments ((tag, .string kind) :: members))).isSome :=
    memberValues?_isSome (List.forall_mem_cons.mpr ⟨rfl, hvalues⟩)
  obtain ⟨values, hwhole⟩ := Option.isSome_iff_exists.mp hwhole
  have hcells : ∀ c ∈ members.map fun m => (m.1, m.2.document), c.1 ≠ tag := by
    intro c hc
    obtain ⟨m, hm, rfl⟩ := List.mem_map.mp hc
    exact hnames m hm
  have htag : (members.map fun m => (m.1, m.2.document)).filter (·.1 == tag) = [] :=
    List.filter_eq_nil_iff.mpr fun c hc => by simpa using hcells c hc
  have hothers : (members.map fun m => (m.1, m.2.document)).filter (·.1 != tag) =
      members.map fun m => (m.1, m.2.document) :=
    List.filter_eq_self.mpr fun c hc => by simpa using hcells c hc
  have hback : (members.map fun m => (m.1, m.2.document)).map (fun m => (some m.1, m.2)) =
      Json.memberDocuments members := by
    clear * -
    induction members with
    | nil => rfl
    | cons m ms ih => simpa [Json.memberDocuments] using ih
  rw [Json.document, tagged?, value?, hwhole]
  simp only [Option.map_some, named?_memberDocuments, Option.bind_eq_bind, Option.bind_some,
    membersNamed, List.map_cons, List.filter_cons, beq_self_eq_true, if_true, htag]
  simp [Json.document, hothers, hback]

/-! ## Reading single values -/

@[simp] theorem text?_string (s : String) : text? r (.string (some s)) = some s := rfl

@[simp] theorem truth?_bool (b : Bool) : truth? r (.bool b) = some b := rfl

@[simp] theorem nullable?_string (f : Shape α) (s : Option String) :
    nullable? f r (.string s) = (f r (.string s)).map some := rfl

end Document

@[simp] theorem Json.document_string (s : String) :
    (Json.string s).document = .string (some s) := by rw [Json.document]

@[simp] theorem Json.document_bool (b : Bool) : (Json.bool b).document = .bool b := by
  rw [Json.document]

@[simp] theorem Timestamp.document_toJson (t : Timestamp) :
    t.toJson.document = .string (some t.write) := by
  rw [toJson, Json.document_string]

theorem Timestamp.shape_write {t : Timestamp} (h : t.isValid) :
    Timestamp.shape r (.string (some t.write)) = some t := by
  rw [Timestamp.shape, Document.text?_string, Option.bind_some, Timestamp.parse?_write h]

theorem FinishReason.shape_name (reason : FinishReason) :
    FinishReason.shape r (.string (some reason.name)) = some reason := by
  cases reason <;> rfl

theorem Json.document_nat (n : Nat) : (Json.nat n).document =
    .number ⟨false, Document.digitValues (Nat.toDigits 10 n), none, none⟩ := by
  simp [nat, document]

theorem toNat_le_wordMax (b : UInt8) : b.toNat ≤ Numeral.wordMax :=
  (Nat.le_of_lt_succ b.toNat_lt).trans (by decide)

theorem byteShape_nat (b : UInt8) : byteShape r (Json.nat b.toNat).document = some b := by
  have hb : b.toNat ≤ 255 := Nat.le_of_lt_succ b.toNat_lt
  rw [byteShape, Json.document_nat, Document.natUpTo?,
    Numeral.value?_toDigits (toNat_le_wordMax b)]
  simp [hb]

theorem value?_byte (b : UInt8) : ((Json.nat b.toNat).document.value? room).isSome := by
  rw [Json.document_nat, Document.value?, Numeral.value?_toDigits (toNat_le_wordMax b)]
  rfl

theorem list?_bytes (bytes : List UInt8) (room : Nat) (kept : Bool) :
    Document.list? byteShape ⟨room + 1, kept⟩
      (Json.array (bytes.map fun b => .nat b.toNat)).document = some bytes := by
  rw [Json.document, Document.list?]
  simp only [Reading.enter?, Option.bind_some]
  induction bytes with
  | nil => rfl
  | cons b bs ih => simp [Json.documents, byteShape_nat, ih]

/-! ## Parts -/

namespace Part

theorem exact_bytes (bytes : List UInt8) :
    Json.ExactItems (bytes.map fun b => .nat b.toNat) := by
  induction bytes with
  | nil => trivial
  | cons b bs ih => exact ⟨trivial, ih⟩

theorem exact_toJson (p : Part) : p.toJson.Exact := by
  cases p with
  | text t => simp [toJson, members, Json.Exact, Json.ExactMembers]
  | reasoning r =>
    cases h : r.finishedAt <;>
      simp [toJson, members, Json.Exact, Json.ExactMembers, Json.given, h, Timestamp.toJson]
  | toolCall c => simp [toJson, members, ToolCall.members, Json.Exact, Json.ExactMembers]
  | toolResult r =>
    cases h : r.metadata <;>
      simp [toJson, members, Json.Exact, Json.ExactMembers, Json.given, h]
  | binary b => simp [toJson, members, Json.Exact, Json.ExactMembers, exact_bytes]
  | finish f => simp [toJson, members, Json.Exact, Json.ExactMembers, Timestamp.toJson]

/-- The members of a part are well-formed. -/
theorem value?_members (p : Part) (room : Nat) :
    ∀ m ∈ p.members, (m.2.document.value? (room + 1)).isSome := by
  cases p with
  | text t => simp [members, Document.value?]
  | reasoning r =>
    cases h : r.finishedAt <;>
      simp [members, Json.given, h, Document.value?]
  | toolCall c => simp [members, ToolCall.members, Document.value?]
  | toolResult r =>
    cases h : r.metadata <;> simp [members, Json.given, h, Document.value?]
  | binary b =>
    have hbytes : ∀ v ∈ b.data.map fun x => Json.nat x.toNat, (v.document.value? room).isSome := by
      intro v hv
      obtain ⟨x, -, rfl⟩ := List.mem_map.mp hv
      exact value?_byte x
    have hdata := Document.values?_isSome hbytes
    simp [members, Json.document, Document.value?, hdata]
  | finish f => simp [members, Document.value?]

/-- No member that follows the type has its name. -/
theorem type_notMem_members (p : Part) : ∀ m ∈ p.members, m.1 ≠ "type" := by
  cases p with
  | text t => simp [members]
  | reasoning r => cases h : r.finishedAt <;> simp [members, Json.given, h]
  | toolCall c => simp [members, ToolCall.members]
  | toolResult r => cases h : r.metadata <;> simp [members, Json.given, h]
  | binary b => simp [members]
  | finish f => simp [members]

/-- **A part that is written is read back.** -/
theorem shape_toJson (h : p.Timed) (room : Nat) (kept : Bool) :
    Part.shape ⟨room + 2, kept⟩ p.toJson.document = some p := by
  have htagged := Document.tagged?_document p.kind kept (value?_members p room)
    (type_notMem_members p)
  rw [Part.shape, toJson, htagged]
  simp only [Option.bind_eq_bind, Option.bind_some]
  cases p with
  | text t =>
    simp [kind, members, Part.textShape, Document.record?_document, Document.cell?,
      Document.membersNamed, Record.required?, Record.cell?]
  | reasoning r =>
    obtain ⟨thinking, signature, startedAt, finishedAt⟩ := r
    obtain ⟨hstarted, hfinished⟩ := h
    cases finishedAt with
    | none =>
      simp [kind, members, Json.given, Reasoning.shape, Document.record?_document, Document.cell?,
        Document.membersNamed, Record.required?, Record.orDefault?, Record.cell?,
        Timestamp.shape_write hstarted]
    | some t =>
      simp [kind, members, Json.given, Reasoning.shape, Document.record?_document, Document.cell?,
        Document.membersNamed, Record.required?, Record.orDefault?, Record.cell?,
        Timestamp.shape_write hstarted, Timestamp.shape_write (hfinished t rfl)]
  | toolCall c =>
    simp [kind, members, ToolCall.members, ToolCall.shape, Document.record?_document,
      Document.cell?, Document.membersNamed, Record.required?, Record.orDefault?, Record.cell?]
  | toolResult r =>
    obtain ⟨callId, name, content, metadata, isError⟩ := r
    cases metadata <;>
      simp [kind, members, Json.given, ToolResult.shape, Document.record?_document, Document.cell?,
        Document.membersNamed, Record.required?, Record.orDefault?, Record.cell?]
  | binary b =>
    simp [kind, members, Binary.shape, Document.record?_document, Document.cell?,
      Document.membersNamed, Record.required?, Record.cell?, list?_bytes]
  | finish f =>
    simp [kind, members, Finish.shape, Document.record?_document, Document.cell?,
      Document.membersNamed, Record.required?, Record.orDefault?, Record.cell?,
      Timestamp.shape_write h, FinishReason.shape_name]

end Part

/-! ## Lists of parts -/

theorem exact_partsToJson (parts : List Part) : (partsToJson parts).Exact := by
  rw [partsToJson, Json.Exact]
  induction parts with
  | nil => trivial
  | cons p ps ih => exact ⟨p.exact_toJson, ih⟩

/-- Parts that are written are read back, wherever the list of them stands. -/
theorem list?_partsToJson {parts : List Part} (h : ∀ p ∈ parts, p.Timed) (room : Nat)
    (kept : Bool) :
    Document.list? Part.shape ⟨room + 3, kept⟩ (partsToJson parts).document = some parts := by
  rw [partsToJson, Json.document, Document.list?]
  simp only [Reading.enter?, Option.bind_some]
  induction parts with
  | nil => rfl
  | cons p ps ih =>
    have hp := Part.shape_toJson (h p List.mem_cons_self) room kept
    have hps := ih fun p hp => h p (List.mem_cons_of_mem _ hp)
    simp [Json.documents, hp, hps]

/-- **The text that keeps the parts of a message is read back as the same parts.** -/
theorem parse?_partsToJson {parts : List Part} (h : ∀ p ∈ parts, p.Timed) :
    Shape.parse? (Document.list? Part.shape) (partsToJson parts).compact = some parts := by
  rw [Shape.parse?, Json.parse?_compact (exact_partsToJson parts), Option.bind_some]
  exact list?_partsToJson h 124 false

end AgentDesk
