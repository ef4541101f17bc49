import AgentDesk.Json.Document
import AgentDesk.Proofs.Digits
/-!
# Reading back the text of a value

The compact text of a value without floating-point numbers is read as one document, which holds the
strings and the integers of the value and has its shape.

## Main definitions

* `Json.document` — the document that the text of a value stands for.
* `Json.Exact` — a value without floating-point numbers.
* `Json.effort` — the fuel that reading the text takes.
-/

namespace AgentDesk

namespace Document

/-! ## Strings -/

variable {c : Char} {s found rest : List Char} {fuel n : Nat} {sound : Bool}

theorem hex?_hexDigit (h : n < 16) : hex? (Json.hexDigit n) = some n := by
  have hall : ∀ n < 16, hex? (Json.hexDigit n) = some n := by decide
  exact hall n h

/-- An escape for a control character is read back. -/
theorem hexFour?_control (h : n < 32) :
    hexFour? ('0' :: '0' :: Json.hexDigit (n / 16) :: Json.hexDigit (n % 16) :: rest) =
      some (n, rest) := by
  have hzero : hex? '0' = some 0 := by decide
  simp only [hexFour?, hzero, hex?_hexDigit (show n / 16 < 16 by omega),
    hex?_hexDigit (show n % 16 < 16 by omega), Option.bind_eq_bind, Option.bind_some,
    Option.pure_def, Option.some.injEq, Prod.mk.injEq, and_true]
  omega

/-- A written character is read back. -/
theorem stringBody_escapeChar (c : Char) (fuel : Nat) (found : List Char) (sound : Bool)
    (rest : List Char) : stringBody (fuel + 1) found sound (Json.escapeChar c ++ rest) =
      stringBody fuel (c :: found) sound rest := by
  unfold Json.escapeChar
  split
  · rfl
  · rfl
  · rfl
  · rfl
  · rfl
  · rename_i hquote hslash _ _ _
    split
    · rename_i hc
      have hback : Char.ofNat 8 = c := by
        rw [← eq_of_beq hc, Char.ofNat_toNat]
      subst hback
      rfl
    split
    · rename_i hc
      have hback : Char.ofNat 12 = c := by
        rw [← eq_of_beq hc, Char.ofNat_toNat]
      subst hback
      rfl
    split
    · rename_i hlow
      have hhigh : isHigh c.toNat = false := by simp [isHigh]; omega
      have hlow' : isLow c.toNat = false := by simp [isLow]; omega
      simp only [List.cons_append, List.nil_append, stringBody, hexFour?_control hlow, hhigh, hlow',
        Bool.false_eq_true, if_false, Char.ofNat_toNat]
    · rename_i hplain
      have hslash' : (c == '\\') = false := by simpa using hslash
      rw [List.cons_append, List.nil_append, stringBody]
      · simp [hslash', hplain]
      · exact hquote
      · exact fun _ hc => absurd hc hslash
      · exact fun _ _ hc => absurd hc hslash

theorem length_foldr_escapeChar (s rest : List Char) :
    s.length + rest.length ≤ (s.foldr (fun c r => Json.escapeChar c ++ r) rest).length := by
  have hchar : ∀ c, 1 ≤ (Json.escapeChar c).length := by
    intro c
    unfold Json.escapeChar
    repeat' split
    all_goals simp
  induction s with
  | nil => simp
  | cons c s ih =>
    have := hchar c
    simp only [List.foldr_cons, List.length_append, List.length_cons]
    omega

theorem stringBody_foldr (hfuel : s.length < fuel) :
    stringBody fuel found true (s.foldr (fun c r => Json.escapeChar c ++ r) ('"' :: rest)) =
      some (some (String.ofList (found.reverse ++ s)), rest) := by
  induction s generalizing fuel found with
  | nil =>
    obtain _ | fuel := fuel
    · simp at hfuel
    · simp [stringBody]
  | cons c s ih =>
    obtain _ | fuel := fuel
    · simp at hfuel
    · rw [List.foldr_cons, stringBody_escapeChar, ih (by simpa using hfuel)]
      simp

/-- **A string that is written is read back.** -/
theorem string?_writeString (s : String) (rest : List Char) :
    ∃ text, Json.writeString s.toList rest = '"' :: text ∧ string? text = some (some s, rest) := by
  refine ⟨_, rfl, ?_⟩
  have hlen := length_foldr_escapeChar s.toList ('"' :: rest)
  rw [string?, stringBody_foldr (by simp only [List.length_cons] at hlen; omega)]
  simp

/-! ## Numbers -/

/-- The values of a run of digits. -/
def digitValues (ds : List Char) : List Nat := ds.map (·.toNat - 48)

/-- What may follow a value: nothing, or the mark behind an item or a member. -/
def Ends (rest : List Char) : Prop := ∀ c cs, rest = c :: cs → c = ',' ∨ c = ']' ∨ c = '}'

theorem ends_nil : Ends [] := fun _ _ h => by cases h

theorem ends_cons (h : c = ',' ∨ c = ']' ∨ c = '}') : Ends (c :: rest) := by
  rintro _ _ ⟨⟩
  exact h

theorem digits_append {ds : List Char} (hd : Digits ds) (hrest : Ends rest) :
    digits (ds ++ rest) = (digitValues ds, rest) := by
  have hstop : rest.takeWhile Char.isDigit = [] ∧ rest.dropWhile Char.isDigit = rest := by
    cases rest with
    | nil => exact ⟨rfl, rfl⟩
    | cons c cs =>
      rcases hrest c cs rfl with rfl | rfl | rfl <;> exact ⟨rfl, rfl⟩
  rw [digits, List.takeWhile_append_of_pos hd, List.dropWhile_append_of_pos hd, hstop.1, hstop.2,
    List.append_nil, digitValues]

/-- A number of more than one digit does not begin with a zero. -/
theorem head_toDigits {c : Char} {cs : List Char} (h : Nat.toDigits 10 n = c :: cs)
    (hne : cs ≠ []) : c ≠ '0' := by
  rintro rfl
  have hds := digits_toDigits n
  have hvalue := digitsValue_toDigits n
  rw [h] at hds hvalue
  rw [digitsValue_cons] at hvalue
  have hlt := digitsValue_lt (digits_cons.mp hds).2
  have hlen := (Nat.length_toDigits_le_iff (b := 10) (n := n) (by decide)
    (List.length_pos_of_ne_nil hne)).mpr (by simpa [← hvalue] using hlt)
  simp [h] at hlen

/-- **A natural number that is written is read back.** -/
theorem numeral?_toDigits (negative : Bool) (n : Nat) (hrest : Ends rest) :
    numeral? negative (Nat.toDigits 10 n ++ rest) =
      some (⟨negative, digitValues (Nat.toDigits 10 n), none, none⟩, rest) := by
  have htail : ∀ whole, numeralTail? negative whole rest =
      some (⟨negative, whole, none, none⟩, rest) := by
    intro whole
    cases rest with
    | nil => rfl
    | cons c cs =>
      rcases hrest c cs rfl with rfl | rfl | rfl <;> rfl
  rw [numeral?, digits_append (digits_toDigits n) hrest]
  cases hds : Nat.toDigits 10 n with
  | nil => exact absurd hds (by simp)
  | cons c cs =>
    cases cs with
    | nil => simp [digitValues, htail]
    | cons c' cs =>
      have hc := head_toDigits hds (by simp)
      have hdigit := isDigit_iff.mp (digits_toDigits n c (hds ▸ List.mem_cons_self))
      have hvalue : c.toNat - 48 ≠ 0 := by
        intro h
        have h48 : c.toNat = '0'.toNat := by
          have : '0'.toNat = 48 := rfl
          omega
        exact hc (Char.toNat_inj.mp h48)
      simp only [digitValues, List.map_cons]
      cases hv : c.toNat - 48 with
      | zero => exact absurd hv hvalue
      | succ v => exact htail _

end Document

namespace Json

/-! ## Values -/

mutual

/-- The document that the text of a value stands for. -/
def document : Json → Document
  | .null | .float _ => .null
  | .bool b => .bool b
  | .int i => .number ⟨i < 0, Document.digitValues (Nat.toDigits 10 i.natAbs), none, none⟩
  | .string s => .string (some s)
  | .array items => .array (documents items)
  | .object members => .object (memberDocuments members)

/-- The documents of the items. -/
def documents : List Json → List Document
  | [] => []
  | v :: vs => document v :: documents vs

/-- The documents of the members. -/
def memberDocuments : List (String × Json) → List (Option String × Document)
  | [] => []
  | (name, v) :: ms => (some name, document v) :: memberDocuments ms

end

mutual

/-- A value without floating-point numbers. -/
def Exact : Json → Prop
  | .float _ => False
  | .array items => ExactItems items
  | .object members => ExactMembers members
  | _ => True

/-- Items without floating-point numbers. -/
def ExactItems : List Json → Prop
  | [] => True
  | v :: vs => Exact v ∧ ExactItems vs

/-- Members without floating-point numbers. -/
def ExactMembers : List (String × Json) → Prop
  | [] => True
  | (_, v) :: ms => Exact v ∧ ExactMembers ms

end

mutual

/-- The fuel that reading the text of a value takes. -/
def effort : Json → Nat
  | .array items => 1 + effortItems items
  | .object members => 1 + effortMembers members
  | _ => 1

/-- The fuel that reading the items takes. -/
def effortItems : List Json → Nat
  | [] => 0
  | v :: vs => 1 + effort v + effortItems vs

/-- The fuel that reading the members takes. -/
def effortMembers : List (String × Json) → Nat
  | [] => 0
  | (_, v) :: ms => 1 + effort v + effortMembers ms

end

variable {rest : List Char} {fuel : Nat} {v : Json}

theorem toList_toString_int (i : Int) : (toString i).toList =
    if i < 0 then '-' :: Nat.toDigits 10 i.natAbs else Nat.toDigits 10 i.natAbs := by
  cases i with
  | ofNat n => simp [toString, Int.repr]
  | negSucc n => simp [toString, Int.repr]

theorem exists_digit (n : Nat) : ∃ c cs, Nat.toDigits 10 n = c :: cs ∧ c.isDigit := by
  obtain ⟨c, cs, h⟩ := List.exists_cons_of_ne_nil (show Nat.toDigits 10 n ≠ [] by simp)
  exact ⟨c, cs, h, digits_toDigits n c (h ▸ List.mem_cons_self)⟩

theorem isSpace_of_isDigit {c : Char} (h : c.isDigit) : Document.isSpace c = false := by
  by_contra hspace
  simp only [Document.isSpace, Bool.not_eq_false, Bool.or_eq_true, beq_iff_eq] at hspace
  rcases hspace with ((rfl | rfl) | rfl) | rfl <;> exact absurd h (by decide)

/-- The text of a value does not begin with a blank or a closing bracket. -/
theorem write_head (h : v.Exact) (rest : List Char) : ∃ c cs, v.write rest = c :: cs ∧
    Document.isSpace c = false ∧ c ≠ ']' := by
  cases v with
  | null => exact ⟨_, _, rfl, by decide, by decide⟩
  | bool b => cases b <;> exact ⟨_, _, rfl, by decide, by decide⟩
  | float x => exact h.elim
  | string s => exact ⟨_, _, by rw [write, writeString], by decide, by decide⟩
  | array items => exact ⟨_, _, by rw [write], by decide, by decide⟩
  | object members => exact ⟨_, _, by rw [write], by decide, by decide⟩
  | int i =>
    rw [write, toList_toString_int]
    split
    · exact ⟨_, _, rfl, by decide, by decide⟩
    · obtain ⟨c, cs, hds, hc⟩ := exists_digit i.natAbs
      refine ⟨c, cs ++ rest, by rw [hds, List.cons_append], isSpace_of_isDigit hc, ?_⟩
      rintro rfl
      exact absurd hc (by decide)

theorem skip_cons {c : Char} {cs : List Char} (h : Document.isSpace c = false) :
    Document.skip (c :: cs) = c :: cs := by
  simp [Document.skip, h]

/-! ### What the first character says -/

theorem element?_quote (text : List Char) : Document.element? (fuel + 1) ('"' :: text) =
    (Document.string? text).map fun (s, r) => (.string s, r) := rfl

theorem element?_minus (text : List Char) : Document.element? (fuel + 1) ('-' :: text) =
    (Document.numeral? true text).map fun (n, r) => (.number n, r) := rfl

theorem element?_bracket {text : List Char} {c : Char} {cs : List Char}
    (hskip : Document.skip text = c :: cs) (hc : c ≠ ']') :
    Document.element? (fuel + 1) ('[' :: text) = Document.items? fuel (c :: cs) [] := by
  rw [Document.element?, skip_cons (by decide)]
  simp only [hskip]
  split
  · rename_i heq
    exact absurd (List.cons.inj heq).1 hc
  · rfl

theorem element?_brace (text : List Char) : Document.element? (fuel + 1) ('{' :: '"' :: text) =
    Document.members? fuel ('"' :: text) [] := rfl

theorem element?_digit {c : Char} {cs : List Char} (hc : c.isDigit) :
    Document.element? (fuel + 1) (c :: cs) =
      (Document.numeral? false (c :: cs)).map fun (n, r) => (.number n, r) := by
  rw [Document.element?, skip_cons (isSpace_of_isDigit hc)]
  -- A digit begins nothing but a number.
  split
  case h_8 => rfl
  all_goals
    rename_i heq
    rw [(List.cons.inj heq).1] at hc
    exact absurd hc (by decide)

/-- **An integer that is written is read back.** -/
theorem element?_int (i : Int) (fuel : Nat) (hrest : Document.Ends rest) :
    Document.element? (fuel + 1) ((Json.int i).write rest) =
      some ((Json.int i).document, rest) := by
  rw [write, toList_toString_int]
  split
  · rename_i hneg
    rw [List.cons_append, element?_minus, Document.numeral?_toDigits true i.natAbs hrest]
    simp [document, hneg]
  · rename_i hpos
    have hnumeral := Document.numeral?_toDigits false i.natAbs hrest
    obtain ⟨c, cs, hds, hc⟩ := exists_digit i.natAbs
    rw [hds, List.cons_append] at hnumeral ⊢
    rw [element?_digit hc, hnumeral]
    simp [document, hpos, hds]

theorem writeItems_false (v : Json) (vs : List Json) (rest : List Char) :
    writeItems false (v :: vs) rest = ',' :: writeItems true (v :: vs) rest := rfl

theorem writeMembers_false (m : String × Json) (ms : List (String × Json)) (rest : List Char) :
    writeMembers false (m :: ms) rest = ',' :: writeMembers true (m :: ms) rest := rfl

mutual

/-- **A value that is written is read back as its document.** -/
theorem element?_write (v : Json) (fuel : Nat) (rest : List Char) (hv : v.Exact)
    (hfuel : v.effort ≤ fuel) (hrest : Document.Ends rest) :
    Document.element? fuel (v.write rest) = some (v.document, rest) := by
  obtain _ | fuel := fuel
  · cases v <;> simp [effort] at hfuel
  cases v with
  | null => rfl
  | bool b => cases b <;> rfl
  | int i => exact element?_int i fuel hrest
  | float x => exact hv.elim
  | string s =>
    obtain ⟨text, hwrite, hread⟩ := Document.string?_writeString s rest
    rw [write, hwrite, element?_quote, hread]
    rfl
  | array items =>
    cases items with
    | nil => rfl
    | cons v vs =>
      have heffort : effortItems (v :: vs) ≤ fuel := by
        rw [effort] at hfuel
        omega
      have hitems := items?_writeItems (v :: vs) fuel rest [] (by simp) hv heffort
      obtain ⟨c, cs, htext, hspace, hc⟩ := write_head hv.1 (writeItems false vs (']' :: rest))
      have hopen : writeItems true (v :: vs) (']' :: rest) = c :: cs := htext
      rw [hopen] at hitems
      rw [write, hopen, element?_bracket (skip_cons hspace) hc, hitems]
      rfl
  | object members =>
    cases members with
    | nil => rfl
    | cons m ms =>
      have heffort : effortMembers (m :: ms) ≤ fuel := by
        rw [effort] at hfuel
        omega
      have hmembers := members?_writeMembers (m :: ms) fuel rest [] (by simp) hv heffort
      rw [write, writeMembers, if_pos rfl, writeString, element?_brace]
      rw [writeMembers, if_pos rfl, writeString] at hmembers
      rw [hmembers]
      rfl

/-- Items that are written are read up to the end of their array. -/
theorem items?_writeItems (items : List Json) (fuel : Nat) (rest : List Char)
    (found : List Document) (hne : items ≠ []) (hexact : ExactItems items)
    (hfuel : effortItems items ≤ fuel) :
    Document.items? fuel (writeItems true items (']' :: rest)) found =
      some (.array (found.reverse ++ documents items), rest) := by
  cases items with
  | nil => exact absurd rfl hne
  | cons v vs =>
    rw [effortItems] at hfuel
    obtain _ | fuel := fuel
    · omega
    rw [writeItems, if_pos rfl, Document.items?]
    cases vs with
    | nil =>
      have hv := element?_write v fuel (']' :: rest) hexact.1 (by omega)
        (Document.ends_cons (by simp))
      simp [writeItems, hv, Document.skip, Document.isSpace, documents]
    | cons w ws =>
      have hv := element?_write v fuel (',' :: writeItems true (w :: ws) (']' :: rest)) hexact.1
        (by omega) (Document.ends_cons (by simp))
      have hws := items?_writeItems (w :: ws) fuel rest (v.document :: found) (by simp) hexact.2
        (by omega)
      rw [writeItems_false, hv]
      simp [Document.skip, Document.isSpace, documents, hws]

/-- Members that are written are read up to the end of their object. -/
theorem members?_writeMembers (members : List (String × Json)) (fuel : Nat) (rest : List Char)
    (found : List (Option String × Document)) (hne : members ≠ []) (hexact : ExactMembers members)
    (hfuel : effortMembers members ≤ fuel) :
    Document.members? fuel (writeMembers true members ('}' :: rest)) found =
      some (.object (found.reverse ++ memberDocuments members), rest) := by
  cases members with
  | nil => exact absurd rfl hne
  | cons m ms =>
    obtain ⟨name, v⟩ := m
    rw [effortMembers] at hfuel
    obtain _ | fuel := fuel
    · omega
    obtain ⟨text, hwrite, hread⟩ := Document.string?_writeString name
      (':' :: v.write (writeMembers false ms ('}' :: rest)))
    rw [writeMembers, if_pos rfl, hwrite, Document.members?, skip_cons (by decide)]
    cases ms with
    | nil =>
      have hv := element?_write v fuel ('}' :: rest) hexact.1 (by omega)
        (Document.ends_cons (by simp))
      simp [hread, writeMembers, hv, Document.skip, Document.isSpace, memberDocuments]
    | cons m ms =>
      have hv := element?_write v fuel (',' :: writeMembers true (m :: ms) ('}' :: rest)) hexact.1
        (by omega) (Document.ends_cons (by simp))
      have hms := members?_writeMembers (m :: ms) fuel rest ((some name, v.document) :: found)
        (by simp) hexact.2 (by omega)
      rw [writeMembers_false] at hread
      simp [hread, hv, Document.skip, Document.isSpace, memberDocuments, hms]

end

/-! ## Whole texts -/

mutual

theorem effort_write (v : Json) (hv : v.Exact) (rest : List Char) :
    v.effort + 1 + 2 * rest.length ≤ 2 * (v.write rest).length := by
  cases v with
  | float x => exact hv.elim
  | null => simp [effort, write]; omega
  | bool b => cases b <;> simp [effort, write] <;> omega
  | int i =>
    obtain ⟨c, cs, hds, -⟩ := exists_digit i.natAbs
    simp only [effort, write, toList_toString_int]
    split <;> simp [hds] <;> omega
  | string s =>
    have hlen := Document.length_foldr_escapeChar s.toList ('"' :: rest)
    simp only [effort, write, writeString, List.length_cons] at hlen ⊢
    omega
  | array items =>
    have hitems := effort_writeItems items hv true (']' :: rest)
    simp only [effort, write, List.length_cons] at hitems ⊢
    omega
  | object members =>
    have hmembers := effort_writeMembers members hv true ('}' :: rest)
    simp only [effort, write, List.length_cons] at hmembers ⊢
    omega

theorem effort_writeItems (vs : List Json) (hvs : ExactItems vs) (first : Bool)
    (rest : List Char) :
    effortItems vs + 2 * rest.length ≤ 2 * (writeItems first vs rest).length := by
  cases vs with
  | nil => simp [effortItems, writeItems]
  | cons v vs =>
    have hv := effort_write v hvs.1 (writeItems false vs rest)
    have hrest := effort_writeItems vs hvs.2 false rest
    rw [effortItems, writeItems]
    cases first <;> simp <;> omega

theorem effort_writeMembers (ms : List (String × Json)) (hms : ExactMembers ms) (first : Bool)
    (rest : List Char) :
    effortMembers ms + 2 * rest.length ≤ 2 * (writeMembers first ms rest).length := by
  cases ms with
  | nil => simp [effortMembers, writeMembers]
  | cons m ms =>
    obtain ⟨name, v⟩ := m
    have hv := effort_write v hms.1 (writeMembers false ms rest)
    have hrest := effort_writeMembers ms hms.2 false rest
    have hlen := Document.length_foldr_escapeChar name.toList
      ('"' :: ':' :: v.write (writeMembers false ms rest))
    rw [effortMembers, writeMembers, writeString]
    cases first <;> simp at hlen ⊢ <;> omega

end

/-- **The compact text of a value is read as the document of the value.** -/
theorem parse?_compact (h : v.Exact) : Document.parse? v.compact = some v.document := by
  have heffort := effort_write v h []
  have hread := element?_write v (2 * (v.write []).length + 2) [] h (by omega) Document.ends_nil
  rw [Document.parse?, compact, String.toList_ofList, hread]
  rfl

end Json

end AgentDesk
