import AgentDesk.Toml.Scalar
import AgentDesk.Toml.Section
/-!
# Reading a TOML document

A document is read line by line into sections, which are then put together. A text that breaks any
rule has no value.

## Main definitions

* `Toml.value?` — reads a value.
* `Toml.sections?` — the sections of a document.
* `Toml.parse?` — the value of a document.
-/

namespace AgentDesk.Toml

/-- How deep arrays and inline tables may be nested, and how many parts a key may have. -/
def depthLimit : Nat := 80

/-! ## Keys -/

/-- Whether a character may stand in a key without quotes. -/
def isBare (c : Char) : Bool := (c.isAlphanum && c.toNat < 128) || c == '_' || c == '-'

/-- Reads one part of a key. -/
def keyPart? (s : List Char) : Option (String × List Char) :=
  match s with
  | '"' :: r => basicString? r
  | '\'' :: r => literalString? r
  | s =>
    let bare := s.takeWhile isBare
    if bare.isEmpty then none else some (String.ofList bare, s.drop bare.length)

/-- Reads a key whose parts are separated by dots. -/
def key? : Nat → List Char → Option (List String × List Char)
  | 0, _ => none
  | fuel + 1, s => do
    let (part, s) ← keyPart? (skipBlanks s)
    match skipBlanks s with
    | '.' :: r =>
      let (parts, s) ← key? fuel r
      some (part :: parts, s)
    | s => some ([part], s)

/-- Reads a key that does not have too many parts. -/
def path? (s : List Char) : Option (List String × List Char) := do
  let (path, s) ← key? (s.length + 1) s
  if path.length < depthLimit then some (path, s) else none

/-! ## Values -/

/-- Drops a comment. -/
def comment? (s : List Char) : Option (List Char) :=
  match s with
  | '#' :: r => some (r.dropWhile isPlain)
  | s => some s

/-- Drops blanks, line ends and comments. -/
def skipLines : Nat → List Char → List Char
  | 0, s => s
  | fuel + 1, s =>
    match skipBlanks s with
    | '#' :: r => skipLines fuel (r.dropWhile isPlain)
    | s =>
      match newline? s with
      | some r => skipLines fuel r
      | none => s

/-- Reads a value that holds no other values. -/
def scalar? (s : List Char) : Option (Toml × List Char) :=
  match s with
  | '"' :: _ => (string? s).map fun (t, r) => (.text t, r)
  | '\'' :: _ => (string? s).map fun (t, r) => (.text t, r)
  | 't' :: 'r' :: 'u' :: 'e' :: r => some (.truth true, r)
  | 'f' :: 'a' :: 'l' :: 's' :: 'e' :: r => some (.truth false, r)
  | s => if looksLikeMoment s then moment? s else number? s

mutual

/-- Reads a value inside so many others. -/
def value? : Nat → Nat → List Char → Option (Toml × List Char)
  | 0, _, _ => none
  | fuel + 1, depth, s =>
    match s with
    | '[' :: r => if depth + 1 < depthLimit then items? fuel (depth + 1) [] r else none
    | '{' :: r =>
      if depth + 1 < depthLimit then
        match skipBlanks r with
        | '}' :: r => some (.table [], r)
        | r => inline? fuel (depth + 1) [] r
      else none
    | s => scalar? s

/-- Reads the items of an array, the earlier ones of which are given in reverse. -/
def items? : Nat → Nat → List Toml → List Char → Option (Toml × List Char)
  | 0, _, _, _ => none
  | fuel + 1, depth, found, s =>
    match skipLines s.length s with
    | ']' :: r => some (.array found.reverse, r)
    | s =>
      match value? fuel depth s with
      | none => none
      | some (v, s) =>
        match skipLines s.length s with
        | ',' :: r => items? fuel depth (v :: found) r
        | ']' :: r => some (.array (v :: found).reverse, r)
        | _ => none

/-- Reads the entries of an inline table, the earlier ones of which are given. -/
def inline? : Nat → Nat → List Entry → List Char → Option (Toml × List Char)
  | 0, _, _, _ => none
  | fuel + 1, depth, found, s =>
    match path? s with
    | some (path, '=' :: r) =>
      match value? fuel depth (skipBlanks r) with
      | none => none
      | some (v, s) =>
        match skipBlanks s with
        | ',' :: r => inline? fuel depth (found ++ [(path, v)]) r
        | '}' :: r =>
          (insertAll? (found ++ [(path, v)]) []).map fun slots => (.table (entriesOf slots), r)
        | _ => none
    | _ => none

end

/-! ## Documents -/

/-- One line with a meaning. -/
inductive Statement where
  | header (h : Header)
  | entry (e : Entry)

/-- Reads a header or an entry. -/
def statement? (s : List Char) : Option (Statement × List Char) :=
  match s with
  | '[' :: '[' :: r =>
    match path? r with
    | some (path, ']' :: ']' :: r) => some (.header (.item path), r)
    | _ => none
  | '[' :: r =>
    match path? r with
    | some (path, ']' :: r) => some (.header (.table path), r)
    | _ => none
  | s =>
    match path? s with
    | some (path, '=' :: r) =>
      match value? (2 * r.length + 2) 0 (skipBlanks r) with
      | some (v, r) => some (.entry (path, v), r)
      | none => none
    | _ => none

/-- Drops what may follow on a line: blanks, a comment and the end of the line or of the text. -/
def lineEnd? (s : List Char) : Option (List Char) := do
  let s ← comment? (skipBlanks s)
  if s.isEmpty then some [] else newline? s

/-- Reads the statements of a document. -/
def statements? : Nat → List Statement → List Char → Option (List Statement)
  | 0, _, _ => none
  | fuel + 1, found, s =>
    let s := skipBlanks s
    match s with
    | [] => some found.reverse
    | '#' :: _ => (lineEnd? s).bind (statements? fuel found)
    | s =>
      match newline? s with
      | some r => statements? fuel found r
      | none =>
        match statement? s with
        | none => none
        | some (statement, r) => (lineEnd? r).bind (statements? fuel (statement :: found))

/-- Splits statements into sections, of which the present one is given. -/
def sections (header : Header) (entries : List Entry) : List Statement →
    List (Header × List Entry)
  | [] => [(header, entries.reverse)]
  | .entry e :: rest => sections header (e :: entries) rest
  | .header h :: rest => (header, entries.reverse) :: sections h [] rest

/-- The sections of a document. A byte order mark in front is passed over. -/
def sections? (text : String) : Option (List (Header × List Entry)) :=
  let s := match text.toList with
    | c :: r => if c.toNat = 0xFEFF then r else c :: r
    | [] => []
  (statements? (s.length + 1) [] s).map (sections .root [])

/-- The value of a document. -/
def parse? (text : String) : Option Toml := do
  let parts ← sections? text
  let slots ← parts.foldlM (fun slots (header, entries) => addSection? slots header entries) []
  some (.table (entriesOf slots))

end AgentDesk.Toml
