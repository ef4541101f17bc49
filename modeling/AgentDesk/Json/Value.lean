import AgentDesk.Decimal.Notation
/-!
# JSON values and their compact text

A JSON value keeps the members of an object in the order in which they were put. Integers and
floating-point numbers are told apart, because the two are written differently.

## Main definitions

* `Json` — the values.
* `Json.sorted` — the object whose members are in ascending order of their names.
* `Json.compact` — the text without blanks.
-/

namespace AgentDesk

/-- A JSON value. -/
inductive Json where
  | null
  | bool (value : Bool)
  | int (value : Int)
  | float (value : Float)
  | string (value : String)
  | array (items : List Json)
  | object (members : List (String × Json))
deriving Inhabited, Repr

namespace Json

/-- A natural number as a value. -/
def nat (n : Nat) : Json := .int n

/-- A list of strings as a value. -/
def strings (xs : List String) : Json := .array (xs.map .string)

/-- Null for nothing. -/
def optional (f : α → Json) : Option α → Json
  | none => .null
  | some a => f a

/-- A member that is left out when there is nothing to say. -/
def given (name : String) (f : α → Json) : Option α → List (String × Json)
  | none => []
  | some a => [(name, f a)]

/-- Puts a member into a list that is in ascending order of names; a later member replaces an
earlier one of the same name. -/
def insertMember (name : String) (value : Json) : List (String × Json) → List (String × Json)
  | [] => [(name, value)]
  | (n, v) :: rest =>
    if name < n then (name, value) :: (n, v) :: rest
    else if name == n then (name, value) :: rest
    else (n, v) :: insertMember name value rest

/-- The members in ascending order of their names, the last of each name kept. -/
def sortMembers (members : List (String × Json)) : List (String × Json) :=
  members.foldl (fun acc (n, v) => insertMember n v acc) []

/-- The object with these members in ascending order of their names. -/
def sorted (members : List (String × Json)) : Json := .object (sortMembers members)

/-- The value of a member. -/
def get? (name : String) : Json → Option Json
  | .object members => (members.find? (·.1 == name)).map (·.2)
  | _ => none

/-- The value of a member; null if there is none. -/
def member (name : String) (v : Json) : Json := (v.get? name).getD .null

/-- The text of a string. -/
def text? : Json → Option String
  | .string s => some s
  | _ => none

/-- The natural number that a value is. -/
def nat? : Json → Option Nat
  | .int n => if 0 ≤ n then some n.toNat else none
  | _ => none

/-- A hexadecimal digit in lower case. -/
def hexDigit (n : Nat) : Char :=
  if n < 10 then Char.ofNat (48 + n) else Char.ofNat (87 + n)

/-- A character inside a written string. -/
def escapeChar (c : Char) : List Char :=
  match c with
  | '"' => ['\\', '"']
  | '\\' => ['\\', '\\']
  | '\n' => ['\\', 'n']
  | '\r' => ['\\', 'r']
  | '\t' => ['\\', 't']
  | c =>
    if c.toNat == 8 then ['\\', 'b']
    else if c.toNat == 12 then ['\\', 'f']
    else if c.toNat < 32 then
      ['\\', 'u', '0', '0', hexDigit (c.toNat / 16), hexDigit (c.toNat % 16)]
    else [c]

/-- A written string in front of what follows it. -/
def writeString (s : List Char) (rest : List Char) : List Char :=
  '"' :: s.foldr (fun c r => escapeChar c ++ r) ('"' :: rest)

mutual

/-- The text of a value in front of what follows it. -/
def write : Json → List Char → List Char
  | .null, rest => "null".toList ++ rest
  | .bool true, rest => "true".toList ++ rest
  | .bool false, rest => "false".toList ++ rest
  | .int n, rest => (toString n).toList ++ rest
  | .float x, rest => (Decimal.jsonText x).toList ++ rest
  | .string s, rest => writeString s.toList rest
  | .array items, rest => '[' :: writeItems true items (']' :: rest)
  | .object members, rest => '{' :: writeMembers true members ('}' :: rest)

/-- The items of an array with commas between them. -/
def writeItems (first : Bool) : List Json → List Char → List Char
  | [], rest => rest
  | v :: vs, rest =>
    let text := write v (writeItems false vs rest)
    if first then text else ',' :: text

/-- The members of an object with commas between them. -/
def writeMembers (first : Bool) : List (String × Json) → List Char → List Char
  | [], rest => rest
  | (n, v) :: ms, rest =>
    let text := writeString n.toList (':' :: write v (writeMembers false ms rest))
    if first then text else ',' :: text

end

/-- The text of a value without blanks. -/
def compact (v : Json) : String := String.ofList (write v [])

end Json

end AgentDesk
