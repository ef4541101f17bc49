import AgentDesk.Json.Value
/-!
# JSON documents as read

Reading a text gives a document: the same tree as a value, but numbers are kept as they were
written and a string may be ill-formed, when an escape names one half of a surrogate pair. What a
reader skips may hold ill-formed strings and numbers out of range; what it keeps may not.

## Main definitions

* `Numeral` and `Numeral.value?` — a written number and the number it stands for.
* `Document` and `Document.parse?` — documents and the grammar.
* `Document.value?` — the value of a document in which everything is kept.
-/

namespace AgentDesk

/-- A number as written: its digits, and what follows a point or an `e`. -/
structure Numeral where
  negative : Bool
  whole : List Nat
  fraction : Option (List Nat)
  exponent : Option Int
deriving Repr, BEq, DecidableEq

/-- The number that a numeral stands for. -/
inductive Numeral.Value where
  | int (n : Int)
  | float (x : Float)
deriving Repr

namespace Numeral

/-- The largest number that fits in 64 bits. -/
def wordMax : Nat := UInt64.size - 1

/-- Appends digits to a significand for as long as it fits in 64 bits, and gives back the digits
that found no place. -/
def accumulate : Nat → List Nat → Nat × List Nat
  | n, [] => (n, [])
  | n, d :: ds => if wordMax < n * 10 + d then (n, d :: ds) else accumulate (n * 10 + d) ds

/-- Multiplies by a power of ten with one rounding for every 308 decimal orders; `none` when the
result is too large. -/
def scale : Nat → Float → Int → Option Float
  | 0, x, _ => some x
  | fuel + 1, x, e =>
    if e.natAbs ≤ 308 then
      let p := Float.ofScientific 1 false e.natAbs
      if 0 ≤ e then
        let y := x * p
        if y.isInf then none else some y
      else some (x / p)
    else if x == 0 then some x
    else if 0 ≤ e then none
    else scale fuel (x / Float.ofScientific 1 false 308) (e + 308)

/-- The number a numeral stands for. Integers are exact when they fit in 64 bits; all other
numbers are binary fractions made from the leading digits that fit in 64 bits. -/
def value? (n : Numeral) : Option Value :=
  let (sig, dropped) := accumulate 0 n.whole
  let sign (x : Float) : Float := if n.negative then -x else x
  match n.fraction, n.exponent, dropped with
  | none, none, [] =>
    if !n.negative then some (.int sig)
    else if sig == 0 || UInt64.size / 2 < sig then some (.float (sign (UInt64.ofNat sig).toFloat))
    else some (.int (-(sig : Int)))
  | fraction, exponent, dropped =>
    let ds := fraction.getD []
    let (sig, rest) := accumulate sig ds
    let power : Int := dropped.length - (ds.length - rest.length : Nat) + exponent.getD 0
    (scale 5 (UInt64.ofNat sig).toFloat power).map fun x => .float (sign x)

end Numeral

/-- A document: the tree of a JSON text. -/
inductive Document where
  | null
  | bool (value : Bool)
  | number (value : Numeral)
  | string (value : Option String)
  | array (items : List Document)
  | object (members : List (Option String × Document))
deriving Inhabited, Repr

namespace Document

/-- The blanks of the grammar. -/
def isSpace (c : Char) : Bool := c == ' ' || c == '\n' || c == '\t' || c == '\r'

/-- Skips blanks. -/
def skip (s : List Char) : List Char := s.dropWhile isSpace

/-- The value of a decimal digit. -/
def digit? (c : Char) : Option Nat := if c.isDigit then some (c.toNat - 48) else none

/-- The value of a hexadecimal digit. -/
def hex? (c : Char) : Option Nat :=
  if c.isDigit then some (c.toNat - 48)
  else if 'a' ≤ c && c ≤ 'f' then some (c.toNat - 87)
  else if 'A' ≤ c && c ≤ 'F' then some (c.toNat - 55)
  else none

/-- The digits in front, and the rest. -/
def digits (s : List Char) : List Nat × List Char :=
  ((s.takeWhile Char.isDigit).map (·.toNat - 48), s.dropWhile Char.isDigit)

/-- Four hexadecimal digits. -/
def hexFour? : List Char → Option (Nat × List Char)
  | a :: b :: c :: d :: r => do
    let a ← hex? a
    let b ← hex? b
    let c ← hex? c
    let d ← hex? d
    pure (((a * 16 + b) * 16 + c) * 16 + d, r)
  | _ => none

/-- What an escape stands for, if it is one letter long. -/
def shortEscape? : Char → Option Char
  | '"' => some '"'
  | '\\' => some '\\'
  | '/' => some '/'
  | 'b' => some (Char.ofNat 8)
  | 'f' => some (Char.ofNat 12)
  | 'n' => some '\n'
  | 'r' => some '\r'
  | 't' => some '\t'
  | _ => none

/-- Whether a 16-bit unit is the first half of a surrogate pair. -/
def isHigh (u : Nat) : Bool := 0xD800 ≤ u && u ≤ 0xDBFF

/-- Whether a 16-bit unit is the second half of a surrogate pair. -/
def isLow (u : Nat) : Bool := 0xDC00 ≤ u && u ≤ 0xDFFF

/-- Reads the rest of a string behind its opening quote. `found` holds the characters so far in
reverse, and `sound` says that no surrogate stood alone. Every step takes a character, so the
length of the text is fuel enough. -/
def stringBody : Nat → List Char → Bool → List Char → Option (Option String × List Char)
  | 0, _, _, _ => none
  | _ + 1, _, _, [] => none
  | _ + 1, found, sound, '"' :: r =>
    some (if sound then some (String.ofList found.reverse) else none, r)
  | fuel + 1, found, sound, '\\' :: 'u' :: r =>
    match hexFour? r with
    | none => none
    | some (u, r) =>
      if isHigh u then
        match r with
        | '\\' :: 'u' :: r' =>
          match hexFour? r' with
          | none => none
          | some (v, r'') =>
            if isLow v then
              let c := Char.ofNat (0x10000 + (u - 0xD800) * 1024 + (v - 0xDC00))
              stringBody fuel (c :: found) sound r''
            else stringBody fuel found false r
        | _ => stringBody fuel found false r
      else if isLow u then stringBody fuel found false r
      else stringBody fuel (Char.ofNat u :: found) sound r
  | fuel + 1, found, sound, '\\' :: c :: r =>
    match shortEscape? c with
    | some d => stringBody fuel (d :: found) sound r
    | none => none
  | fuel + 1, found, sound, c :: r =>
    if c == '\\' || c.toNat < 32 then none else stringBody fuel (c :: found) sound r

/-- Reads a string behind its opening quote. -/
def string? (s : List Char) : Option (Option String × List Char) :=
  stringBody (s.length + 1) [] true s

/-- Reads the exponent of a number behind its `e`. -/
def exponent? (s : List Char) : Option (Int × List Char) :=
  let (negative, s) : Bool × List Char := match s with
    | '+' :: r => (false, r)
    | '-' :: r => (true, r)
    | r => (false, r)
  match digits s with
  | ([], _) => none
  | (ds, r) =>
    let n : Nat := ds.foldl (fun n d => n * 10 + d) 0
    some (if negative then -(n : Int) else n, r)

/-- Reads the fraction and the exponent of a number. -/
def numeralTail? (negative : Bool) (whole : List Nat) (s : List Char) :
    Option (Numeral × List Char) := do
  let (fraction, s) ← (match s with
    | '.' :: r =>
      match digits r with
      | ([], _) => none
      | (ds, r) => some (some ds, r)
    | r => some (none, r) : Option (Option (List Nat) × List Char))
  match s with
  | 'e' :: r | 'E' :: r => do
    let (e, r) ← exponent? r
    pure (⟨negative, whole, fraction, some e⟩, r)
  | r => pure (⟨negative, whole, fraction, none⟩, r)

/-- Reads a number behind its sign. A whole part of more than one digit does not begin with a
zero. -/
def numeral? (negative : Bool) (s : List Char) : Option (Numeral × List Char) :=
  match digits s with
  | ([], _) => none
  | (0 :: _ :: _, _) => none
  | (ds, r) => numeralTail? negative ds r

mutual

/-- Reads one value. A value uses up one unit of fuel and so does each item or member, so two units
for every character are enough. -/
def element? : Nat → List Char → Option (Document × List Char)
  | 0, _ => none
  | fuel + 1, s =>
    match skip s with
    | 'n' :: 'u' :: 'l' :: 'l' :: r => some (.null, r)
    | 't' :: 'r' :: 'u' :: 'e' :: r => some (.bool true, r)
    | 'f' :: 'a' :: 'l' :: 's' :: 'e' :: r => some (.bool false, r)
    | '"' :: r => (string? r).map fun (s, r) => (.string s, r)
    | '-' :: r => (numeral? true r).map fun (n, r) => (.number n, r)
    | '[' :: r =>
      match skip r with
      | ']' :: r => some (.array [], r)
      | r => items? fuel r []
    | '{' :: r =>
      match skip r with
      | '}' :: r => some (.object [], r)
      | r => members? fuel r []
    | r => (numeral? false r).map fun (n, r) => (.number n, r)

/-- Reads the items of an array up to its end. -/
def items? : Nat → List Char → List Document → Option (Document × List Char)
  | 0, _, _ => none
  | fuel + 1, s, found =>
    match element? fuel s with
    | none => none
    | some (v, r) =>
      match skip r with
      | ',' :: r => items? fuel r (v :: found)
      | ']' :: r => some (.array (v :: found).reverse, r)
      | _ => none

/-- Reads the members of an object up to its end. -/
def members? : Nat → List Char → List (Option String × Document) →
    Option (Document × List Char)
  | 0, _, _ => none
  | fuel + 1, s, found =>
    match skip s with
    | '"' :: r =>
      match string? r with
      | none => none
      | some (name, r) =>
        match skip r with
        | ':' :: r =>
          match element? fuel r with
          | none => none
          | some (v, r) =>
            match skip r with
            | ',' :: r => members? fuel r ((name, v) :: found)
            | '}' :: r => some (.object ((name, v) :: found).reverse, r)
            | _ => none
        | _ => none
    | _ => none

end

/-- Reads a whole text as one document. -/
def parse? (s : String) : Option Document :=
  let cs := s.toList
  match element? (2 * cs.length + 2) cs with
  | some (d, r) => if (skip r).isEmpty then some d else none
  | none => none

/-- How many containers may be nested in a document that is read. -/
def depthLimit : Nat := 127

mutual

/-- The value of a document whose containers are nested at most `room` deep. -/
def value? (room : Nat) : Document → Option Json
  | .null => some .null
  | .bool b => some (.bool b)
  | .number n =>
    match n.value? with
    | some (.int i) => some (.int i)
    | some (.float x) => some (.float x)
    | none => none
  | .string s => s.map .string
  | .array items =>
    match room with
    | 0 => none
    | room + 1 => (values? room items).map .array
  | .object members =>
    match room with
    | 0 => none
    | room + 1 => (memberValues? room members).map Json.sorted

/-- The values of the items. -/
def values? (room : Nat) : List Document → Option (List Json)
  | [] => some []
  | d :: ds =>
    match d.value? room with
    | some v => (values? room ds).map (v :: ·)
    | none => none

/-- The values of the members. -/
def memberValues? (room : Nat) : List (Option String × Document) → Option (List (String × Json))
  | [] => some []
  | (name, d) :: ds =>
    match name, d.value? room with
    | some n, some v => (memberValues? room ds).map ((n, v) :: ·)
    | _, _ => none

end

end Document

/-- The value of a JSON text. Members come in ascending order of their names, the last of each
name kept. -/
def Json.parse? (s : String) : Option Json :=
  (Document.parse? s).bind (Document.value? Document.depthLimit)

end AgentDesk
