import AgentDesk.Text.Pieces
import AgentDesk.Toml.Value
/-!
# Strings, numbers and times of TOML

Each reader takes what it reads from the front of a text and gives back the rest.

## Main definitions

* `Toml.basicString?`, `Toml.literalString?` and their forms over several lines.
* `Toml.number?` — integers and floating-point numbers.
* `Toml.moment?` — dates and times.
-/

namespace AgentDesk.Toml

/-! ## Blanks -/

/-- Whether a character is a blank within a line. -/
def isBlank (c : Char) : Bool := c == ' ' || c == '\t'

/-- Drops the blanks in front. -/
def skipBlanks (s : List Char) : List Char := s.dropWhile isBlank

/-- Drops the end of a line. -/
def newline? : List Char → Option (List Char)
  | '\n' :: r => some r
  | '\r' :: '\n' :: r => some r
  | _ => none

/-- Whether a character may stand in a comment or, but for the quotes, in a string. -/
def isPlain (c : Char) : Bool := c == '\t' || (32 ≤ c.toNat && c.toNat != 127)

/-! ## Strings -/

/-- The value of hexadecimal digits. -/
def hexNumber? (s : List Char) : Option Nat :=
  s.foldl (fun n c => do
    let n ← n
    if c.isDigit then some (n * 16 + (c.toNat - 48))
    else if 'a' ≤ c ∧ c ≤ 'f' then some (n * 16 + (c.toNat - 87))
    else if 'A' ≤ c ∧ c ≤ 'F' then some (n * 16 + (c.toNat - 55))
    else none) (some 0)

/-- The character that so many hexadecimal digits name. -/
def namedChar? (digits : Nat) (s : List Char) : Option (Char × List Char) := do
  if s.length < digits then none
  let n ← hexNumber? (s.take digits)
  if n < 0xD800 ∨ (0xDFFF < n ∧ n < 0x110000) then some (Char.ofNat n, s.drop digits) else none

/-- Reads an escape behind its backslash. -/
def escape? : List Char → Option (Char × List Char)
  | 'b' :: r => some (Char.ofNat 8, r)
  | 't' :: r => some ('\t', r)
  | 'n' :: r => some ('\n', r)
  | 'f' :: r => some (Char.ofNat 12, r)
  | 'r' :: r => some ('\r', r)
  | '"' :: r => some ('"', r)
  | '\\' :: r => some ('\\', r)
  | 'u' :: r => namedChar? 4 r
  | 'U' :: r => namedChar? 8 r
  | _ => none

/-- Reads the inside of a basic string; the characters so far are kept in reverse. -/
def basicBody? : Nat → List Char → List Char → Option (String × List Char)
  | 0, _, _ => none
  | fuel + 1, cs, s =>
    match s with
    | '"' :: r => some (String.ofList cs.reverse, r)
    | '\\' :: r =>
      match escape? r with
      | some (c, r) => basicBody? fuel (c :: cs) r
      | none => none
    | c :: r => if isPlain c then basicBody? fuel (c :: cs) r else none
    | [] => none

/-- Reads a basic string behind its quote. -/
def basicString? (s : List Char) : Option (String × List Char) := basicBody? (s.length + 1) [] s

/-- Reads a literal string behind its quote. -/
def literalString? (s : List Char) : Option (String × List Char) :=
  let body := s.takeWhile fun c => isPlain c && c != '\''
  match s.drop body.length with
  | '\'' :: r => some (String.ofList body, r)
  | _ => none

/-- Drops the blanks and line ends behind a backslash at the end of a line; there is at least one
line end. -/
def lineJoin? (s : List Char) : Option (List Char) :=
  (newline? (skipBlanks s)).map fun r => r.dropWhile fun c => isBlank c || c == '\n' || c == '\r'

/-- Reads closing quotes: three of them, with up to two more that belong to the text. -/
def closing? (quote : Char) (s : List Char) : Option (List Char × List Char) :=
  let run := s.takeWhile (· == quote)
  if 3 ≤ run.length ∧ run.length ≤ 5 then
    some (List.replicate (run.length - 3) quote, s.drop run.length)
  else if 5 < run.length then some ([quote, quote], s.drop 5)
  else none

/-- Reads the inside of a string over several lines. Line ends become single line feeds. -/
def longBody? (quote : Char) (escapes : Bool) : Nat → List Char → List Char →
    Option (String × List Char)
  | 0, _, _ => none
  | fuel + 1, cs, s =>
    match closing? quote s with
    | some (more, r) => some (String.ofList (cs.reverse ++ more), r)
    | none =>
      match newline? s, s with
      | some r, _ => longBody? quote escapes fuel ('\n' :: cs) r
      | none, '\\' :: r =>
        if escapes then
          match lineJoin? r, escape? r with
          | some r, _ => longBody? quote escapes fuel cs r
          | none, some (c, r) => longBody? quote escapes fuel (c :: cs) r
          | none, none => none
        else longBody? quote escapes fuel ('\\' :: cs) r
      | none, c :: r => if isPlain c then longBody? quote escapes fuel (c :: cs) r else none
      | none, [] => none

/-- Reads a string over several lines behind its quotes; a line end in front is dropped. -/
def longString? (quote : Char) (escapes : Bool) (s : List Char) : Option (String × List Char) :=
  let s := (newline? s).getD s
  longBody? quote escapes (s.length + 1) [] s

/-- Reads any string. -/
def string? : List Char → Option (String × List Char)
  | '"' :: '"' :: '"' :: r => longString? '"' true r
  | '"' :: r => basicString? r
  | '\'' :: '\'' :: '\'' :: r => longString? '\'' false r
  | '\'' :: r => literalString? r
  | _ => none

/-! ## Numbers -/

/-- Reads digits, between which single underscores may stand; gives them without underscores. -/
def digitsTail (isDigit : Char → Bool) : List Char → List Char × List Char
  | '_' :: d :: r =>
    if isDigit d then
      let (ds, rest) := digitsTail isDigit r
      (d :: ds, rest)
    else ([], '_' :: d :: r)
  | d :: r =>
    if isDigit d then
      let (ds, rest) := digitsTail isDigit r
      (d :: ds, rest)
    else ([], d :: r)
  | [] => ([], [])

/-- Reads at least one digit. -/
def digits? (isDigit : Char → Bool) (s : List Char) : Option (List Char × List Char) :=
  match s with
  | d :: _ => if isDigit d then some (digitsTail isDigit s) else none
  | [] => none

/-- The value of digits in a base. -/
def valueOf (base : Nat) (digits : List Char) : Nat :=
  digits.foldl (fun n c => n * base + ((hexNumber? [c]).getD 0)) 0

/-- The largest integer. -/
def integerMax : Int := Nat.pow 2 63 - 1

/-- An integer that is not too large. -/
def bounded? (n : Int) (rest : List Char) : Option (Toml × List Char) :=
  if -integerMax - 1 ≤ n ∧ n ≤ integerMax then some (.integer n, rest) else none

/-- Reads an integer with the mark of its base. -/
def based? : List Char → Option (Toml × List Char)
  | '0' :: 'x' :: r => do
    let (ds, rest) ← digits? (fun c => (hexNumber? [c]).isSome) r
    bounded? (valueOf 16 ds) rest
  | '0' :: 'o' :: r => do
    let (ds, rest) ← digits? (fun c => '0' ≤ c && c ≤ '7') r
    bounded? (valueOf 8 ds) rest
  | '0' :: 'b' :: r => do
    let (ds, rest) ← digits? (fun c => c == '0' || c == '1') r
    bounded? (valueOf 2 ds) rest
  | _ => none

/-- Reads a sign. -/
def sign : List Char → Bool × List Char
  | '-' :: r => (true, r)
  | '+' :: r => (false, r)
  | s => (false, s)

/-- Reads the digits of an integer in base ten, without zeros in front. -/
def whole? (s : List Char) : Option (List Char × List Char) :=
  match s with
  | '0' :: r =>
    match r with
    | c :: _ => if c.isDigit || c == '_' then none else some (['0'], r)
    | [] => some (['0'], [])
  | s => digits? Char.isDigit s

/-- Reads an exponent behind its letter. -/
def exponent? (s : List Char) : Option (Int × List Char) := do
  let (negative, s) := sign s
  let (ds, rest) ← digits? Char.isDigit s
  some (if negative then -(valueOf 10 ds : Int) else valueOf 10 ds, rest)

/-- The exponent behind a number; none if a letter is not followed by one. -/
def exponentTail? (s : List Char) : Option (Option Int × List Char) :=
  match s with
  | c :: r =>
    if c == 'e' || c == 'E' then (exponent? r).map fun (e, rest) => (some e, rest)
    else some (none, s)
  | [] => some (none, [])

/-- The number with these digits and this exponent; none if it is too large. -/
def scaled? (negative : Bool) (digits : Nat) (exponent : Int) : Option Float :=
  let size := (toString digits).length
  let x :=
    if digits = 0 ∨ exponent + size < -400 then 0
    else if exponent + size > 400 then 1.0 / 0.0
    else if exponent < 0 then Float.ofScientific digits true exponent.natAbs
    else Float.ofScientific digits false exponent.natAbs
  if negative then some (-x) else if x.isInf then none else some x

/-- Reads a number in base ten. -/
def decimal? (s : List Char) : Option (Toml × List Char) := do
  let (negative, s) := sign s
  let (ds, rest) ← whole? s
  match rest with
  | '.' :: r =>
    match digits? Char.isDigit r with
    | some (fraction, r) =>
      let (e, rest) ← exponentTail? r
      let x ← scaled? negative (valueOf 10 (ds ++ fraction)) (e.getD 0 - fraction.length)
      some (.float x, rest)
    | none => none
  | rest =>
    match ← exponentTail? rest with
    | (some e, rest) =>
      let x ← scaled? negative (valueOf 10 ds) e
      some (.float x, rest)
    | (none, rest) =>
      let n : Int := valueOf 10 ds
      bounded? (if negative then -n else n) rest

/-- Reads a number that has a name. -/
def named? (s : List Char) : Option (Toml × List Char) :=
  let (negative, s) := sign s
  match s with
  | 'i' :: 'n' :: 'f' :: r =>
    let x : Float := 1.0 / 0.0
    some (.float (if negative then -x else x), r)
  | 'n' :: 'a' :: 'n' :: r =>
    some (.float (Float.ofBits (if negative then 0xfff8000000000000 else 0x7ff8000000000000)), r)
  | _ => none

/-- Reads any number. -/
def number? (s : List Char) : Option (Toml × List Char) :=
  (named? s).orElse fun _ => (based? s).orElse fun _ => decimal? s

/-! ## Dates and times -/

/-- Reads so many digits as a number within bounds. -/
def field? (size low high : Nat) (s : List Char) : Option (Nat × List Char) :=
  let ds := s.take size
  let n := valueOf 10 ds
  if ds.length = size ∧ ds.all Char.isDigit ∧ low ≤ n ∧ n ≤ high then some (n, s.drop size)
  else none

/-- Drops a character. -/
def drop? (c : Char) : List Char → Option (List Char)
  | d :: r => if c == d then some r else none
  | [] => none

/-- The number of days in a month. -/
def daysIn (year month : Nat) : Nat :=
  if month = 2 then
    if (year % 4 = 0 ∧ year % 100 ≠ 0) ∨ year % 400 = 0 then 29 else 28
  else if month = 4 ∨ month = 6 ∨ month = 9 ∨ month = 11 then 30
  else 31

/-- Reads a date. -/
def date? (s : List Char) : Option (List Char) := do
  let (year, s) ← field? 4 0 9999 s
  let (month, s) ← field? 2 1 12 (← drop? '-' s)
  let (_, s) ← field? 2 1 (daysIn year month) (← drop? '-' s)
  some s

/-- Reads a time of day. -/
def time? (s : List Char) : Option (List Char) := do
  let (_, s) ← field? 2 0 23 s
  let (_, s) ← field? 2 0 59 (← drop? ':' s)
  let (_, s) ← field? 2 0 60 (← drop? ':' s)
  match s with
  | '.' :: d :: r => if d.isDigit then some (r.dropWhile Char.isDigit) else none
  | '.' :: [] => none
  | s => some s

/-- Reads the offset of a time; there may be none. -/
def offset? (s : List Char) : Option (List Char) :=
  match s with
  | c :: r =>
    if c == 'Z' || c == 'z' then some r
    else if c == '+' || c == '-' then do
      let (_, r) ← field? 2 0 23 r
      let (_, r) ← field? 2 0 59 (← drop? ':' r)
      some r
    else some s
  | [] => some []

/-- Reads a time behind a date; there may be none. -/
def timeBehind? (s : List Char) : Option (List Char) :=
  match s with
  | c :: r =>
    if c == 'T' || c == 't' then (time? r).bind offset?
    else if c == ' ' then
      match time? r with
      | some r => offset? r
      | none => some s
    else some s
  | [] => some []

/-- What has to stand in front for a date or a time to be read. -/
def looksLikeMoment (s : List Char) : Bool :=
  let ds := s.takeWhile Char.isDigit
  match s.drop ds.length with
  | c :: _ => (ds.length == 4 && c == '-') || (ds.length == 2 && c == ':')
  | [] => false

/-- The letter of a date or a time as it is shown. -/
def momentChar (c : Char) : Char :=
  if c == ' ' || c == 't' then 'T' else if c == 'z' then 'Z' else c

/-- The number of digits of a second that count. -/
def secondDigits : Nat := 9

/-- A date or a time as it is shown: a `T` between the two, no zeros behind the last digit of a
second, and no offset of minus nothing. -/
def plainMoment (written : List Char) : List Char :=
  let front := written.takeWhile (· != '.')
  let behind := (written.drop front.length).drop 1
  let digits := behind.takeWhile Char.isDigit
  let kept := ((digits.take secondDigits).reverse.dropWhile (· == '0')).reverse
  let text := (front ++ (if kept.isEmpty then [] else '.' :: kept) ++
    behind.drop digits.length).map momentChar
  match text.reverse with
  | '0' :: '0' :: ':' :: '0' :: '0' :: '-' :: r => r.reverse ++ "+00:00".toList
  | _ => text

/-- Reads a date, a time or both. -/
def moment? (s : List Char) : Option (Toml × List Char) := do
  let rest ← match date? s with
    | some r => timeBehind? r
    | none => time? s
  some (.moment (String.ofList (plainMoment (s.take (s.length - rest.length)))), rest)

end AgentDesk.Toml
