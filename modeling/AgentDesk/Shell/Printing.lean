import AgentDesk.Text.Pieces
/-!
# Formatted printing

A format holds plain text, escapes with a backslash and directives with a percent sign. It is used
again as long as arguments are left. Widths count bytes.

## Main definitions

* `Shell.escapes` — a text with its escapes replaced.
* `Shell.filled` — a format filled with arguments.
-/

namespace AgentDesk.Shell

/-- The bytes of a character. -/
def bytesOf (c : Char) : List UInt8 := c.toString.toUTF8.toList

/-- The value of an octal digit. -/
def octal? (c : Char) : Option Nat := if '0' ≤ c ∧ c ≤ '7' then some (c.toNat - 48) else none

/-- The value of a hexadecimal digit. -/
def hexadecimal? (c : Char) : Option Nat :=
  if c.isDigit then some (c.toNat - 48)
  else if 'a' ≤ c ∧ c ≤ 'f' then some (c.toNat - 87)
  else if 'A' ≤ c ∧ c ≤ 'F' then some (c.toNat - 55)
  else none

/-- Reads up to `most` digits of a number. -/
def digitsUpTo (digit? : Char → Option Nat) (base most value : Nat) (s : List Char) :
    Nat × List Char :=
  match most, s with
  | most + 1, c :: r =>
    match digit? c with
    | some d => digitsUpTo digit? base most (value * base + d) r
    | none => (value, s)
  | _, _ => (value, s)

/-- Reads an escape behind its backslash: its bytes and the rest. -/
def escapeBytes : List Char → List UInt8 × List Char
  | 'n' :: r => ([10], r)
  | 't' :: r => ([9], r)
  | 'r' :: r => ([13], r)
  | 'a' :: r => ([7], r)
  | 'b' :: r => ([8], r)
  | 'f' :: r => ([12], r)
  | 'v' :: r => ([11], r)
  | 'e' :: r => ([27], r)
  | '\\' :: r => ([92], r)
  | 'x' :: c :: r =>
    if (hexadecimal? c).isSome then
      let (n, r) := digitsUpTo hexadecimal? 16 2 0 (c :: r)
      ([UInt8.ofNat n], r)
    else ([92, 120], c :: r)
  | c :: r =>
    if (octal? c).isSome then
      let (n, r) := digitsUpTo octal? 8 3 0 (c :: r)
      ([UInt8.ofNat n], r)
    else (92 :: bytesOf c, r)
  | [] => ([92], [])

/-- The bytes of a text with its escapes replaced. Every step uses a character up, so the length
of the text is fuel enough. -/
def escapesFrom : Nat → List Char → List UInt8
  | 0, _ => []
  | _ + 1, [] => []
  | fuel + 1, '\\' :: r =>
    let (bytes, r) := escapeBytes r
    bytes ++ escapesFrom fuel r
  | fuel + 1, c :: r => bytesOf c ++ escapesFrom fuel r

/-- The bytes of a text with its escapes replaced. -/
def escapes (s : String) : List UInt8 := escapesFrom s.length s.toList

/-! ## Layout -/

/-- How the text of a directive is laid out. -/
structure Layout where
  flags : List Char
  width : Nat
  precision : Option Nat
deriving Repr, BEq, DecidableEq

namespace Layout

/-- Whether a text stands at the left of its width. -/
def isLeft (l : Layout) : Bool := l.flags.elem '-'

/-- Fills a text up to the width of a layout. -/
def fill (l : Layout) (bytes : List UInt8) : List UInt8 :=
  let missing := List.replicate (l.width - bytes.length) (32 : UInt8)
  if l.isLeft then bytes ++ missing else missing ++ bytes

/-- Fills a number with its sign up to the width of a layout, with zeros between the sign and the
digits if they are asked for. -/
def fillNumber (l : Layout) (zeros negative : Bool) (digits : String) : List UInt8 :=
  let sign :=
    if negative then "-" else if l.flags.elem '+' then "+" else if l.flags.elem ' ' then " " else ""
  let missing := l.width - (sign.length + digits.length)
  if zeros && l.flags.elem '0' && !l.isLeft then
    (sign ++ String.ofList (List.replicate missing '0') ++ digits).toUTF8.toList
  else l.fill (sign ++ digits).toUTF8.toList

end Layout

/-- The value of a decimal digit. -/
def decimal? (c : Char) : Option Nat := if c.isDigit then some (c.toNat - 48) else none

/-- The flags of a directive. -/
def isFlag (c : Char) : Bool := "-0+ #".toList.elem c

/-- Reads the layout of a directive behind its percent sign. -/
def readLayout (s : List Char) : Layout × List Char :=
  let flags := s.takeWhile isFlag
  let (width, s) := digitsUpTo decimal? 10 9 0 (s.dropWhile isFlag)
  match s with
  | '.' :: r =>
    let (precision, r) := digitsUpTo decimal? 10 9 0 r
    (⟨flags, width, some precision⟩, r)
  | s => (⟨flags, width, none⟩, s)

/-! ## Numbers -/

/-- A sign in front of a text, and the rest. -/
def cutSign : List Char → Bool × List Char
  | '-' :: r => (true, r)
  | '+' :: r => (false, r)
  | s => (false, s)

/-- The base of a written number and its digits. -/
def cutBase : List Char → Nat × List Char
  | '0' :: 'x' :: r => (16, r)
  | '0' :: 'X' :: r => (16, r)
  | '0' :: r => (8, '0' :: r)
  | s => (10, s)

/-- The value of a digit in a base. -/
def digitIn? (base : Nat) (c : Char) : Option Nat :=
  (hexadecimal? c).bind fun d => if d < base then some d else none

/-- The number that an argument writes, and whether it is written by the rules. -/
def integer (arg : String) : Int × Bool :=
  match arg.toList with
  | [] => (0, true)
  | '\'' :: c :: _ => (c.toNat, true)
  | '"' :: c :: _ => (c.toNat, true)
  | s =>
    let (negative, s) := cutSign (s.dropWhile (· == ' '))
    let (base, s) := cutBase s
    let digits := s.takeWhile fun c => (digitIn? base c).isSome
    let n := digits.foldl (fun n c => n * base + (digitIn? base c).getD 0) 0
    (if negative then -(n : Int) else n, !digits.isEmpty && digits.length == s.length)

/-- A fraction of natural numbers, rounded; a half goes to the even neighbor. -/
def roundHalfEven (numerator denominator : Nat) : Nat :=
  let q := numerator / denominator
  let rest := 2 * (numerator % denominator)
  if rest < denominator || (rest == denominator && q % 2 == 0) then q else q + 1

/-- A decimal number with so many places, whether it is negative, and whether it is written by the
rules. -/
def decimalPlaces (places : Nat) (arg : String) : String × Bool × Bool :=
  let (negative, s) := cutSign (arg.toList.dropWhile (· == ' '))
  let whole := s.takeWhile Char.isDigit
  let rest := s.dropWhile Char.isDigit
  let (part, rest) :=
    match rest with
    | '.' :: r => (r.takeWhile Char.isDigit, r.dropWhile Char.isDigit)
    | r => ([], r)
  let n := (whole ++ part).foldl (fun n c => n * 10 + (c.toNat - 48)) 0
  let scaled := toString (roundHalfEven (n * Nat.pow 10 places) (Nat.pow 10 part.length))
  let padded := String.ofList (List.replicate (places + 1 - scaled.length) '0') ++ scaled
  let cut := padded.length - places
  let text := String.ofList (padded.toList.take cut) ++
    (if places == 0 then "" else "." ++ String.ofList (padded.toList.drop cut))
  (text, negative, arg.isEmpty || (rest.isEmpty && !(whole ++ part).isEmpty))

/-- The digits of a number in a base; a negative one is taken as a word of 64 bits. -/
def wordDigits (base : Nat) (n : Int) : String :=
  String.ofList (Nat.toDigits base (n % UInt64.size).toNat)

/-! ## Directives -/

/-- The bytes of a directive for an argument, and whether the argument suits it; none if there is
no such directive. -/
def directive? (l : Layout) (kind : Char) (arg : String) : Option (List UInt8 × Bool) :=
  let (n, fine) := integer arg
  let decimal := (l.fillNumber l.precision.isNone (n < 0) (toString n.natAbs), fine)
  let word (digits : String) := (({ l with flags := l.flags.filter fun c => c != '+' && c != ' ' } :
    Layout).fillNumber l.precision.isNone false digits, fine)
  match kind with
  | 's' =>
    let bytes := arg.toUTF8.toList
    some (l.fill ((l.precision.map fun n => bytes.take n).getD bytes), true)
  | 'b' => some (l.fill (escapes arg), true)
  | 'c' => some (l.fill (arg.toUTF8.toList.take 1), true)
  | 'd' => some decimal
  | 'i' => some decimal
  | 'u' => some (word (wordDigits 10 n))
  | 'x' => some (word (wordDigits 16 n))
  | 'X' => some (word (wordDigits 16 n).toUpper)
  | 'o' => some (word (wordDigits 8 n))
  | 'f' =>
    let (text, negative, fine) := decimalPlaces (l.precision.getD 6) arg
    some (l.fillNumber true negative text, fine)
  | _ => none

/-- What one pass through a format gives: its bytes, the arguments that are left, and those that
are no numbers though they should be. -/
structure Filled where
  bytes : List UInt8
  left : List String
  wrong : List String

namespace Filled

/-- Puts bytes in front. -/
def behind (bytes : List UInt8) (f : Filled) : Filled := { f with bytes := bytes ++ f.bytes }

end Filled

/-- One pass through a format. Every step reads a character, so the length of the format is fuel
enough. -/
def pass : Nat → List Char → List String → Filled
  | 0, _, args => ⟨[], args, []⟩
  | _ + 1, [], args => ⟨[], args, []⟩
  | fuel + 1, '\\' :: r, args =>
    let (bytes, r) := escapeBytes r
    (pass fuel r args).behind bytes
  | fuel + 1, '%' :: '%' :: r, args => (pass fuel r args).behind [37]
  | fuel + 1, '%' :: r, args =>
    let (layout, r) := readLayout r
    match r with
    | kind :: r =>
      let arg := args.headD ""
      match directive? layout kind arg with
      | some (bytes, fine) =>
        let f := (pass fuel r args.tail).behind bytes
        if fine then f else { f with wrong := arg :: f.wrong }
      | none => ⟨[], [], []⟩
    | [] => ⟨[], [], []⟩
  | fuel + 1, c :: r, args => (pass fuel r args).behind (bytesOf c)

/-- A format filled again and again until no arguments are left. -/
def passes (format : String) : Nat → List String → Filled
  | 0, _ => ⟨[], [], []⟩
  | fuel + 1, args =>
    let first := pass format.length format.toList args
    if first.left.isEmpty || first.left.length == args.length then first
    else
      let more := passes format fuel first.left
      ⟨first.bytes ++ more.bytes, more.left, first.wrong ++ more.wrong⟩

/-- A format filled with arguments, and the arguments that are no numbers though they should be. -/
def filled (format : String) (args : List String) : Filled := passes format (args.length + 1) args

end AgentDesk.Shell
