/-!
# Reading bytes as text

Bytes that are no text are still shown: each longest run that starts a character without ending it,
or that starts none, is replaced by one mark.

## Main definitions

* `Text.decodeLossy` — the text of bytes.
-/

namespace AgentDesk.Text

/-- What stands for bytes that are no text. -/
def replacementMark : Char := Char.ofNat 0xFFFD

/-- The bytes that may follow a first byte, from the second one on; none if no character of more
than one byte starts with it. -/
def followers (b : Nat) : List (Nat × Nat) :=
  let any := (0x80, 0xBF)
  if 0xC2 ≤ b ∧ b ≤ 0xDF then [any]
  else if b = 0xE0 then [(0xA0, 0xBF), any]
  else if b = 0xED then [(0x80, 0x9F), any]
  else if 0xE1 ≤ b ∧ b ≤ 0xEF then [any, any]
  else if b = 0xF0 then [(0x90, 0xBF), any, any]
  else if 0xF1 ≤ b ∧ b ≤ 0xF3 then [any, any, any]
  else if b = 0xF4 then [(0x80, 0x8F), any, any]
  else []

/-- The bits of a first byte that belong to its character, given how many bytes follow. -/
def leadBits (b count : Nat) : Nat := b % Nat.pow 2 (6 - count)

/-- Reads the bytes that follow a first one; the value is none if they do not complete a
character. -/
def following (value : Nat) : List (Nat × Nat) → List UInt8 → Option Nat × List UInt8
  | [], bytes => (some value, bytes)
  | _ :: _, [] => (none, [])
  | (low, high) :: ranges, b :: bytes =>
    if low ≤ b.toNat ∧ b.toNat ≤ high then following (value * 64 + b.toNat % 64) ranges bytes
    else (none, b :: bytes)

/-- The first character of bytes, and the bytes behind it. -/
def firstChar (b : UInt8) (bytes : List UInt8) : Char × List UInt8 :=
  if b.toNat < 0x80 then (Char.ofNat b.toNat, bytes)
  else
    match followers b.toNat with
    | [] => (replacementMark, bytes)
    | ranges =>
      match following (leadBits b.toNat ranges.length) ranges bytes with
      | (some n, rest) => (Char.ofNat n, rest)
      | (none, rest) => (replacementMark, rest)

/-- The characters of bytes, with those found so far in reverse. Each takes a byte, so the number
of bytes is fuel enough. -/
def decodeFrom : Nat → List Char → List UInt8 → List Char
  | fuel + 1, cs, b :: bytes =>
    let (c, rest) := firstChar b bytes
    decodeFrom fuel (c :: cs) rest
  | _, cs, _ => cs.reverse

/-- The text of bytes. -/
def decodeLossy (bytes : List UInt8) : String :=
  String.ofList (decodeFrom bytes.length [] bytes)

end AgentDesk.Text
