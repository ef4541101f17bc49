/-!
# Bytes as text

Three bytes are written as four characters of an alphabet of 64. What is missing in the last group
is filled up with equality signs.

## Main definitions

* `Text.base64`.
-/

namespace AgentDesk.Text

/-- The alphabet. -/
def base64Alphabet : List Char :=
  "ABCDEFGHIJKLMNOPQRSTUVWXYZabcdefghijklmnopqrstuvwxyz0123456789+/".toList

/-- The character for a number below 64. -/
def base64Char (n : Nat) : Char := base64Alphabet.getD n '='

/-- The characters of a group of three bytes, taken as one number. -/
def base64Group (n : Nat) : List Char :=
  [base64Char (n / 262144 % 64), base64Char (n / 4096 % 64), base64Char (n / 64 % 64),
    base64Char (n % 64)]

/-- The groups of bytes, with the characters found so far in reverse. -/
def base64From (found : List Char) : List UInt8 → List Char
  | a :: b :: c :: rest =>
    base64From ((base64Group (a.toNat * 65536 + b.toNat * 256 + c.toNat)).reverse ++ found) rest
  | [a, b] => found.reverse ++ (base64Group (a.toNat * 65536 + b.toNat * 256)).take 3 ++ ['=']
  | [a] => found.reverse ++ (base64Group (a.toNat * 65536)).take 2 ++ ['=', '=']
  | [] => found.reverse

/-- Bytes as text. -/
def base64 (bytes : List UInt8) : String := String.ofList (base64From [] bytes)

end AgentDesk.Text
