import AgentDesk.Json.Document
import AgentDesk.Text.Utf8
/-!
# Percent signs in addresses

In an address a byte may be written as a percent sign and two hexadecimal digits. A percent sign
without two such digits stands for itself.

## Main definitions

* `Text.percentDecoded`.
-/

namespace AgentDesk.Text

/-- The byte that two hexadecimal digits write. -/
def hexByte? (high low : UInt8) : Option UInt8 := do
  let h ← Document.hex? (Char.ofNat high.toNat)
  let l ← Document.hex? (Char.ofNat low.toNat)
  pure (UInt8.ofNat (16 * h + l))

/-- The bytes that written bytes stand for. -/
def percentBytes : List UInt8 → List UInt8
  | [] => []
  | [b] => [b]
  | [a, b] => [a, b]
  | b :: high :: low :: rest =>
    match if b == 37 then hexByte? high low else none with
    | some byte => byte :: percentBytes rest
    | none => b :: percentBytes (high :: low :: rest)
termination_by bytes => bytes.length

/-- The text that a written text stands for. -/
def percentDecoded (text : String) : String :=
  decodeLossy (percentBytes text.toUTF8.toList)

end AgentDesk.Text
