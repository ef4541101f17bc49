import AgentDesk.Text.Category
/-!
# Texts in quotes

A text is shown between double quotes. What could not be told apart on a screen is written as an
escape: controls, blanks other than the space, characters that are not assigned, and marks that
join the character in front of them.

## Main definitions

* `Text.quoted` — a text in quotes.
* `Text.quotedList` — a list of texts in brackets.
-/

namespace AgentDesk.Text

/-- The spacing marks and other characters that join the character in front of them. -/
def joiningRuns : List Run := Run.list [
  "9BE 9D7 B3E B57 BBE BD7 CC0 CC2 CC7 CC8 CCA CCB CD5 CD6 D3E D57 DCF DDF 1715 1734 1B35 1B3B",
  "1B3D 1B43 1B44 1BAA 1BF2 1BF3 200C 302E 302F A953 A9C0 FF9E FF9F 111C0 11235 1133E 1134D 11357",
  "113B8 113C2 113C5 113C7-113C9 113CF 114B0 114BD 115AF 116B6 11930 1193D 11F41 16FF0 16FF1",
  "1D165 1D166 1D16D-1D172 E0020-E007F"]

/-- Whether a character joins the one in front of it. -/
def isJoining (c : Char) : Bool :=
  joiningRuns.any (Run.holds c.toNat) || (categoryOf? c).any fun k => k == "Mn" || k == "Me"

/-- Whether a character can be seen: it is assigned, and neither a control nor a separator. -/
def isVisible (c : Char) : Bool :=
  c == ' ' || (categoryOf? c).any fun k => !(["Zs", "Zl", "Zp", "Cc", "Cf", "Co"].elem k)

/-- Whether a character stands for itself in quotes. -/
def standsForItself (c : Char) : Bool :=
  if c.toNat < 127 then 32 ≤ c.toNat else isVisible c && !isJoining c

/-- A number in hexadecimal. -/
def hexText (n : Nat) : List Char := Nat.toDigits 16 n

/-- A character as it is written in quotes. -/
def quotedChar (c : Char) : List Char :=
  if c == '"' then ['\\', '"']
  else if c == '\\' then ['\\', '\\']
  else if c == '\n' then ['\\', 'n']
  else if c == '\r' then ['\\', 'r']
  else if c == '\t' then ['\\', 't']
  else if c.toNat = 0 then ['\\', '0']
  else if standsForItself c then [c]
  else ['\\', 'u', '{'] ++ hexText c.toNat ++ ['}']

/-- A text in quotes. -/
def quoted (s : String) : String :=
  String.ofList ('"' :: s.toList.flatMap quotedChar ++ ['"'])

/-- A list of texts in brackets. -/
def quotedList (texts : List String) : String :=
  let inside := join ", " (texts.map quoted)
  s!"[{inside}]"

end AgentDesk.Text
