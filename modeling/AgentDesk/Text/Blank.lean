/-!
# Blank characters and trimming

A character is blank when it has the Unicode property `White_Space`. Trimming removes blanks
from the ends of a text. The functions on lists of characters are the definitions; those on
strings wrap them.

## Main definitions

* `isBlank` — the property.
* `dropBlank`, `dropBlankEnd`, `strip` — trimming on lists of characters.
* `trim`, `trimStart`, `trimEnd` — the same on strings.
-/

namespace AgentDesk.Text

/-- The characters with the property `White_Space`. -/
def isBlank (c : Char) : Bool :=
  let n := c.toNat
  (9 ≤ n && n ≤ 13) || n == 0x20 || n == 0x85 || n == 0xA0 || n == 0x1680 ||
    (0x2000 ≤ n && n ≤ 0x200A) || n == 0x2028 || n == 0x2029 || n == 0x202F ||
    n == 0x205F || n == 0x3000

/-- Removes the blanks in front. -/
def dropBlank (s : List Char) : List Char := s.dropWhile isBlank

/-- Removes the characters that satisfy `p` at the end. -/
def dropEndWhile (p : Char → Bool) (s : List Char) : List Char :=
  (s.reverse.dropWhile p).reverse

/-- Removes the blanks at the end. -/
def dropBlankEnd (s : List Char) : List Char := dropEndWhile isBlank s

/-- Removes the blanks at both ends. -/
def strip (s : List Char) : List Char := dropBlankEnd (dropBlank s)

/-- Removes the blanks at both ends of a string. -/
def trim (s : String) : String := String.ofList (strip s.toList)

/-- Removes the blanks in front of a string. -/
def trimStart (s : String) : String := String.ofList (dropBlank s.toList)

/-- Removes the blanks at the end of a string. -/
def trimEnd (s : String) : String := String.ofList (dropBlankEnd s.toList)

/-- Removes every trailing copy of `c`. -/
def trimEndChar (c : Char) (s : String) : String :=
  String.ofList (dropEndWhile (· == c) s.toList)

/-- Whether a string holds blanks only. -/
def isBlankText (s : String) : Bool := s.toList.all isBlank

end AgentDesk.Text
