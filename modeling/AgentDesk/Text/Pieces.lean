/-!
# Cutting text into pieces

Splitting at separator characters, splitting into lines, joining, and finding one text inside
another. The functions on lists of characters are the definitions; the string versions wrap them.
Texts may hold millions of characters, so every recursion over a text is a fold or carries an
accumulator.

## Main definitions

* `splitOn p s` — the pieces of `s` between the elements that satisfy `p`, empty ones included.
* `linesOf s` — the lines of `s`: a line ends at a line feed or at the end of the text, and
  a carriage return in front of its line feed belongs to the terminator.
* `dropPrefix?`, `cutAt?`, `piecesAt`, `replaceText` — occurrences of one text in another.
-/

namespace AgentDesk.Text

/-- Puts one element in front of the first piece, or opens a new piece if it separates. -/
def splitStep (p : α → Bool) (c : α) : List (List α) → List (List α)
  | [] => [[]]
  | w :: ws => if p c then [] :: w :: ws else (c :: w) :: ws

/-- The pieces of `s` between the elements that satisfy `p`; there is always at least one. -/
def splitOn (p : α → Bool) (s : List α) : List (List α) :=
  s.foldr (splitStep p) [[]]

/-- The pieces of a string between copies of `c`. -/
def splitChar (c : Char) (s : String) : List String :=
  (splitOn (· == c) s.toList).map String.ofList

/-- The line without the carriage return that stood in front of its line feed. -/
def dropReturn (l : List Char) : List Char :=
  match l.reverse with
  | '\r' :: r => r.reverse
  | _ => l

/-- The lines of a text. What follows the last line feed is a line only if it is not empty. -/
def linesOf (s : List Char) : List (List Char) :=
  match (splitOn (· == '\n') s).reverse with
  | [] => []
  | rest :: ended =>
    (ended.map dropReturn).reverse ++ (if rest.isEmpty then [] else [rest])

/-- The lines of a string. -/
def lines (s : String) : List String := (linesOf s.toList).map String.ofList

/-- What follows `p` in `s`, if `s` begins with `p`. -/
def dropPrefix? [BEq α] : List α → List α → Option (List α)
  | [], s => some s
  | _ :: _, [] => none
  | a :: p, b :: s => if a == b then dropPrefix? p s else none

/-- Whether `s` begins with `p`. -/
def startsWith (p s : List Char) : Bool := (dropPrefix? p s).isSome

/-- Looks for the first occurrence of `p`, with the text already passed kept in reverse. -/
def cutFrom (p passed : List Char) : List Char → Option (List Char × List Char)
  | [] => if p.isEmpty then some (passed.reverse, []) else none
  | c :: r =>
    match dropPrefix? p (c :: r) with
    | some rest => some (passed.reverse, rest)
    | none => cutFrom p (c :: passed) r

/-- The text before the first occurrence of `p` in `s` and the text after it. -/
def cutAt? (p s : List Char) : Option (List Char × List Char) := cutFrom p [] s

/-- Whether `p` occurs in `s`. -/
def occursIn (p s : List Char) : Bool := (cutAt? p s).isSome

/-- Cuts `s` at the occurrences of `p`, with the pieces found so far kept in reverse. One cut
uses up at least one character, so the length of the text is fuel enough. -/
def piecesFrom (p : List Char) : Nat → List (List Char) → List Char → List (List Char)
  | 0, found, s => (s :: found).reverse
  | n + 1, found, s =>
    match cutAt? p s with
    | some (before, after) => piecesFrom p n (before :: found) after
    | none => (s :: found).reverse

/-- The pieces of `s` between the occurrences of `p`, which are taken from the left without
overlap; `s` alone when `p` is empty. -/
def piecesAt (p s : List Char) : List (List Char) :=
  if p.isEmpty then [s] else piecesFrom p s.length [] s

/-- Replaces every occurrence of `p`, taken from the left without overlap. -/
def replaceText (p q s : List Char) : List Char := List.intercalate q (piecesAt p s)

/-- How often `p` occurs in `s`, counted from the left without overlap. -/
def countText (p s : List Char) : Nat := (piecesAt p s).length - 1

/-- Joins strings with a separator between them. -/
def join (sep : String) (parts : List String) : String := String.intercalate sep parts

/-- Replaces every occurrence of a string. -/
def replace (p q s : String) : String := String.ofList (replaceText p.toList q.toList s.toList)

/-- Whether one string occurs in another. -/
def contains (p s : String) : Bool := occursIn p.toList s.toList

/-- What follows the string `p` in `s`, if `s` begins with `p`. -/
def stripPrefix? (p s : String) : Option String :=
  (dropPrefix? p.toList s.toList).map String.ofList

/-- What precedes the string `p` in `s`, if `s` ends with `p`. -/
def stripSuffix? (p s : String) : Option String :=
  (dropPrefix? p.toList.reverse s.toList.reverse).map fun r => String.ofList r.reverse

/-- The first `n` characters of a string that has more; `none` if it has no more than `n`. -/
def firstChars? (n : Nat) (s : String) : Option String :=
  let cs := s.toList
  if (cs.drop n).isEmpty then none else some (String.ofList (cs.take n))

/-- Pads on the right with spaces up to `n` characters. -/
def padRight (n : Nat) (s : String) : String :=
  String.ofList (s.toList ++ List.replicate (n - s.length) ' ')

/-- Pads on the left with spaces up to `n` characters. -/
def padLeft (n : Nat) (s : String) : String :=
  String.ofList (List.replicate (n - s.length) ' ' ++ s.toList)

end AgentDesk.Text
