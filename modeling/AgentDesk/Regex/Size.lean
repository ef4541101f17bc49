import AgentDesk.Regex.Basic
/-!
# The size of an expression

An expression is matched by a machine that reads the bytes of a text, and every repetition with a
number is written out in it. A set of characters beyond ASCII takes many states of the machine: one
for each range of bytes, and the ranges that several characters start with are shared. An expression
whose machine is too large, or which is too deep, has no meaning.

## Main definitions

* `CharSet.ranges` — the ranges of a set.
* `byteRanges` — the ranges of bytes that write a range of characters.
* `Regex.bytes`, `Regex.fits`.
-/

namespace AgentDesk.Regex

/-! ## Ranges of a set -/

namespace CharSet

/-- Numbers among which are all where a character belongs to some runs and the one in front does
not, or the other way round. -/
def runEdges (rows : List (List Text.Run)) : List Nat :=
  rows.flatten.flatMap fun r =>
    if r.step == 1 then [r.first, r.last + 1]
    else (List.range ((r.last - r.first) / r.step + 1)).flatMap fun i =>
      [r.first + i * r.step, r.first + i * r.step + 1]

/-- Numbers among which are all where a character belongs to a set and the one in front does not,
or the other way round. -/
def edges : CharSet → List Nat
  | empty => []
  | range a b => [a, b + 1]
  | runs rows => runEdges rows
  | word => [48, 58, 65, 91, 95, 96, 97, 123] ++ runEdges wordRows
  | blank =>
    [0x09, 0x0E, 0x20, 0x21, 0x85, 0x86, 0xA0, 0xA1, 0x1680, 0x1681, 0x2000, 0x200B, 0x2028, 0x202A,
      0x202F, 0x2030, 0x205F, 0x2060, 0x3000, 0x3001]
  | union a b => a.edges ++ b.edges
  | inter a b => a.edges ++ b.edges
  | except a b => a.edges ++ b.edges
  | complement a => a.edges
  | caseless a => a.edges ++ a.edges.flatMap fun n => (variants n).flatMap fun m => [m, m + 1]

/-- The ranges between ascending edges that belong to a set; the last one is open. -/
def rangesFrom (set : CharSet) (current : Option Nat) : List Nat → List (Nat × Nat)
  | [] => (current.map fun first => (first, 0x10FFFF)).toList
  | e :: rest =>
    match current, set.holds e with
    | none, true => rangesFrom set (some e) rest
    | some first, false => (first, e - 1) :: rangesFrom set none rest
    | current, _ => rangesFrom set current rest

/-- The ranges of a set, in order. -/
def ranges (set : CharSet) : List (Nat × Nat) :=
  set.rangesFrom none <| ((0 :: set.edges).filter (· ≤ 0x10FFFF)).mergeSort (· ≤ ·)

end CharSet

/-! ## Ranges of bytes -/

/-- The last characters that are written with one, two and three bytes. -/
def lastOfLengths : List Nat := [0x7F, 0x7FF, 0xFFFF]

/-- The bytes of a character by its number. -/
def bytesOf (n : Nat) : List UInt8 := (Char.ofNat n).toString.toUTF8.toList

/-- The place at which a range of characters has to be cut, so that both parts are nearer to
ranges of bytes: the first character of the second part. -/
def cut? (first last : Nat) : Option Nat :=
  if first < 0xE000 && 0xD7FF < last && first ≤ 0xD7FF then some 0xE000
  else
    match lastOfLengths.find? fun m => first ≤ m && m < last with
    | some m => some (m + 1)
    | none =>
      if last ≤ 0x7F then none
      else [64, 4096, 262144].findSome? fun unit =>
        if first / unit == last / unit then none
        else if first % unit != 0 then some ((first / unit + 1) * unit)
        else if last % unit != unit - 1 then some (last / unit * unit)
        else none

/-- The sequences of ranges of bytes that write a range of characters. A range is cut a few times
for each of its bytes, at either end. -/
def byteRanges : Nat → Nat → Nat → List (List (UInt8 × UInt8))
  | 0, _, _ => []
  | fuel + 1, first, last =>
    if last < first then []
    else
      match cut? first last with
      | some middle =>
        byteRanges fuel first (if middle == 0xE000 then min last 0xD7FF else middle - 1) ++
          byteRanges fuel middle last
      | none => [(bytesOf first).zip (bytesOf last)]

/-- The number of elements at the start of a list that it does not share with another. -/
def unshared [BEq α] : List α → List α → Nat
  | a :: as, b :: bs => if a == b then unshared as bs else (a :: as).length
  | as, _ => as.length

/-- The number of states for sequences in order, given the one in front of them. -/
def sharedStates [BEq α] (previous : List α) : List (List α) → Nat
  | [] => 0
  | s :: rest => unshared s previous + sharedStates s rest

/-! ## States -/

/-- The bytes that a state takes. -/
def stateBytes : Nat := 32

/-- The bytes that a set takes. -/
def CharSet.bytes (set : CharSet) : Nat :=
  match set.ranges with
  | [(a, b)] =>
    if a == b then stateBytes * (bytesOf a).length
    else if b ≤ 0x7F then 2 * stateBytes + 8
    else
      let found := byteRanges 32 a b
      stateBytes * (2 + sharedStates [] found) + 4 * found.length
  | ranges =>
    if ranges.all fun r => r.2 ≤ 0x7F then 2 * stateBytes + 8 * ranges.length
    else
      let found := ranges.flatMap fun (a, b) => byteRanges 32 a b
      stateBytes * (2 + sharedStates [] found) + 4 * found.length

/-- The number of elements of an expression when every repetition is written out. -/
def size : Regex → Nat
  | nothing => 1
  | char _ => 1
  | anchor _ => 1
  | seq a b => a.size + b.size
  | alt a b => a.size + b.size + 1
  | times a least most => 1 + a.size * (max 1 (most.getD (least + 1)))
  | group a => a.size

/-- The bytes that the machine of an expression takes. -/
def bytes : Regex → Nat
  | nothing => stateBytes
  | char set => set.bytes
  | anchor _ => stateBytes
  | seq a b => a.bytes + b.bytes
  | alt a b => a.bytes + b.bytes + 2 * stateBytes
  | times a least most =>
    let once := a.bytes
    match most with
    | none => once * max 1 least + 3 * stateBytes
    | some most => once * max least most + stateBytes * (most - least + 2)
  | group a => a.bytes

/-- The bytes that a machine may take. -/
def byteLimit : Nat := 10 * 1024 * 1024

/-- No set of characters takes more bytes than this. -/
def widestSet : Nat := 128 * 1024

/-- How deep things stand inside of one another. What is put together from several parts in a row
counts once; `counted` tells that it was counted already. -/
def depth : Bool → Regex → Nat
  | _, nothing => 0
  | _, char _ => 0
  | _, anchor _ => 0
  | counted, seq a b => max (a.depth false) (b.depth true) + (if counted then 0 else 1)
  | counted, alt a b => max (a.depth false) (b.depth true) + (if counted then 0 else 1)
  | _, times a _ _ => a.depth false + 1
  | _, group a => a.depth false + 1

/-- How deep things may stand inside of one another. -/
def depthLimit : Nat := 250

/-- Whether an expression is neither too deep nor too large. Most expressions are too short to be
too large. -/
def fits (r : Regex) : Bool :=
  r.depth false ≤ depthLimit && (r.size * widestSet ≤ byteLimit || r.bytes ≤ byteLimit)

end AgentDesk.Regex
