import AgentDesk.Regex.Size
/-!
# Reading a regular expression

The written form of an expression. An expression that is not written by the rules, that looks
around or back, or that could match a part of a character has no meaning.

## Main definitions

* `Flags` — how the text that follows is read.
* `Regex.parse?`.
-/

namespace AgentDesk.Regex

/-- How the text that follows is read. -/
structure Flags where
  caseless : Bool
  lines : Bool
  dotAll : Bool
  unicode : Bool
  verbose : Bool
  returns : Bool
deriving Repr, BEq, DecidableEq

namespace Flags

/-- How an expression is read at first. -/
def standard : Flags := ⟨false, false, false, true, false, false⟩

/-- Sets one flag. The flag for lazy repetitions does not change what matches. -/
def set? (f : Flags) (value : Bool) : Char → Option Flags
  | 'i' => some { f with caseless := value }
  | 'm' => some { f with lines := value }
  | 's' => some { f with dotAll := value }
  | 'u' => some { f with unicode := value }
  | 'x' => some { f with verbose := value }
  | 'R' => some { f with returns := value }
  | 'U' => some f
  | _ => none

/-- Reads the flags up to a colon or a closing parenthesis; tells whether a colon was read. -/
def read? (f : Flags) (value : Bool) (seen : List Char) :
    List Char → Option (Flags × Bool × List Char)
  | [] => none
  | ':' :: r => if seen.head? == some '-' then none else some (f, true, r)
  | ')' :: r => if seen.isEmpty || seen.head? == some '-' then none else some (f, false, r)
  | c :: r =>
    if seen.elem c then none
    else if c == '-' then read? f false (c :: seen) r
    else (f.set? value c).bind fun f => read? f value (c :: seen) r

end Flags

/-- The end of a comment. -/
def endOfLine (s : List Char) : List Char := s.dropWhile (· != '\n')

/-- Skips blanks and comments where they have no meaning; every comment ends on a character, so
the length of the text is fuel enough. -/
def skipFrom (f : Flags) : Nat → List Char → List Char
  | 0, s => s
  | fuel + 1, s =>
    if !f.verbose then s
    else
      match s.dropWhile Text.isBlank with
      | '#' :: r => skipFrom f fuel (endOfLine r)
      | s => s

/-- Skips blanks and comments where they have no meaning. -/
def skip (f : Flags) (s : List Char) : List Char := skipFrom f s.length s

/-! ## Single characters -/

/-- The value of a hexadecimal digit. -/
def hexDigit? (c : Char) : Option Nat :=
  let n := c.toNat
  if 48 ≤ n && n ≤ 57 then some (n - 48)
  else if 65 ≤ n && n ≤ 70 then some (n - 55)
  else if 97 ≤ n && n ≤ 102 then some (n - 87)
  else none

/-- The number that hexadecimal digits write; `none` if there are none or others. -/
def hexNumber? (s : List Char) : Option Nat :=
  if s.isEmpty then none
  else s.foldl (fun n c => n.bind fun n => (hexDigit? c).map (n * 16 + ·)) (some 0)

/-- The character of a number. -/
def charOf? (n : Nat) : Option Char := if n.isValidChar then some (Char.ofNat n) else none

/-- Reads a character by its number: `width` digits, or any digits in braces. -/
def numbered? (width : Nat) (s : List Char) : Option (Char × List Char) :=
  match s with
  | '{' :: r =>
    match r.dropWhile (· != '}') with
    | _ :: after => do
      let n ← hexNumber? (r.takeWhile (· != '}'))
      (charOf? n).map (·, after)
    | [] => none
  | s =>
    if s.length < width then none
    else do
      let n ← hexNumber? (s.take width)
      (charOf? n).map (·, s.drop width)

/-- The set of a character as it is written. -/
def literal? (f : Flags) (c : Char) : Option CharSet :=
  if !f.unicode && c.toNat ≥ 128 then none
  else some (if f.caseless then .caseless (.single c) else .single c)

/-- A negated set; without Unicode it could match a part of a character. -/
def negated? (f : Flags) (set : CharSet) : Option CharSet :=
  if f.unicode then some (.complement set) else none

/-- The set of a property, which may be written as a value of a named property. -/
def property? (f : Flags) (text : String) : Option CharSet := do
  if !f.unicode then none
  else
    let (no, text) := match text.toList with
      | '^' :: r => (true, String.ofList r)
      | _ => (false, text)
    let (no, value) := match Text.splitOn (fun c => c == '=' || c == ':') text.toList with
      | [key, value] =>
        if key.getLast? == some '!' then (!no, String.ofList value) else (no, String.ofList value)
      | _ => (no, text)
    let set ← CharSet.named? value
    let set := if f.caseless then .caseless set else set
    pure (if no then .complement set else set)

/-- What an escape stands for. -/
inductive Escape where
  | char (c : Char)
  | set (s : CharSet)
  | anchor (a : Anchor)

/-- Reads the name of a property behind `\p`. -/
def propertyEscape? (f : Flags) (no : Bool) (s : List Char) : Option (Escape × List Char) := do
  let (text, rest) ← match s with
    | '{' :: r =>
      match r.dropWhile (· != '}') with
      | _ :: after => some (r.takeWhile (· != '}'), after)
      | [] => none
    | c :: r => some ([c], r)
    | [] => none
  let set ← property? f (String.ofList text)
  pure (.set (if no then .complement set else set), rest)

/-- Reads the kind of an edge in braces behind `\b`; the braces may also be a repetition. -/
def edge? (f : Flags) (s : List Char) : Option (Escape × List Char) :=
  let kinds : List (String × Anchor) :=
    [("\x7bstart\x7d", .wordStart f.unicode), ("\x7bend\x7d", .wordEnd f.unicode),
      ("\x7bstart-half\x7d", .wordStartHalf f.unicode),
      ("\x7bend-half\x7d", .wordEndHalf f.unicode)]
  match kinds.findSome? fun (text, a) => (Text.dropPrefix? text.toList s).map (a, ·) with
  | some (a, rest) => some (.anchor a, rest)
  | none => some (.anchor (.wordEdge f.unicode), s)

/-- Reads what follows a backslash. -/
def escape? (f : Flags) : List Char → Option (Escape × List Char)
  | [] => none
  | 'd' :: r => some (.set (if f.unicode then .digit else .asciiDigit), r)
  | 'D' :: r => (negated? f .digit).map (.set ·, r)
  | 's' :: r => some (.set (if f.unicode then .blank else .asciiBlank), r)
  | 'S' :: r => (negated? f .blank).map (.set ·, r)
  | 'w' :: r => some (.set (if f.unicode then .word else .asciiWord), r)
  | 'W' :: r => (negated? f .word).map (.set ·, r)
  | 'p' :: r => propertyEscape? f false r
  | 'P' :: r => propertyEscape? f true r
  | 'x' :: r => (numbered? 2 r).map fun (c, r) => (.char c, r)
  | 'u' :: r => (numbered? 4 r).map fun (c, r) => (.char c, r)
  | 'U' :: r => (numbered? 8 r).map fun (c, r) => (.char c, r)
  | 'A' :: r => some (.anchor .textStart, r)
  | 'z' :: r => some (.anchor .textEnd, r)
  | 'b' :: r => edge? f r
  | 'B' :: r => some (.anchor (.noWordEdge f.unicode), r)
  | '<' :: r => some (.anchor (.wordStart f.unicode), r)
  | '>' :: r => some (.anchor (.wordEnd f.unicode), r)
  | 'a' :: r => some (.char '\x07', r)
  | 'f' :: r => some (.char '\x0C', r)
  | 't' :: r => some (.char '\t', r)
  | 'n' :: r => some (.char '\n', r)
  | 'r' :: r => some (.char '\r', r)
  | 'v' :: r => some (.char '\x0B', r)
  | c :: r => if c.toNat < 128 && !c.isAlphanum then some (.char c, r) else none

/-! ## Sets in brackets -/

/-- How two sets are combined. -/
inductive SetOp where
  | inter
  | except
  | either

/-- The combination of two sets. -/
def SetOp.combine (a b : CharSet) : SetOp → CharSet
  | .inter => .inter a b
  | .except => .except a b
  | .either => .except (.union a b) (.inter a b)

/-- The set read so far, combined with what stands in front of the last operator. -/
def closeSet (before : Option (CharSet × SetOp)) (items : List CharSet) : CharSet :=
  let here := CharSet.unions items.reverse
  match before with
  | some (a, op) => op.combine a here
  | none => here

/-- Reads a set by its name between colons, behind an opening bracket and a colon. -/
def colonSet? (f : Flags) (s : List Char) : Option (CharSet × List Char) := do
  let (no, s) := match s with
    | '^' :: r => (true, r)
    | s => (false, s)
  let (text, rest) ← Text.cutAt? [':', ']'] s
  let set ← CharSet.asciiNamed? (String.ofList text)
  let set := if f.caseless then .caseless set else set
  if no then (negated? f set).map (·, rest) else pure (set, rest)

/-- Reads one member of a set: a character or a set by its escape. -/
def member? (f : Flags) : List Char → Option (Escape × List Char)
  | [] => none
  | '\\' :: r =>
    match escape? f r with
    | some (.anchor _, _) => none
    | e => e
  | c :: r => some (.char c, r)

/-- The set of a member that stands alone. -/
def memberSet? (f : Flags) : Escape → Option CharSet
  | .char c => literal? f c
  | .set s => some s
  | .anchor _ => none

/-- Reads a member or a range of characters. -/
def rangeOrMember? (f : Flags) (s : List Char) : Option (CharSet × List Char) := do
  let (first, r) ← member? f s
  match skip f r with
  | '-' :: after =>
    match skip f after with
    | [] => none
    | ']' :: _ => (memberSet? f first).map (·, r)
    | '-' :: _ => (memberSet? f first).map (·, r)
    | after =>
      let (last, r) ← member? f after
      match first, last with
      | .char a, .char b =>
        if b < a then none
        else if !f.unicode && b.toNat ≥ 128 then none
        else
          let set := CharSet.range a.toNat b.toNat
          pure (if f.caseless then .caseless set else set, r)
      | _, _ => none
  | _ => (memberSet? f first).map (·, r)

mutual

/-- Reads a set behind its opening bracket. -/
def set? : Nat → Flags → List Char → Option (CharSet × List Char)
  | 0, _, _ => none
  | fuel + 1, f, s =>
    let (no, s) := match skip f s with
      | '^' :: r => (true, skip f r)
      | s => (false, s)
    let hyphens := (s.takeWhile (· == '-')).map CharSet.single
    let s := s.dropWhile (· == '-')
    let (items, s) := match s with
      | ']' :: r => if hyphens.isEmpty then ([CharSet.single ']'], r) else (hyphens, s)
      | s => (hyphens, s)
    match setItems? fuel f none items s with
    | some (set, rest) =>
      if no then (negated? f set).map (·, rest) else some (set, rest)
    | none => none

/-- Reads the members of a set up to its closing bracket. -/
def setItems? : Nat → Flags → Option (CharSet × SetOp) → List CharSet → List Char →
    Option (CharSet × List Char)
  | 0, _, _, _, _ => none
  | fuel + 1, f, before, items, s =>
    match skip f s with
    | [] => none
    | ']' :: r => some (closeSet before items, r)
    | '&' :: '&' :: r => setItems? fuel f (some (closeSet before items, .inter)) [] r
    | '-' :: '-' :: r => setItems? fuel f (some (closeSet before items, .except)) [] r
    | '~' :: '~' :: r => setItems? fuel f (some (closeSet before items, .either)) [] r
    | '[' :: r =>
      let named := match r with
        | ':' :: r => colonSet? f r
        | _ => none
      match named with
      | some (set, r) => setItems? fuel f before (set :: items) r
      | none =>
        match set? fuel f r with
        | some (set, r) => setItems? fuel f before (set :: items) r
        | none => none
    | s =>
      match rangeOrMember? f s with
      | some (set, r) => setItems? fuel f before (set :: items) r
      | none => none

end

/-! ## Expressions -/

/-- The largest number of a repetition. -/
def countMax : Nat := UInt32.size - 1

/-- Reads a number. -/
def count? (s : List Char) : Option (Nat × List Char) :=
  let digits := s.takeWhile Char.isDigit
  let n := digits.foldl (fun n c => n * 10 + (c.toNat - 48)) 0
  if digits.isEmpty || n > countMax then none else some (n, s.dropWhile Char.isDigit)

/-- Reads the bounds of a repetition behind its opening brace. -/
def bounds? (f : Flags) (s : List Char) : Option (Nat × Option Nat × List Char) := do
  let (least, r) ← count? (skip f s)
  match skip f r with
  | '}' :: r => pure (least, some least, r)
  | ',' :: r =>
    match skip f r with
    | '}' :: r => pure (least, none, r)
    | r =>
      let (most, r) ← count? r
      match skip f r with
      | '}' :: r => if most < least then none else pure (least, some most, r)
      | _ => none
  | _ => none

/-- Whether a character may stand in the name of a group. -/
def inGroupName (first : Bool) (c : Char) : Bool :=
  c == '_' || (if c.toNat < 128 then c.isAlpha else isWord c.toNat) ||
    (!first && (c.isDigit || c == '.' || c == '[' || c == ']'))

/-- Reads the name of a group up to its closing bracket. -/
def groupName? (s : List Char) : Option (String × List Char) :=
  match s.dropWhile (· != '>') with
  | _ :: after =>
    match s.takeWhile (· != '>') with
    | c :: r =>
      if inGroupName true c && r.all (inGroupName false) then some (String.ofList (c :: r), after)
      else none
    | [] => none
  | [] => none

/-- The alternatives read so far, the latest first, and the parts of the last one. -/
def closeBranches (branches parts : List Regex) : Regex :=
  branches.foldl (fun r b => .alt b r) (concat parts.reverse)

/-- Drops the mark of a lazy repetition. -/
def dropLazy : List Char → List Char
  | '?' :: r => r
  | s => s

/-- Reads alternatives up to a closing parenthesis or the end of the text. The names of groups
are collected, the alternatives and their parts are kept in reverse; `canRepeat` tells whether
the latest part may be repeated. Every step reads a character or ends, but opening a set takes
two steps, so twice the length of the text is fuel enough. -/
def branches? : Nat → Flags → List String → List Regex → List Regex → Bool → List Char →
    Option (Regex × List String × List Char)
  | 0, _, _, _, _, _, _ => none
  | fuel + 1, f, names, branches, parts, canRepeat, s =>
    let repeated (least : Nat) (most : Option Nat) (r : List Char) :=
      match parts with
      | p :: parts =>
        if canRepeat then
          branches? fuel f names branches (.times p least most :: parts) true (dropLazy r)
        else none
      | [] => none
    let part (r : Regex) (names : List String) (s : List Char) :=
      branches? fuel f names branches (r :: parts) true s
    let group (inner : Flags) (names : List String) (s : List Char) :=
      match branches? fuel inner names [] [] false s with
      | some (r, names, ')' :: rest) => part (.group r) names rest
      | _ => none
    let named (s : List Char) :=
      match groupName? s with
      | some (name, r) => if names.elem name then none else group f (name :: names) r
      | none => none
    match skip f s with
    | [] => some (closeBranches branches parts, names, [])
    | ')' :: r => some (closeBranches branches parts, names, ')' :: r)
    | '|' :: r => branches? fuel f names (concat parts.reverse :: branches) [] false r
    | '*' :: r => repeated 0 none r
    | '+' :: r => repeated 1 none r
    | '?' :: r => repeated 0 (some 1) r
    | '{' :: r =>
      match bounds? f r with
      | some (least, most, r) => repeated least most r
      | none => none
    | '(' :: '?' :: 'P' :: '<' :: r => named r
    | '(' :: '?' :: '<' :: r => named r
    | '(' :: '?' :: r =>
      match f.read? true [] r with
      | some (inner, true, r) => group inner names r
      | some (f, false, r) => branches? fuel f names branches parts false r
      | none => none
    | '(' :: r => group f names r
    | '[' :: r =>
      match set? fuel f r with
      | some (set, r) => part (.char set) names r
      | none => none
    | '.' :: r =>
      let line : CharSet := .union (.single '\n') (if f.returns then .single '\r' else .empty)
      let set : CharSet := if f.dotAll then .all else .complement line
      if f.unicode then part (.char set) names r else none
    | '^' :: r => part (.anchor (if f.lines then .lineStart f.returns else .textStart)) names r
    | '$' :: r => part (.anchor (if f.lines then .lineEnd f.returns else .textEnd)) names r
    | '\\' :: r =>
      match escape? f r with
      | some (.char c, r) =>
        match literal? f c with
        | some set => part (.char set) names r
        | none => none
      | some (.set set, r) => part (.char set) names r
      | some (.anchor a, r) => part (.anchor a) names r
      | none => none
    | c :: r =>
      match literal? f c with
      | some set => part (.char set) names r
      | none => none

/-- Reads an expression. -/
def parse? (text : String) : Option Regex :=
  let s := text.toList
  match branches? (2 * s.length + 2) .standard [] [] [] false s with
  | some (r, _, []) => if r.fits then some r else none
  | _ => none

end AgentDesk.Regex
