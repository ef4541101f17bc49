/-!
# Glob patterns

A pattern matches a text from its first to its last character: `?` stands for any character, `*`
for any characters, `**` for whole directories, and brackets for one character of a set. A pattern
that is not written by these rules has no meaning.

## Main definitions

* `Token`, `Pattern.parse?`, `Pattern.escape`.
* `Strictness` — what wildcards may not stand for.
* `Pattern.accepts` — whether a pattern matches a text.
-/

namespace AgentDesk.Glob

/-- A set of characters: single ones and ranges. -/
inductive Member where
  | single (c : Char)
  | range (first last : Char)
deriving Repr, BEq, DecidableEq

/-- Whether a character belongs. -/
def Member.holds (c : Char) : Member → Bool
  | .single d => c == d
  | .range a b => a ≤ c && c ≤ b

/-- One element of a pattern. -/
inductive Token where
  | char (c : Char)
  | any
  | sequence
  | directories
  | within (members : List Member)
  | except (members : List Member)
deriving Repr, BEq, DecidableEq

/-- The character that a token stands for, if it stands for one only. -/
def Token.char? : Token → Option Char
  | .char c => some c
  | _ => none

/-- A pattern. -/
abbrev Pattern := List Token

namespace Pattern

/-- The members of a set between brackets. -/
def members : List Char → List Member
  | a :: '-' :: b :: rest => .range a b :: members rest
  | a :: rest => .single a :: members rest
  | [] => []

/-- Cuts a set at its closing bracket, which cannot be the first character of the set. -/
def cutSet? : List Char → Option (List Member × List Char)
  | [] => none
  | first :: rest =>
    match rest.dropWhile (· != ']') with
    | _ :: after => some (members (first :: rest.takeWhile (· != ']')), after)
    | [] => none

/-- Whether directories may begin behind the character that was read last. -/
def mayBegin : Option Char → Bool
  | none => true
  | some c => c == '/'

/-- Reads the tokens of a pattern; `last` is the character in front of the text and `found` are the
tokens read so far, in reverse. Every step reads at least one character, so the length of the
text is fuel enough. -/
def parseFrom : Nat → Option Char → List Token → List Char → Option Pattern
  | _, _, found, [] => some found.reverse
  | 0, _, _, _ => none
  | fuel + 1, _, found, '?' :: rest => parseFrom fuel (some '?') (.any :: found) rest
  | fuel + 1, last, found, '*' :: rest =>
    match rest with
    | '*' :: '*' :: _ => none
    | '*' :: rest =>
      if !mayBegin last then none
      else
        let found :=
          match found with
          | .directories :: _ :: _ => found
          | _ => .directories :: found
        match rest with
        | [] => some found.reverse
        | '/' :: rest => parseFrom fuel (some '/') found rest
        | _ => none
    | _ => parseFrom fuel (some '*') (.sequence :: found) rest
  | fuel + 1, _, found, '[' :: '!' :: rest =>
    match cutSet? rest with
    | some (ms, rest) => parseFrom fuel (some ']') (.except ms :: found) rest
    | none => none
  | fuel + 1, _, found, '[' :: rest =>
    match cutSet? rest with
    | some (ms, rest) => parseFrom fuel (some ']') (.within ms :: found) rest
    | none => none
  | fuel + 1, _, found, c :: rest => parseFrom fuel (some c) (.char c :: found) rest

/-- Reads a pattern. -/
def parse? (text : String) : Option Pattern :=
  parseFrom text.length none [] text.toList

/-- The pattern that stands for a text and nothing else. -/
def escape (text : String) : String :=
  String.ofList <| text.toList.flatMap fun c =>
    if c == '?' || c == '*' || c == '[' || c == ']' then ['[', c, ']'] else [c]

/-- The text of a pattern that has no wildcards. -/
def literal? (p : Pattern) : Option String :=
  (p.mapM Token.char?).map String.ofList

end Pattern

/-- What wildcards may not stand for: a slash, or a dot at the start of a name. -/
structure Strictness where
  slash : Bool
  dot : Bool
deriving Repr, BEq, DecidableEq

/-- Wildcards that stand for anything. -/
def lax : Strictness := ⟨false, false⟩

/-- Wildcards that stand for what can be in a visible name. -/
def strict : Strictness := ⟨true, true⟩

/-- Whether a token that stands for one character stands for this one; `start` tells whether the
character is the first one of a name. -/
def Token.standsFor (s : Strictness) (start : Bool) (c : Char) : Token → Bool
  | .char d => c == d
  | .sequence => false
  | .directories => false
  | .any => !(s.slash && c == '/') && !(start && s.dot && c == '.')
  | .within ms => !(s.slash && c == '/') && !(start && s.dot && c == '.') && ms.any (·.holds c)
  | .except ms => !(s.slash && c == '/') && !(start && s.dot && c == '.') && !ms.any (·.holds c)

namespace Pattern

/-- Tries the tokens behind a wildcard at every place that the wildcard may reach. A sequence
stops at a slash that it may not stand for; directories end behind a slash or with the text. -/
def reach (s : Strictness) (whole : Bool) (next : Bool → List Char → Bool) :
    Bool → List Char → Bool
  | start, [] => whole && next start []
  | start, c :: rest =>
    if start && s.dot && c == '.' then false
    else
      let slash := c == '/'
      if whole then (slash && next true rest) || reach s whole next slash rest
      else if s.slash && slash then false
      else next slash rest || reach s whole next slash rest

/-- Whether the tokens match the text; `start` tells whether the text begins a name. -/
def acceptsFrom (s : Strictness) : Pattern → Bool → List Char → Bool
  | [], _, text => text.isEmpty
  | .sequence :: p, start, text =>
    acceptsFrom s p start text || reach s false (acceptsFrom s p) start text
  | .directories :: p, start, text =>
    acceptsFrom s p start text || reach s true (acceptsFrom s p) start text
  | _ :: _, _, [] => false
  | t :: p, start, c :: rest => t.standsFor s start c && acceptsFrom s p (c == '/') rest

/-- Whether a pattern matches a text. -/
def accepts (s : Strictness) (p : Pattern) (text : String) : Bool :=
  acceptsFrom s p true text.toList

end Pattern

end AgentDesk.Glob
