import AgentDesk.Text.Blank
import AgentDesk.Text.Category
import AgentDesk.Text.LowerCase
/-!
# Sets of characters

The sets that a regular expression can name, and the letters that count as the same when case is
ignored.

## Main definitions

* `CharSet`, `CharSet.holds`.
* `variants` — the characters that differ from a character in case only.
* `CharSet.named?` — the set of a Unicode property.
-/

namespace AgentDesk.Regex

/-- A set of characters. -/
inductive CharSet where
  | empty
  | range (first last : Nat)
  | runs (rows : List (List Text.Run))
  | word
  | blank
  | union (a b : CharSet)
  | inter (a b : CharSet)
  | except (a b : CharSet)
  | complement (a : CharSet)
  | caseless (a : CharSet)
deriving Repr, BEq, DecidableEq, Inhabited

/-! ## Ignoring case -/

/-- Small letters that count as another small letter, with that letter. -/
def twins : List (Nat × Nat) :=
  [(0xB5, 0x3BC), (0x17F, 0x73), (0x345, 0x3B9), (0x3C2, 0x3C3), (0x3D0, 0x3B2), (0x3D1, 0x3B8),
    (0x3D5, 0x3C6), (0x3D6, 0x3C0), (0x3F0, 0x3BA), (0x3F1, 0x3C1), (0x3F5, 0x3B5),
    (0x1C80, 0x432), (0x1C81, 0x434), (0x1C82, 0x43E), (0x1C83, 0x441), (0x1C84, 0x442),
    (0x1C85, 0x442), (0x1C86, 0x44A), (0x1C87, 0x463), (0x1C88, 0xA64B), (0x1E9B, 0x1E61),
    (0x1FBE, 0x3B9)]

/-- The letter that stands for all that differ in case only. -/
def folded (n : Nat) : Nat :=
  let small := match Text.lowerRow? n with
    | some (_, _, _, distance) => ((n : Int) + distance).toNat
    | none => n
  match twins.find? (·.1 == small) with
  | some (_, twin) => twin
  | none => small

/-- The capital letters of a small letter. -/
def capitals (n : Nat) : List Nat :=
  Text.lowerRuns.filterMap fun (first, last, step, distance) =>
    let m := ((n : Int) - distance).toNat
    if first ≤ m && m ≤ last && (m - first) % step == 0 then some m else none

/-- The characters that differ from a character in case only, and the character itself. -/
def variants (n : Nat) : List Nat :=
  let small := folded n
  let same := small :: (twins.filter (·.2 == small)).map (·.1)
  n :: same ++ same.flatMap capitals

/-! ## Membership -/

/-- Whether a character belongs to one of the categories. -/
def inRuns (n : Nat) (rows : List (List Text.Run)) : Bool := rows.any (·.any (Text.Run.holds n))

/-- The letters in circles and squares, which count as parts of words. -/
def framedLetters : List Text.Run :=
  [⟨0x24B6, 0x24E9, 1⟩, ⟨0x1F130, 0x1F149, 1⟩, ⟨0x1F150, 0x1F169, 1⟩, ⟨0x1F170, 0x1F189, 1⟩]

/-- The characters that join letters without being seen. -/
def joiners : List Text.Run := [⟨0x200C, 0x200D, 1⟩]

/-- The letters of all scripts. -/
def letterRows : List (List Text.Run) :=
  [Text.runsLu, Text.runsLl, Text.runsLt, Text.runsLm, Text.runsLo]

/-- The characters of words outside ASCII. -/
def wordRows : List (List Text.Run) :=
  letterRows ++ [Text.runsMn, Text.runsMc, Text.runsMe, Text.runsNd, Text.runsNl, Text.runsPc,
    framedLetters, joiners]

/-- Whether a character is a letter, a digit or an underscore of ASCII. -/
def isAsciiWord (n : Nat) : Bool :=
  (48 ≤ n && n ≤ 57) || (65 ≤ n && n ≤ 90) || n == 95 || (97 ≤ n && n ≤ 122)

/-- Whether a character can be a part of a word. -/
def isWord (n : Nat) : Bool := if n < 128 then isAsciiWord n else inRuns n wordRows

namespace CharSet

/-- Whether a character belongs to a set. -/
def holds : CharSet → Nat → Bool
  | empty, _ => false
  | range a b, n => a ≤ n && n ≤ b
  | runs rows, n => inRuns n rows
  | word, n => isWord n
  | blank, n => Text.isBlank (Char.ofNat n)
  | union a b, n => a.holds n || b.holds n
  | inter a b, n => a.holds n && b.holds n
  | except a b, n => a.holds n && !b.holds n
  | complement a, n => !a.holds n
  | caseless a, n => (variants n).any a.holds

/-- The set of one character. -/
def single (c : Char) : CharSet := range c.toNat c.toNat

/-- The union of sets. -/
def unions (sets : List CharSet) : CharSet := sets.foldr union empty

/-- All characters. -/
def all : CharSet := range 0 0x10FFFF

/-- The decimal digits of all scripts. -/
def digit : CharSet := runs [Text.runsNd]

/-- The digits of ASCII. -/
def asciiDigit : CharSet := range 48 57

/-- The blanks of ASCII. -/
def asciiBlank : CharSet := union (range 9 13) (range 32 32)

/-- The letters, digits and the underscore of ASCII. -/
def asciiWord : CharSet := unions [range 48 57, range 65 90, range 95 95, range 97 122]

/-- The sets that go by a name between colons. -/
def asciiNamed? : String → Option CharSet
  | "alnum" => some (unions [range 48 57, range 65 90, range 97 122])
  | "alpha" => some (union (range 65 90) (range 97 122))
  | "ascii" => some (range 0 127)
  | "blank" => some (union (range 9 9) (range 32 32))
  | "cntrl" => some (union (range 0 31) (range 127 127))
  | "digit" => some asciiDigit
  | "graph" => some (range 33 126)
  | "lower" => some (range 97 122)
  | "print" => some (range 32 126)
  | "punct" => some (unions [range 33 47, range 58 64, range 91 96, range 123 126])
  | "space" => some asciiBlank
  | "upper" => some (range 65 90)
  | "word" => some asciiWord
  | "xdigit" => some (unions [range 48 57, range 65 70, range 97 102])
  | _ => none

/-- The sets of general categories by their plain names. -/
def categories : List (List String × List String) :=
  [(["l", "letter"], ["Lu", "Ll", "Lt", "Lm", "Lo"]),
    (["lc", "casedletter"], ["Lu", "Ll", "Lt"]), (["lu", "uppercaseletter"], ["Lu"]),
    (["ll", "lowercaseletter"], ["Ll"]), (["lt", "titlecaseletter"], ["Lt"]),
    (["lm", "modifierletter"], ["Lm"]), (["lo", "otherletter"], ["Lo"]),
    (["m", "mark", "combiningmark"], ["Mn", "Mc", "Me"]), (["mn", "nonspacingmark"], ["Mn"]),
    (["mc", "spacingmark"], ["Mc"]), (["me", "enclosingmark"], ["Me"]),
    (["n", "number"], ["Nd", "Nl", "No"]), (["nd", "decimalnumber", "digit"], ["Nd"]),
    (["nl", "letternumber"], ["Nl"]), (["no", "othernumber"], ["No"]),
    (["p", "punctuation", "punct"], ["Pc", "Pd", "Ps", "Pe", "Pi", "Pf", "Po"]),
    (["pc", "connectorpunctuation"], ["Pc"]), (["pd", "dashpunctuation"], ["Pd"]),
    (["ps", "openpunctuation"], ["Ps"]), (["pe", "closepunctuation"], ["Pe"]),
    (["pi", "initialpunctuation"], ["Pi"]), (["pf", "finalpunctuation"], ["Pf"]),
    (["po", "otherpunctuation"], ["Po"]), (["s", "symbol"], ["Sm", "Sc", "Sk", "So"]),
    (["sm", "mathsymbol"], ["Sm"]), (["sc", "currencysymbol"], ["Sc"]),
    (["sk", "modifiersymbol"], ["Sk"]), (["so", "othersymbol"], ["So"]),
    (["z", "separator"], ["Zs", "Zl", "Zp"]), (["zs", "spaceseparator"], ["Zs"]),
    (["zl", "lineseparator"], ["Zl"]), (["zp", "paragraphseparator"], ["Zp"]),
    (["cc", "control", "cntrl"], ["Cc"]), (["cf", "format"], ["Cf"]),
    (["co", "privateuse"], ["Co"])]

/-- The sets of some scripts by their plain names. -/
def scripts : List (String × CharSet) :=
  [("greek", unions [range 0x370 0x373, range 0x375 0x377, range 0x37A 0x37D, range 0x37F 0x37F,
      range 0x384 0x384, range 0x386 0x386, range 0x388 0x3E1, range 0x3F0 0x3FF,
      range 0x1F00 0x1FFE, range 0x2126 0x2126]),
    ("cyrillic", unions [range 0x400 0x484, range 0x487 0x52F, range 0x1C80 0x1C88,
      range 0x1D2B 0x1D2B, range 0x1D78 0x1D78, range 0x2DE0 0x2DFF, range 0xA640 0xA69F]),
    ("latin", unions [range 65 90, range 97 122, range 0xAA 0xAA, range 0xBA 0xBA,
      range 0xC0 0xD6, range 0xD8 0xF6, range 0xF8 0x2B8, range 0x2E0 0x2E4,
      range 0x1E00 0x1EFF, range 0x212A 0x212B, range 0x2C60 0x2C7F, range 0xA722 0xA787,
      range 0xFB00 0xFB06, range 0xFF21 0xFF3A, range 0xFF41 0xFF5A]),
    ("hebrew", unions [range 0x591 0x5C7, range 0x5D0 0x5EA, range 0x5EF 0x5F4,
      range 0xFB1D 0xFB4F]),
    ("arabic", unions [range 0x600 0x604, range 0x606 0x60B, range 0x60D 0x61A,
      range 0x61C 0x61E, range 0x620 0x63F, range 0x641 0x64A, range 0x656 0x66F,
      range 0x671 0x6DC, range 0x6DE 0x6FF, range 0x750 0x77F]),
    ("thai", unions [range 0xE01 0xE3A, range 0xE40 0xE5B]),
    ("hangul", unions [range 0x1100 0x11FF, range 0x3131 0x318E, range 0xA960 0xA97C,
      range 0xAC00 0xD7A3, range 0xD7B0 0xD7FB]),
    ("hiragana", unions [range 0x3041 0x3096, range 0x309D 0x309F]),
    ("katakana", unions [range 0x30A1 0x30FA, range 0x30FD 0x30FF, range 0x31F0 0x31FF,
      range 0xFF66 0xFF6F, range 0xFF71 0xFF9D]),
    ("han", unions [range 0x2E80 0x2E99, range 0x2E9B 0x2EF3, range 0x2F00 0x2FD5,
      range 0x3005 0x3005, range 0x3007 0x3007, range 0x3021 0x3029, range 0x3038 0x303B,
      range 0x3400 0x4DBF, range 0x4E00 0x9FFF, range 0xF900 0xFAD9, range 0x20000 0x3134A])]

/-- A name without what does not matter in it: case, blanks, hyphens and underscores. -/
def plainName (name : String) : String :=
  let kept := name.toList.filter fun c => !(c == ' ' || c == '-' || c == '_')
  String.ofList (kept.map Char.toLower)

/-- The set of the categories with these names. -/
def ofCategories (names : List String) : CharSet :=
  runs ((Text.categoryTable.filter fun row => names.elem row.1).map (·.2))

/-- The set of a Unicode property. -/
def named? (name : String) : Option CharSet :=
  let name := plainName name
  match categories.find? (·.1.elem name), scripts.find? (·.1 == name) with
  | some (_, names), _ => some (ofCategories names)
  | none, some (_, set) => some set
  | none, none =>
    match name with
    | "any" => some all
    | "ascii" => some (range 0 127)
    | "assigned" => some (runs (Text.categoryTable.map (·.2)))
    | "cn" | "unassigned" => some (complement (runs (Text.categoryTable.map (·.2))))
    | "c" | "other" =>
      some (complement (runs ((Text.categoryTable.filter fun row =>
        !(row.1 == "Cc" || row.1 == "Cf" || row.1 == "Co")).map (·.2))))
    | "alphabetic" | "alpha" => some (runs (letterRows ++ [Text.runsNl, framedLetters]))
    | "uppercase" | "upper" => some (runs [Text.runsLu])
    | "lowercase" | "lower" => some (runs [Text.runsLl])
    | "whitespace" | "wspace" | "space" => some blank
    | _ => none

end CharSet

end AgentDesk.Regex
