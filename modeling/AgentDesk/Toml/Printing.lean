import AgentDesk.Json.Value
import AgentDesk.Text.Pieces
import AgentDesk.Toml.Value
/-!
# Writing a TOML document

A document is written as sections. The values of a table come first, each on a line of its own, and
then the tables in it, each under its header and with a blank line in front. A table that holds
nothing but tables needs no header. An array of more than one item has a line for each.

## Main definitions

* `Toml.document` — the text of a document.
-/

namespace AgentDesk.Toml

/-- A character inside a written string. -/
def writtenChar (c : Char) : List Char :=
  if c == '"' then ['\\', '"']
  else if c == '\\' then ['\\', '\\']
  else if c == '\n' then ['\\', 'n']
  else if c == '\r' then ['\\', 'r']
  else if c == '\t' then ['\\', 't']
  else if c.toNat < 32 || c.toNat == 127 then
    '\\' :: 'u' :: '0' :: '0' :: [Json.hexDigit (c.toNat / 16), Json.hexDigit (c.toNat % 16)]
  else [c]

/-- A string between quotes. -/
def writtenText (s : String) : String :=
  String.ofList ('"' :: s.toList.flatMap writtenChar ++ ['"'])

/-- A name as it stands in a key. -/
def writtenKey (name : String) : String :=
  let bare := fun (c : Char) => (c.isAlphanum && c.toNat < 128) || c == '_' || c == '-'
  if !name.isEmpty && name.toList.all bare then name else writtenText name

/-- A floating-point number. -/
def writtenFloat (x : Float) : String :=
  if x.isFinite then Decimal.jsonText x else Decimal.specialText x

mutual

/-- The text of a value that stands behind a key or in an array. -/
def inline : Toml → String
  | .text s => writtenText s
  | .integer n => toString n
  | .float x => writtenFloat x
  | .truth b => if b then "true" else "false"
  | .moment shown => shown
  | .array items =>
    let texts := inlineItems items
    if texts.length < 2 then
      let inside := Text.join ", " texts
      s!"[{inside}]"
    else
      let inside := Text.join "" (texts.map fun t => s!"    {t},\n")
      s!"[\n{inside}]"
  | .table entries =>
    let inside := Text.join ", " (inlineEntries entries)
    if inside.isEmpty then "\x7b\x7d" else s!"\x7b {inside} \x7d"

/-- The texts of the items of an array. -/
def inlineItems : List Toml → List String
  | [] => []
  | v :: rest => inline v :: inlineItems rest

/-- The texts of the entries of a table. -/
def inlineEntries : List (String × Toml) → List String
  | [] => []
  | (name, v) :: rest => s!"{writtenKey name} = {inline v}" :: inlineEntries rest

end

/-- The lines of the values in a table. -/
def valueLines (entries : List (String × Toml)) : String :=
  Text.join "" (entries.filterMap fun (name, v) =>
    match v with
    | .table _ => none
    | v => some s!"{writtenKey name} = {inline v}\n")

/-- Whether a table holds nothing but tables, and at least one. -/
def needsNoHeader (entries : List (String × Toml)) : Bool :=
  !entries.isEmpty && entries.all fun (_, v) =>
    match v with
    | .table _ => true
    | _ => false

mutual

/-- The sections of a table and of those in it. -/
def tableSections (path : List String) : Toml → List String
  | .table entries =>
    let header := Text.join "." (path.map writtenKey)
    let own := if needsNoHeader entries then [] else [s!"[{header}]\n{valueLines entries}"]
    own ++ sectionsOf path entries
  | _ => []

/-- The sections of the tables among entries. -/
def sectionsOf (path : List String) : List (String × Toml) → List String
  | [] => []
  | (name, v) :: rest => tableSections (path ++ [name]) v ++ sectionsOf path rest

end

/-- The text of a document. -/
def document (entries : List (String × Toml)) : String :=
  let values := valueLines entries
  Text.join "\n" ((if values.isEmpty then [] else [values]) ++ sectionsOf [] entries)

end AgentDesk.Toml
