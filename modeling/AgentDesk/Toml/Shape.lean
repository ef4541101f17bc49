import AgentDesk.Toml.Value
/-!
# Reading typed values from TOML

A record is read from a table, or from an array that lists its fields in order of declaration.
Entries that name no field are skipped, and so are items behind the last field. A date or a time
counts as a table with one entry under a name of its own.

## Main definitions

* `TomlShape` — a function that reads a typed value.
* `Toml.text?`, `Toml.natUpTo?`, `Toml.float?`, `Toml.truth?`, `Toml.list?`, `Toml.dictionary?`,
  `Toml.caseName?`.
* `Toml.record?`, `Fields.required?`, `Fields.optional?`, `Fields.orDefault?` — records.
-/

namespace AgentDesk

/-- A function that reads a value of type `α`. -/
abbrev TomlShape (α : Type) := Toml → Option α

/-- The fields found for a record. -/
abbrev Fields := Table String Toml

namespace Toml

/-- The name under which a date or a time stands when a table is wanted. -/
def momentName : String := "$__toml_private_datetime"

/-- Reads a string. -/
def text? : TomlShape String
  | .text s => some s
  | _ => none

/-- Reads a truth value. -/
def truth? : TomlShape Bool
  | .truth b => some b
  | _ => none

/-- Reads a natural number of at most `max`. -/
def natUpTo? (max : Nat) : TomlShape Nat
  | .integer n => if 0 ≤ n ∧ n.toNat ≤ max then some n.toNat else none
  | _ => none

/-- Reads a number as a floating-point number. -/
def float? : TomlShape Float
  | .integer n => some (Float.ofInt n)
  | .float x => some x
  | _ => none

/-- Reads a list of values. -/
def list? (f : TomlShape α) : TomlShape (List α)
  | .array items => items.mapM f
  | _ => none

/-- The entries of what can be taken for a table. -/
def entries? : TomlShape (Table String Toml)
  | .table entries => some entries
  | .moment shown => some [(momentName, .text shown)]
  | _ => none

/-- Reads values under names that are free. -/
def dictionary? (f : TomlShape α) : TomlShape (Table String α) := fun v =>
  v.entries?.bind fun entries => entries.mapM fun (name, v) => (f v).map (name, ·)

/-- Whether a value is a container that holds nothing. -/
def isHollow : Toml → Bool
  | .array items => items.isEmpty
  | .table entries => entries.isEmpty
  | _ => false

/-- Reads the name of a case without fields: a string, or a table that gives the name nothing but
a hollow container. -/
def caseName? : TomlShape String
  | .text s => some s
  | .table [(name, v)] => if v.isHollow then some name else none
  | _ => none

/-- Finds the fields of a record. -/
def record? (names : List String) : TomlShape Fields
  | .array items => some (names.zip items)
  | v => v.entries?

end Toml

namespace Fields

/-- Reads a field that must be there. -/
def required? (fields : Fields) (name : String) (f : TomlShape α) : Option α :=
  (Table.get? name fields).bind f

/-- Reads a field that may be absent. -/
def optional? (fields : Fields) (name : String) (f : TomlShape α) : Option (Option α) :=
  match Table.get? name fields with
  | none => some none
  | some v => (f v).map some

/-- Reads a field with a default for its absence. -/
def orDefault? (fields : Fields) (name : String) (f : TomlShape α) (fallback : α) : Option α :=
  match Table.get? name fields with
  | none => some fallback
  | some v => f v

end Fields

end AgentDesk
