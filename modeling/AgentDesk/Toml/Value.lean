import AgentDesk.Table
/-!
# TOML values

The values of a TOML document. A document is a table.

## Main definitions

* `Toml`, `Toml.get?`.
-/

namespace AgentDesk

/-- A value. A date or a time is kept as it is shown. -/
inductive Toml where
  | text (s : String)
  | integer (n : Int)
  | float (x : Float)
  | truth (b : Bool)
  | moment (shown : String)
  | array (items : List Toml)
  | table (entries : List (String × Toml))
deriving Inhabited

namespace Toml

/-- The value under a key of a table. -/
def get? (key : String) : Toml → Option Toml
  | .table entries => Table.get? key entries
  | _ => none

end Toml

end AgentDesk
