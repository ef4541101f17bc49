import AgentDesk.Toml.Value
/-!
# Tables that are being written

A document is written in sections. A section adds entries to a table that its header names; the
tables on the way come into being when they are first mentioned. A table may be opened by one
header only, and tables that dotted keys have brought up belong to those keys alone.

## Main definitions

* `Toml.Slot` — what stands under a key.
* `Toml.placed?` — adds an entry under a dotted key.
* `Toml.openTable?`, `Toml.appendTable?` — where a header leads.
-/

namespace AgentDesk.Toml

/-- What stands under a key: a value that is complete, a table, or a list of tables. A table is
implicit as long as no header has opened it, and dotted if dotted keys brought it up. -/
inductive Slot where
  | value (v : Toml)
  | table (implicit dotted : Bool) (slots : List (String × Slot))
  | tables (items : List (List (String × Slot)))

/-- The entries of a table. -/
abbrev Slots := List (String × Slot)

mutual

/-- The value of what stands under a key. -/
def Slot.toValue : Slot → Toml
  | .value v => v
  | .table _ _ slots => .table (entriesOf slots)
  | .tables items => .array (tablesOf items)

/-- The values of the entries of a table. -/
def entriesOf : List (String × Slot) → List (String × Toml)
  | [] => []
  | (k, s) :: rest => (k, s.toValue) :: entriesOf rest

/-- The values of tables. -/
def tablesOf : List (List (String × Slot)) → List Toml
  | [] => []
  | t :: rest => .table (entriesOf t) :: tablesOf rest

end

/-- Changes the table that a header names; tables on the way that are missing are implicit. -/
def descend? (change : Slots → Option Slots) : List String → Slots → Option Slots
  | [], slots => change slots
  | k :: path, slots =>
    match Table.get? k slots with
    | none => (descend? change path []).map fun t => Table.put k (.table true false t) slots
    | some (.value _) => none
    | some (.table implicit dotted t) =>
      (descend? change path t).map fun t => Table.put k (.table implicit dotted t) slots
    | some (.tables items) =>
      match items.reverse with
      | [] => none
      | last :: earlier =>
        (descend? change path last).map fun t =>
          Table.put k (.tables (earlier.reverse ++ [t])) slots

/-- Adds an entry under a dotted key. The table that it goes to is the one of the section or one
that dotted keys have brought up; `atHome` tells whether that may be the present table. -/
def placed? (atHome : Bool) (key : String) (value : Toml) :
    List String → Slots → Option Slots
  | [], slots =>
    if atHome && !Table.has key slots then some (Table.put key (.value value) slots) else none
  | k :: path, slots =>
    match Table.get? k slots with
    | none =>
      (placed? true key value path []).map fun t => Table.put k (.table true true t) slots
    | some (.value _) => none
    | some (.table implicit dotted t) =>
      if implicit then
        (placed? dotted key value path t).map fun t =>
          Table.put k (.table implicit dotted t) slots
      else none
    | some (.tables items) =>
      match items.reverse with
      | [] => none
      | last :: earlier =>
        (placed? false key value path last).map fun t =>
          Table.put k (.tables (earlier.reverse ++ [t])) slots

/-- An entry of a section: its dotted key and its value. -/
abbrev Entry := List String × Toml

/-- Adds the entries of a section. -/
def insertAll? (entries : List Entry) (slots : Slots) : Option Slots :=
  entries.foldlM (fun slots (path, value) =>
    match path.reverse with
    | [] => none
    | key :: above => placed? true key value above.reverse slots) slots

/-- Opens the table of a header with the entries of its section. -/
def openTable? (key : String) (entries : List Entry) (slots : Slots) : Option Slots :=
  match Table.get? key slots with
  | none => (insertAll? entries []).map fun t => Table.put key (.table false false t) slots
  | some (.table true false t) =>
    (insertAll? entries t).map fun t => Table.put key (.table false false t) slots
  | some _ => none

/-- Appends a table with the entries of its section to the list of a header. -/
def appendTable? (key : String) (entries : List Entry) (slots : Slots) : Option Slots :=
  match Table.get? key slots with
  | none => (insertAll? entries []).map fun t => Table.put key (.tables [t]) slots
  | some (.tables items) =>
    (insertAll? entries []).map fun t => Table.put key (.tables (items ++ [t])) slots
  | some _ => none

/-- The header of a section. -/
inductive Header where
  | root
  | table (path : List String)
  | item (path : List String)
deriving Repr, BEq, DecidableEq

/-- Adds a section. -/
def addSection? (slots : Slots) (header : Header) (entries : List Entry) : Option Slots :=
  match header with
  | .root => insertAll? entries slots
  | .table path =>
    match path.reverse with
    | [] => none
    | key :: above => descend? (openTable? key entries) above.reverse slots
  | .item path =>
    match path.reverse with
    | [] => none
    | key :: above => descend? (appendTable? key entries) above.reverse slots

end AgentDesk.Toml
