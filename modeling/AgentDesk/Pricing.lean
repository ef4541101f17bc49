import AgentDesk.Usage
import AgentDesk.Text.LowerCase
import AgentDesk.Text.Pieces
/-!
# Prices of models

A table of prices per million tokens. A key is the name of a model, with or without its provider
and a slash in front. Looking up a model tries the exact key, then the key under the provider, and
then the longest key whose bare name begins the bare name of the model, so that dated names of a
model find its price.

## Main definitions

* `Prices` — the four prices of a model.
* `PriceTable`, `PriceTable.standard`, `PriceTable.set?`, `PriceTable.get?`, `PriceTable.lookup`.
-/

namespace AgentDesk

/-- Prices in US dollars per million tokens. -/
structure Prices where
  input : Float
  output : Float
  cacheWrite : Float
  cacheRead : Float
deriving Repr, BEq, Inhabited

namespace Prices

/-- Prices of a model without a cache. -/
def plain (input output : Float) : Prices := ⟨input, output, 0, 0⟩

/-- The cost of one answer. -/
def cost (p : Prices) (t : Tokens) : Float :=
  (Usage.amount t.cacheWrite * p.cacheWrite
    + Usage.amount t.cacheRead * p.cacheRead
    + Usage.amount t.input * p.input
    + Usage.amount t.output * p.output) / 1000000

/-- Copies the prices into a model. -/
def apply (p : Prices) (m : Model) : Model :=
  { m with
    inputPrice := p.input, outputPrice := p.output
    cacheWritePrice := p.cacheWrite, cacheReadPrice := p.cacheRead }

/-- Whether one number can be a price. -/
def isPrice (x : Float) : Bool := x.isFinite && !(x < 0)

/-- Whether all four can be prices. -/
def isValid (p : Prices) : Bool :=
  isPrice p.input && isPrice p.output && isPrice p.cacheWrite && isPrice p.cacheRead

/-- Prices as JSON. -/
def toJson (p : Prices) : Json := .object
  [("input_per_m", .float p.input), ("output_per_m", .float p.output),
    ("cache_write_per_m", .float p.cacheWrite), ("cache_read_per_m", .float p.cacheRead)]

/-- Reads prices. -/
def shape : Shape Prices := fun r d => do
  let fields ← d.record? ["input_per_m", "output_per_m", "cache_write_per_m", "cache_read_per_m"] r
  pure ⟨← fields.required? "input_per_m" Document.float?,
    ← fields.required? "output_per_m" Document.float?,
    ← fields.orDefault? "cache_write_per_m" Document.float? 0,
    ← fields.orDefault? "cache_read_per_m" Document.float? 0⟩

end Prices

/-- Why a price is refused. -/
structure InvalidPrice where
  model : String
deriving Repr, BEq, DecidableEq

/-- The sentence for a refused price. -/
def InvalidPrice.describe (e : InvalidPrice) : String :=
  s!"invalid price for {e.model}: prices must be finite and non-negative"

/-- Prices by key; each key occurs once. Their order matters only to look up a model for which two
keys are equally good. -/
structure PriceTable where
  entries : List (String × Prices)
deriving Repr, Inhabited

namespace PriceTable

/-- The table without entries. -/
def empty : PriceTable := ⟨[]⟩

/-- The table that is used when nothing is configured. -/
def standard : PriceTable := ⟨[
  ("anthropic/claude-opus-4", ⟨15, 75, 18.75, 1.5⟩),
  ("anthropic/claude-sonnet-4", ⟨3, 15, 3.75, 0.3⟩),
  ("anthropic/claude-3-7-sonnet", ⟨3, 15, 3.75, 0.3⟩),
  ("anthropic/claude-3-5-sonnet", ⟨3, 15, 3.75, 0.3⟩),
  ("anthropic/claude-3-5-haiku", ⟨0.8, 4, 1, 0.08⟩),
  ("anthropic/claude-3-haiku", ⟨0.25, 1.25, 0.3, 0.03⟩),
  ("openai/gpt-4o", ⟨2.5, 10, 0, 1.25⟩),
  ("openai/gpt-4o-mini", ⟨0.15, 0.6, 0, 0.075⟩),
  ("openai/o3-mini", ⟨1.1, 4.4, 0, 0.55⟩),
  ("google/gemini-2.0-flash", ⟨0.1, 0.4, 0, 0.025⟩),
  ("google/gemini-2.5-pro", ⟨1.25, 10, 0, 0.31⟩)]⟩

/-- The prices under exactly this key. -/
def get? (t : PriceTable) (key : String) : Option Prices :=
  (t.entries.find? (·.1 == key)).map (·.2)

/-- Puts prices under a key, in place of earlier ones. -/
def put (key : String) (p : Prices) : List (String × Prices) → List (String × Prices)
  | [] => [(key, p)]
  | (k, q) :: rest => if k == key then (key, p) :: rest else (k, q) :: put key p rest

/-- Sets the prices of a key; refuses numbers that cannot be prices. -/
def set? (t : PriceTable) (key : String) (p : Prices) : Except InvalidPrice PriceTable :=
  if p.isValid then .ok ⟨put key p t.entries⟩ else .error ⟨key⟩

/-- What stands behind the last slash, in lower case. -/
def bareName (key : String) : List Char :=
  let s := key.toList
  Text.lowerText ((Text.splitOn (· == '/') s).getLastD [])

/-- Whether a key names no provider. -/
def isBare (key : String) : Bool := !key.toList.contains '/'

/-- How good a key is that matches: the length of its bare name in bytes, then that it names no
provider. -/
structure Rank where
  length : Nat
  bare : Bool
deriving Repr, BEq, DecidableEq

/-- The rank of a key. -/
def rankOf (key : String) : Rank := ⟨(String.ofList (bareName key)).utf8ByteSize, isBare key⟩

/-- Whether a rank is below another. -/
def Rank.lt (a b : Rank) : Bool :=
  a.length < b.length || (a.length == b.length && !a.bare && b.bare)

/-- The entry with the greatest rank; among several of them the last one. -/
def best? (candidates : List (String × Prices)) : Option (String × Prices) :=
  candidates.foldl (fun best e =>
    match best with
    | none => some e
    | some b => if (rankOf e.1).lt (rankOf b.1) then some b else some e) none

/-- The prices of the key whose bare name is the longest beginning of the model's bare name. -/
def closest (t : PriceTable) (model : String) : Option Prices :=
  let name := (Text.splitOn (· == '/') (Text.lowerText model.toList)).getLastD []
  (best? (t.entries.filter fun e => Text.startsWith (bareName e.1) name)).map (·.2)

/-- The prices of a model of a provider. -/
def lookup (t : PriceTable) (provider model : String) : Option Prices :=
  (t.get? model).or ((t.get? s!"{provider}/{model}").or (t.closest model))

/-- Gives a model the prices known for it; a model without known prices stays as it is. -/
def priceModel (t : PriceTable) (m : Model) : Model :=
  match t.lookup m.provider m.id with
  | some p => p.apply m
  | none => m

/-- The keys in ascending order. -/
def models (t : PriceTable) : List String := (t.entries.map (·.1)).mergeSort (fun a b => a ≤ b)

end PriceTable

end AgentDesk
