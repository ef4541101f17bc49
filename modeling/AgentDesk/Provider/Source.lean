import AgentDesk.Anthropic.Connection
import AgentDesk.Provider.Script
/-!
# Where answers come from

A provider is either prepared, or it is reached through the network. The stream of a provider in
the network is known as soon as it opens, because its reply is.

## Main definitions

* `Source`, `Source.serve`.
-/

namespace AgentDesk

/-- Where the answers of a provider come from. -/
inductive Source where
  | script (s : Script)
  | service (c : Anthropic.Connection)

namespace Source

/-- The script of a source that has one. -/
def script? : Source → Option Script
  | .script s => some s
  | .service _ => none

/-- What a request to a source leads to: how the opening of the stream ends, the stream if it
opens, and what is left of the source and of the network. -/
def serve (source : Source) (request : ModelRequest) (net : Network) :
    Opening × Option PreparedStream × Source × Network :=
  match source with
  | .script s =>
    let (opening, prepared, s) := s.serve request
    (opening, prepared, .script s, net)
  | .service c =>
    match c.ask request net with
    | (.ok events, net) => (.opened, some ⟨none, events, false⟩, .service c, net)
    | (.error cause, net) => (.failed cause, none, .service c, net)

end Source

end AgentDesk
