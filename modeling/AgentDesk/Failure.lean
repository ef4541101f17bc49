/-!
# Failures

What can go wrong, one type for each part of the library, and the sentence that tells the user.
`TurnFailure` is how a turn of an agent can end without an answer; `Failure` covers everything.

## Main definitions

* `ProviderFailure`, `StoreFailure`, `ToolFailure`, `TurnFailure`, `Failure`.
* `describe` for each of them.
-/

namespace AgentDesk

/-- Why a model gave no answer. -/
inductive ProviderFailure where
  | api (status : Nat) (message : String)
  | rateLimited (retryAfter : Nat)
  | authentication (reason : String)
  | modelNotFound (model : String)
  | interrupted (reason : String)
  | notConfigured (provider : String)
  | network (reason : String)
deriving Repr, BEq, DecidableEq, Inhabited

/-- Why a store did not answer. -/
inductive StoreFailure where
  | sessionNotFound (id : String)
  | messageNotFound (id : String)
  | storage (reason : String)
  | query (reason : String)
  | migration (reason : String)
deriving Repr, BEq, DecidableEq, Inhabited

/-- Why a tool did not run. -/
inductive ToolFailure where
  | notFound (tool : String)
  | execution (tool reason : String)
  | timeout (tool : String) (seconds : Nat)
  | denied (tool reason : String)
  | arguments (reason : String)
  | canceled
deriving Repr, BEq, DecidableEq, Inhabited

/-- Why a turn ended without an answer. -/
inductive TurnFailure where
  | canceled
  | provider (cause : ProviderFailure)
  | store (context : String) (cause : StoreFailure)
  | panicked (message : String)
  | agentNotFound (id : String)
deriving Repr, BEq, DecidableEq, Inhabited

/-- Any failure. -/
inductive Failure where
  | provider (cause : ProviderFailure)
  | store (cause : StoreFailure)
  | tool (cause : ToolFailure)
  | turn (cause : TurnFailure)
  | configuration (message : String)
  | internal (message : String)
deriving Repr, BEq, DecidableEq, Inhabited

/-- The sentence for a failed provider. -/
def ProviderFailure.describe : ProviderFailure → String
  | .api status message => s!"API request failed: {message} (status: {status})"
  | .rateLimited seconds => s!"Rate limited by provider, retry after {seconds}s"
  | .authentication reason => s!"Authentication failed: {reason}"
  | .modelNotFound model => s!"Model not found: {model}"
  | .interrupted reason => s!"Stream interrupted: {reason}"
  | .notConfigured provider => s!"Provider not configured: {provider}"
  | .network reason => s!"Network error: {reason}"

/-- The sentence for a failed store. -/
def StoreFailure.describe : StoreFailure → String
  | .sessionNotFound id => s!"Session not found: {id}"
  | .messageNotFound id => s!"Message not found: {id}"
  | .storage reason => s!"Storage error: {reason}"
  | .query reason => s!"Query failed: {reason}"
  | .migration reason => s!"Migration failed: {reason}"

/-- The sentence for a failed tool. -/
def ToolFailure.describe : ToolFailure → String
  | .notFound tool => s!"Tool not found: {tool}"
  | .execution tool reason => s!"Tool execution failed: {tool}: {reason}"
  | .timeout tool seconds => s!"Tool timed out: {tool} after {seconds}s"
  | .denied tool reason => s!"Permission denied: {tool}: {reason}"
  | .arguments reason => s!"Invalid tool arguments: {reason}"
  | .canceled => "Tool execution canceled"

/-- The sentence for a failed turn. -/
def TurnFailure.describe : TurnFailure → String
  | .canceled => "request canceled by user"
  | .provider cause => s!"failed to process events: {cause.describe}"
  | .store context cause => s!"{context}: {cause.describe}"
  | .panicked message => s!"panic while running the agent: {message}"
  | .agentNotFound id => s!"agent not found: {id}"

/-- Whether the turn was canceled rather than failed. -/
def TurnFailure.isCanceled : TurnFailure → Bool
  | .canceled => true
  | _ => false

/-- The sentence for any failure. -/
def Failure.describe : Failure → String
  | .provider cause => s!"Provider error: {cause.describe}"
  | .store cause => s!"Store error: {cause.describe}"
  | .tool cause => s!"Tool error: {cause.describe}"
  | .turn cause => s!"Agent error: {cause.describe}"
  | .configuration message => s!"Configuration error: {message}"
  | .internal message => s!"Internal error: {message}"

end AgentDesk
