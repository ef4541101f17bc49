import AgentDesk.Failure
import AgentDesk.Files
import AgentDesk.Text.Quoted
/-!
# Failures with their fields

A program that ends with a failure shows the failure with all its fields, the texts in quotes.

## Main definitions

* `ProviderFailure.withFields`, `StoreFailure.withFields`, `ToolFailure.withFields`,
  `TurnFailure.withFields`, `FileFault.withFields`.
-/

namespace AgentDesk

/-- A provider's failure with its fields. -/
def ProviderFailure.withFields : ProviderFailure → String
  | .api status message =>
    s!"ApiError \x7b status_code: {status}, message: {Text.quoted message} \x7d"
  | .rateLimited seconds => s!"RateLimited \x7b retry_after_secs: {seconds} \x7d"
  | .authentication reason => s!"AuthenticationFailed({Text.quoted reason})"
  | .modelNotFound model => s!"ModelNotFound({Text.quoted model})"
  | .interrupted reason => s!"StreamInterrupted({Text.quoted reason})"
  | .notConfigured provider => s!"NotConfigured({Text.quoted provider})"
  | .network reason => s!"Network({Text.quoted reason})"

/-- A store's failure with its fields. -/
def StoreFailure.withFields : StoreFailure → String
  | .sessionNotFound id => s!"SessionNotFound({Text.quoted id})"
  | .messageNotFound id => s!"MessageNotFound({Text.quoted id})"
  | .storage reason => s!"Storage({Text.quoted reason})"
  | .query reason => s!"QueryFailed({Text.quoted reason})"
  | .migration reason => s!"MigrationFailed({Text.quoted reason})"

/-- A tool's failure with its fields. -/
def ToolFailure.withFields : ToolFailure → String
  | .notFound tool => s!"NotFound({Text.quoted tool})"
  | .execution tool reason =>
    s!"ExecutionFailed \x7b tool_name: {Text.quoted tool}, reason: {Text.quoted reason} \x7d"
  | .timeout tool seconds =>
    s!"Timeout \x7b tool_name: {Text.quoted tool}, timeout_secs: {seconds} \x7d"
  | .denied tool reason =>
    s!"PermissionDenied \x7b tool_name: {Text.quoted tool}, reason: {Text.quoted reason} \x7d"
  | .arguments reason => s!"InvalidArguments({Text.quoted reason})"
  | .canceled => "Cancelled"

/-- A turn's failure with its fields. -/
def TurnFailure.withFields : TurnFailure → String
  | .canceled => "RequestCancelled"
  | .provider cause => s!"Provider({cause.withFields})"
  | .store context cause =>
    s!"Store \x7b context: {Text.quoted context}, source: {cause.withFields} \x7d"
  | .panicked message => s!"Panic({Text.quoted message})"
  | .agentNotFound id => s!"AgentNotFound({Text.quoted id})"

namespace FileFault

/-- The number of a fault that the system reports, its kind, and its sentence without the
number. -/
def system? : FileFault → Option (Nat × String × String)
  | .notFound => some (2, "NotFound", "No such file or directory")
  | .exists => some (17, "AlreadyExists", "File exists")
  | .notDirectory => some (20, "NotADirectory", "Not a directory")
  | .isDirectory => some (21, "IsADirectory", "Is a directory")
  | .nameTooLong => some (36, "InvalidFilename", "File name too long")
  | .tooManyLinks => some (40, "FilesystemLoop", "Too many levels of symbolic links")
  | .zeroByte => none
  | .notText => none

/-- The kind of a fault that the system does not report. -/
def ownKind : FileFault → String
  | .notText => "InvalidData"
  | _ => "InvalidInput"

/-- A fault of the file system with its fields. -/
def withFields (fault : FileFault) : String :=
  match fault.system? with
  | some (code, kind, message) =>
    s!"Os \x7b code: {code}, kind: {kind}, message: {Text.quoted message} \x7d"
  | none => s!"Error \x7b kind: {fault.ownKind}, message: {Text.quoted fault.describe} \x7d"

end FileFault

end AgentDesk
