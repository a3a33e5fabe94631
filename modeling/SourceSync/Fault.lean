/-
Faults: why an operation failed. A fault is its cause; `message` is the wording
of the fault alone, `trace` adds the wording of everything that caused it, and
`isRetryable` says whether the same operation may succeed when it is repeated.
-/
import SourceSync.Http.Network
import SourceSync.Json.Token

namespace SourceSync

/-- Why an operation failed. -/
inductive Fault where
  | config (message : String)
  | missingConfigField (field : String)
  | jsonParse (cause : Json.ReadError)
  | http (cause : Http.TransportError)
  | httpStatus (status : Nat) (body : String)
  | rateLimited (seconds : Nat)
  | timeout (milliseconds : Nat)
  | maxRetriesExceeded (limit : Nat)
  | invalidUrl (cause : Url.ParseError)
  | recordExtraction (path message : String)
  | decode (message : String)
  | state (message : String)
  | connectionCheck (message : String)
  | streamNotFound (stream : String)
  | sinkClosed (message : String)
  | undefinedVariable (names : String)
  /-- A file or a device failed. -/
  | io (detail : String) (causes : List String := [])
  | other (message : String)
  /-- A description of the failed operation around the fault that ended it. -/
  | context (message : String) (source : Fault)
  /-- A fault of foreign code, known by its messages, outermost first. -/
  | chain (outermost : String) (causes : List String)
  deriving DecidableEq, Repr

namespace Fault

def kind : Fault → String
  | .config _ => "Config"
  | .missingConfigField _ => "MissingConfigField"
  | .jsonParse _ => "JsonParse"
  | .http _ => "Http"
  | .httpStatus _ _ => "HttpStatus"
  | .rateLimited _ => "RateLimited"
  | .timeout _ => "Timeout"
  | .maxRetriesExceeded _ => "MaxRetriesExceeded"
  | .invalidUrl _ => "InvalidUrl"
  | .recordExtraction _ _ => "RecordExtraction"
  | .decode _ => "Decode"
  | .state _ => "State"
  | .connectionCheck _ => "ConnectionCheck"
  | .streamNotFound _ => "StreamNotFound"
  | .sinkClosed _ => "SinkClosed"
  | .undefinedVariable _ => "UndefinedVariable"
  | .io _ _ => "Io"
  | .other _ => "Other"
  | .context _ _ => "Context"
  | .chain _ _ => "Anyhow"

/-- The wording of a fault, without its causes. -/
def message : Fault → String
  | .config message => s!"Configuration error: {message}"
  | .missingConfigField field => s!"Missing required config field: {field}"
  | .jsonParse cause => s!"Failed to parse JSON: {cause.message}"
  | .http cause => s!"HTTP request failed: {cause.message}"
  | .httpStatus status body => s!"HTTP {status}: {body}"
  | .rateLimited seconds => s!"Rate limited, retry after {seconds}s"
  | .timeout milliseconds => s!"Request timeout after {milliseconds}ms"
  | .maxRetriesExceeded limit => s!"Max retries ({limit}) exceeded"
  | .invalidUrl cause => s!"Invalid URL: {cause.message}"
  | .recordExtraction path message => s!"Failed to extract records from path '{path}': {message}"
  | .decode message => s!"Failed to decode response: {message}"
  | .state message => s!"State error: {message}"
  | .connectionCheck message => s!"Connection check failed: {message}"
  | .streamNotFound stream => s!"Stream '{stream}' not found in source"
  | .sinkClosed message => s!"Message sink closed: {message}"
  | .undefinedVariable names => s!"Undefined variable in template: {names}"
  | .io detail _ => s!"IO error: {detail}"
  | .other message => message
  | .context message _ => message
  | .chain outermost _ => outermost

/-- The wordings of the causes, outermost first. A fault that wraps a foreign error
has that error as its cause, so its text is said twice. -/
def causes : Fault → List String
  | .jsonParse cause => cause.message :: cause.causes
  | .http cause => cause.message :: cause.causes
  | .invalidUrl cause => [cause.message]
  | .io detail causes => detail :: causes
  | .context _ source => source.message :: source.causes
  | .chain _ causes => causes
  | _ => []

/-- Each cause on a line of its own. -/
def causeLines : List String → String
  | [] => ""
  | cause :: rest => "\n  caused by: " ++ (cause ++ causeLines rest)

/-- The wording of a fault together with all its causes. -/
def trace (f : Fault) : String :=
  f.message ++ causeLines f.causes

/-- Statuses that a later attempt may not meet again. -/
def isRetryableStatus (status : Nat) : Bool :=
  [429, 500, 502, 503, 504].contains status

/-- Whether repeating the operation may succeed. -/
def isRetryable : Fault → Bool
  | .http _ => true
  | .rateLimited _ => true
  | .timeout _ => true
  | .httpStatus status _ => isRetryableStatus status
  | .context _ source => source.isRetryable
  | _ => false

/-- Whether the fault says that nobody takes messages any more. -/
def isSinkClosed : Fault → Bool
  | .sinkClosed _ => true
  | _ => false

/-- Put a description around the fault of an operation that failed. -/
def within {α : Type} (message : String) : Except Fault α → Except Fault α
  | .ok a => .ok a
  | .error f => .error (.context message f)

/-- The same with a description that is made only if the operation has failed. -/
def withinLazily {α : Type} (message : Unit → String) : Except Fault α → Except Fault α
  | .ok a => .ok a
  | .error f => .error (.context (message ()) f)

end Fault

/-- What two steps come to, once the first one has ended well. -/
theorem bind_of_ok {ε α β : Type} {x : Except ε α} {a : α} (hx : x = .ok a)
    (next : α → Except ε β) : x >>= next = next a := by
  rw [hx]
  rfl

/-- Two steps have ended well only if the first one has, and the second one behind it. -/
theorem exists_of_bind_ok {ε α β : Type} {x : Except ε α} {next : α → Except ε β} {b : β}
    (hbind : x >>= next = .ok b) : ∃ a, x = .ok a ∧ next a = .ok b := by
  cases x with
  | error e => cases hbind
  | ok a => exact ⟨a, rfl, hbind⟩

/-- Two steps fail where the first one does, or the second one behind it. -/
theorem cases_of_bind_error {ε α β : Type} {x : Except ε α} {next : α → Except ε β} {e : ε}
    (hbind : x >>= next = .error e) : x = .error e ∨ ∃ a, x = .ok a ∧ next a = .error e := by
  cases x with
  | error e =>
      cases hbind
      exact Or.inl rfl
  | ok a => exact Or.inr ⟨a, rfl, hbind⟩

end SourceSync
