/-
The network as a client sees it. What the attempts of a run will meet is a list
of outcomes given beforehand, one for each attempt; behind its end nobody answers.
The transport follows redirects by itself, within an attempt, so a client never sees
one: an outcome is what remains of the attempt at the end. Requests that reached a
server are kept in the order in which they were sent, those of redirects left out.
-/
import SourceSync.Url.Basic

namespace SourceSync.Http

/-- Why an attempt got no response. -/
inductive TransportError where
  /-- The client itself could not be set up. -/
  | invalidClient (reason : String)
  /-- The request could not be built, so nothing was sent. -/
  | invalidRequest (reason : String)
  /-- The request was built, but not for HTTP, so nothing was sent either. -/
  | refusedScheme (url : String)
  /-- No connection could be made. -/
  | unreachable (url : String)
  /-- The connection ended before a response. -/
  | dropped (url : String)
  /-- Any other failure, as it words itself and its causes. -/
  | other (message : String) (causes : List String)
  deriving DecidableEq, Repr

namespace TransportError

def message : TransportError → String
  | .invalidClient _ => "builder error"
  | .invalidRequest _ => "builder error"
  | .refusedScheme url => s!"builder error for url ({url})"
  | .unreachable url => s!"error sending request for url ({url})"
  | .dropped url => s!"error sending request for url ({url})"
  | .other message _ => message

/-- What the error was caused by, outermost first. -/
def causes : TransportError → List String
  | .invalidClient reason => [reason]
  | .invalidRequest reason => [reason]
  | .refusedScheme _ => ["URL scheme is not allowed"]
  | .unreachable _ => ["client error (Connect)"]
  | .dropped _ => ["client error (SendRequest)", "connection closed before message completed"]
  | .other _ causes => causes

end TransportError

/-- A response; `complete` says whether the whole body arrived. -/
structure Response where
  status : Nat
  headers : List (String × String)
  body : List UInt8
  complete : Bool
  deriving DecidableEq, Repr

/-- The first header with a name, in any case of letters. -/
def Response.header? (r : Response) (name : String) : Option String :=
  (r.headers.find? (fun h => h.1.toLower == name)).map (·.2)

/-- What an attempt meets. Redirects have been followed by then: a response is that of the
last server asked, and no other outcome tells how many there were. -/
inductive Outcome where
  | response (r : Response)
  /-- No answer within the time limit. -/
  | silence
  /-- No connection. -/
  | refusal
  /-- A redirect to a URL where no connection can be made. -/
  | deadEnd (url : String)
  /-- A connection that ends without an answer. -/
  | hangUp
  /-- Any other failure, such as too many redirects or an answer that cannot be read. -/
  | failure (message : String) (causes : List String)
  deriving DecidableEq, Repr

/-- A request as it is sent: the URL without fragment, and the headers sorted by
lower-case name. -/
structure SentRequest where
  url : String
  /-- The URL as errors show it: the fragment stays with the client. -/
  shown : String
  headers : List (String × String)
  deriving DecidableEq, Repr

/-- The network: what the next attempts will meet, and what servers have received. -/
structure Network where
  ahead : List Outcome
  received : List SentRequest
  deriving DecidableEq, Repr

namespace Network

def silent : Network := ⟨[], []⟩

/-- A network whose attempts meet the given outcomes. -/
def scripted (outcomes : List Outcome) : Network := ⟨outcomes, []⟩

/-- One attempt. A refused one reaches no server. -/
def attempt (n : Network) (r : SentRequest) : Outcome × Network :=
  match n.ahead with
  | [] => (.refusal, n)
  | .refusal :: rest => (.refusal, { n with ahead := rest })
  | o :: rest => (o, ⟨rest, n.received ++ [r]⟩)

end Network

end SourceSync.Http
