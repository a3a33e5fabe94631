/-
The HTTP client. A request is resolved against the base URL and built once; every
attempt sends the same thing. An attempt is done, may be repeated, or has failed
for good; the attempts of a request, and the waits between them, are what `send`
returns besides its result.
-/
import SourceSync.Fault
import SourceSync.Http.Auth
import SourceSync.Http.Retry
import SourceSync.Json.Reader
import SourceSync.Table
import SourceSync.Text.Blank
import SourceSync.Text.Digits
import SourceSync.Text.Search
import SourceSync.Url.Parser

namespace SourceSync.Http

/-- The user agent of clients that do not choose one. -/
def defaultUserAgent : String := "relay-cdk/0.1.0"

/-- What all requests of a client share. -/
structure ClientSettings where
  baseUrl : String
  /-- How long an attempt may take. -/
  timeout : Duration
  retry : RetryPolicy
  headers : SortedTable String
  userAgent : Option String
  deriving DecidableEq, Repr

namespace ClientSettings

def forBase (baseUrl : String) : ClientSettings :=
  ⟨baseUrl, Duration.ofSeconds 30, .standard, ∅, none⟩

/-- How settings are shown to developers. -/
def describe (s : ClientSettings) : String :=
  let headers := ", ".intercalate
    (s.headers.entries.map (fun h => Text.quoted h.1 ++ ": " ++ Text.quoted h.2))
  let userAgent := match s.userAgent with
    | none => "None"
    | some a => "Some(" ++ Text.quoted a ++ ")"
  s!"ClientSettings \x7b base_url: {Text.quoted s.baseUrl}, timeout: {s.timeout.describe}, " ++
    s!"retry: {s.retry.describe}, headers: \x7b{headers}\x7d, user_agent: {userAgent} \x7d"

end ClientSettings

/-- A request: a path below the base URL or an absolute URL, query pairs and headers. -/
structure ApiRequest where
  path : String
  query : List (String × String)
  headers : List (String × String)
  deriving DecidableEq, Repr

def ApiRequest.get (path : String) : ApiRequest := ⟨path, [], []⟩

structure Client where
  settings : ClientSettings
  authenticator : Authenticator
  deriving DecidableEq, Repr

def isNameChar (c : Char) : Bool :=
  c.isAlphanum || "!#$%&\x27*+-.^_\x60|~".toList.contains c

def isHeaderName (s : String) : Bool :=
  !s.isEmpty && s.toList.all isNameChar && s.length < 65536

/-- Whether a text can be the value of a header: no control characters but tabs. -/
def isHeaderValue (s : String) : Bool :=
  s.toList.all (fun c => (32 ≤ c.toNat && c.toNat != 127) || c == '\t')

/-- The octets that form encoding keeps. -/
def isFormPlain (b : UInt8) : Bool :=
  (48 ≤ b.toNat && b.toNat ≤ 57) || (65 ≤ b.toNat && b.toNat ≤ 90) ||
    (97 ≤ b.toNat && b.toNat ≤ 122) || [42, 45, 46, 95].contains b.toNat

def formEncode (s : String) : List Char :=
  (Text.Utf8.encode s).flatMap (fun b =>
    if isFormPlain b then [Char.ofNat b.toNat]
    else if b.toNat = 32 then ['+']
    else Url.percentOctet b)

def appendPair (query : List Char) (pair : String × String) : List Char :=
  (if query.isEmpty then [] else query ++ ['&']) ++ formEncode pair.1 ++ '=' :: formEncode pair.2

/-- The URL with more query pairs; an empty query is not written. -/
def withQuery (u : Url) (pairs : List (String × String)) : Url :=
  match pairs.foldl appendPair (u.query.getD []) with
  | [] => { u with query := none }
  | query => { u with query := some query }

/-- The URL without user name and password, and the header that carries them instead. -/
def moveCredentials (u : Url) : Url × List (String × String) :=
  match u.authority with
  | none => (u, [])
  | some a =>
    match Text.Utf8.decode? (Url.percentDecode a.username) with
    | none => (u, [])
    | some name =>
      let password := a.password.bind (fun p => Text.Utf8.decode? (Url.percentDecode p))
      if name.isEmpty && password.isNone then (u, [])
      else
        let token :=
          Authenticator.basicToken (String.ofList name) (String.ofList (password.getD []))
        ({ u with authority := some { a with username := [], password := none } },
          [("Authorization", "Basic " ++ token)])

namespace Client

/-- A client, unless its user agent cannot be sent. -/
def build (settings : ClientSettings) (authenticator : Authenticator) : Except Fault Client :=
  match settings.userAgent with
  | none => .ok ⟨settings, authenticator⟩
  | some agent =>
    if isHeaderValue agent then .ok ⟨settings, authenticator⟩
    else .error (.http (.invalidClient "failed to parse header value"))

/-- How a client is shown to developers: its settings, and nothing of its credentials. -/
def describe (c : Client) : String :=
  s!"HttpClient \x7b settings: {c.settings.describe}, " ++
    s!"authenticator: {c.authenticator.describe}, .. \x7d"

/-- The text of the URL for a path: absolute URLs stand for themselves, all else goes
behind the base URL, with one slash between them. -/
def urlText (c : Client) (path : String) : String :=
  if Text.startsWith "http://".toList path.toList ||
      Text.startsWith "https://".toList path.toList then
    path
  else
    let base := (c.settings.baseUrl.toList.reverse.dropWhile (· == '/')).reverse
    match path.toList.dropWhile (· == '/') with
    | [] => String.ofList base
    | rest => String.ofList (base ++ '/' :: rest)

/-- The URL for a path. -/
def urlFor (c : Client) (path : String) : Except Fault Url :=
  match Url.parse (c.urlText path) with
  | .ok u => .ok u
  | .error e => .error (.invalidUrl e)

/-- All headers of a request, in the order in which they are added. -/
def headers (c : Client) (r : ApiRequest) : List (String × String) :=
  c.settings.headers.entries ++ r.headers ++ c.authenticator.header?.toList

/-- The headers as they are sent: names in lower case and in order, values without
blanks around them, and the user agent unless a header sets it. -/
def sentHeaders (c : Client) (headers : List (String × String)) : List (String × String) :=
  let lowered := headers.map (fun h =>
    (h.1.toLower, String.ofList (Text.trim h.2.toList)))
  let all :=
    if lowered.any (fun h => h.1 == "user-agent") then lowered
    else lowered ++ [("user-agent", c.settings.userAgent.getD defaultUserAgent)]
  all.mergeSort (fun a b => a.1 ≤ b.1)

/-- Build what every attempt of a request sends. -/
def prepare (c : Client) (u : Url) (r : ApiRequest) : Except TransportError SentRequest :=
  let headers := c.headers r
  if headers.all (fun h => isHeaderName h.1 && isHeaderValue h.2) then
    let (plain, credentials) := moveCredentials u
    let pairs := r.query ++ c.authenticator.query?.toList
    let full := if pairs.isEmpty then plain else withQuery plain pairs
    if u.scheme = "http".toList ∨ u.scheme = "https".toList then
      .ok ⟨String.ofList full.textWithoutFragment, full.text,
        c.sentHeaders (credentials ++ headers)⟩
    else .error (.refusedScheme full.text)
  else .error (.invalidRequest "invalid header")

/-- The verdict on one attempt. -/
inductive Verdict where
  | done (r : Response)
  /-- Another attempt may succeed; the server may have asked for a wait. -/
  | retry (f : Fault) (requested : Option Duration)
  | fail (f : Fault)

/-- The wait a response asks for, in whole seconds. -/
def requestedWait? (r : Response) : Option Duration :=
  match r.header? "retry-after" with
  | none => none
  | some value =>
    if value.toList.all (fun c => (32 ≤ c.toNat && c.toNat < 127) || c == '\t') then
      (Text.unsigned64? (Text.trim value.toList)).map Duration.ofSeconds
    else none

/-- The body as text, if all of it arrived. -/
def bodyText? (r : Response) : Option String :=
  if r.complete then some (String.ofList (Text.Utf8.decodeLossy r.body)) else none

/-- The verdict on a response. -/
def judgeResponse (r : Response) : Verdict :=
  if r.status < 400 ∨ 599 < r.status then .done r
  else if r.status = 429 then
    let requested := requestedWait? r
    .retry (.rateLimited ((requested.map Duration.seconds).getD 0)) requested
  else
    let f := Fault.httpStatus r.status ((bodyText? r).getD "")
    if f.isRetryable then .retry f none else .fail f

/-- The verdict on what an attempt met. -/
def judge (c : Client) (sent : SentRequest) : Outcome → Verdict
  | .response r => judgeResponse r
  | .silence => .retry (.timeout (min c.settings.timeout.milliseconds 0xFFFFFFFFFFFFFFFF)) none
  | .refusal => .retry (.http (.unreachable sent.shown)) none
  | .deadEnd url => .retry (.http (.unreachable url)) none
  | .hangUp => .fail (.http (.dropped sent.shown))
  | .failure message causes => .fail (.http (.other message causes))

/-- The course of sending a request: its result, the number of attempts, the waits
between them, and the network afterwards. -/
structure Sending where
  result : Except Fault Response
  attempts : Nat
  waits : List Duration
  network : Network

/-- A request that ends with the attempt just made. -/
def Sending.last (result : Except Fault Response) (n : Network) : Sending :=
  ⟨result, 1, [], n⟩

/-- One more attempt, and a wait, before the rest. -/
def Sending.after (wait : Duration) (s : Sending) : Sending :=
  { s with attempts := s.attempts + 1, waits := wait :: s.waits }

/-- Make attempts until one is done or has failed for good, or no retry is left;
`retry` counts the retries made before. -/
def attempts (c : Client) (sent : SentRequest) : Nat → Nat → Network → Sending
  | left, retry, n =>
    let met := n.attempt sent
    match c.judge sent met.1, left with
    | .done r, _ => .last (.ok r) met.2
    | .fail f, _ => .last (.error f) met.2
    | .retry f _, 0 => .last (.error f) met.2
    | .retry _ requested, left + 1 =>
      Sending.after (c.settings.retry.wait requested retry) (attempts c sent left (retry + 1) met.2)

/-- Send a request. If its URL does not resolve, nothing is attempted; if it cannot be
built, the first attempt fails before it reaches the network. -/
def send (c : Client) (r : ApiRequest) (n : Network) : Sending :=
  match c.urlFor r.path with
  | .error f => ⟨.error f, 0, [], n⟩
  | .ok u =>
    match c.prepare u r with
    | .error e => .last (.error (.http e)) n
    | .ok sent => c.attempts sent c.settings.retry.maxRetries 0 n

/-- The body of a response as JSON. -/
def bodyJson (r : Response) : Except Fault Json.Value :=
  match bodyText? r with
  | none => .error (.decode "Failed to read response body: error decoding response body")
  | some text =>
    match Json.readSorted text with
    | .ok v => .ok v
    | .error e => .error (.decode s!"Response is not valid JSON: {e.message}")

def fetchJson (c : Client) (r : ApiRequest) (n : Network) : Except Fault Json.Value × Network :=
  let sending := c.send r n
  (sending.result.bind bodyJson, sending.network)

end Client

end SourceSync.Http
