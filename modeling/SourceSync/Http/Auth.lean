/-
Credentials of requests: a bearer token, a key in a header or in the query, or a
user name with a password.
-/
import SourceSync.Text.Base64
import SourceSync.Text.Quote
import SourceSync.Text.Utf8

namespace SourceSync.Http

/-- Where a key is sent. -/
inductive KeyLocation where
  | header
  | query
  deriving DecidableEq, Repr

def KeyLocation.name : KeyLocation → String
  | .header => "header"
  | .query => "query"

/-- How requests are authenticated. -/
inductive Authenticator where
  | none
  | bearer (token : String)
  | apiKey (name value : String) (location : KeyLocation)
  | basic (username password : String)
  deriving DecidableEq, Repr

namespace Authenticator

/-- User name and password as they are sent. -/
def basicToken (username password : String) : String :=
  String.ofList (Text.Base64.encode (Text.Utf8.encode (username ++ ":" ++ password)))

/-- The header with the credentials, if they are sent in one. -/
def header? : Authenticator → Option (String × String)
  | .none => Option.none
  | .bearer token => some ("Authorization", "Bearer " ++ token)
  | .apiKey name value .header => some (name, value)
  | .apiKey _ _ .query => Option.none
  | .basic username password => some ("Authorization", "Basic " ++ basicToken username password)

/-- The query pair with the credentials, if they are sent in one. -/
def query? : Authenticator → Option (String × String)
  | .apiKey name value .query => some (name, value)
  | _ => Option.none

/-- The credentials themselves, which are to be kept secret. -/
def credentials : Authenticator → List String
  | .none => []
  | .bearer token => [token]
  | .apiKey _ value _ => [value]
  | .basic username password => [password, basicToken username password]

def kind : Authenticator → String
  | .none => "none"
  | .bearer _ => "bearer"
  | .apiKey _ _ _ => "api_key"
  | .basic _ _ => "basic"

/-- How an authenticator is shown to developers: its kind, and nothing secret. -/
def describe (a : Authenticator) : String :=
  s!"Authenticator \x7b kind: {Text.quoted a.kind}, .. \x7d"

end Authenticator

end SourceSync.Http
