/-
Pages of records. A page holds its records at a path, and the token of the next
page at another one. The next page is asked for only when somebody pulls on after
the last record; a token that comes twice in a row ends the sequence.
-/
import SourceSync.Fault
import SourceSync.Json.Path
import SourceSync.Json.Printer
import SourceSync.Http.Network
import SourceSync.Source

namespace SourceSync.Paging

open Json

/-- The fault of a page whose records cannot be taken out. -/
def extractionFault (path expected : String) (found : Value) : Fault :=
  .recordExtraction path s!"expected {expected}, found {found.kind}"

/-- Items that all have to be objects. -/
def objects (path : String) : List Value → Except Fault (List Object)
  | [] => .ok []
  | .object r :: rest => (objects path rest).map (r :: ·)
  | v :: _ => .error (extractionFault path "an object" v)

/-- The records of a page: the objects of an array, a single object, or none for null. -/
def extractRecords (page : Value) (path : String) : Except Fault (List Object) :=
  match page.lookup? path with
  | none => .error (.recordExtraction path "path not found in response")
  | some (.array items) => objects path items
  | some (.object r) => .ok [r]
  | some .null => .ok []
  | some v => .error (extractionFault path "an array of objects" v)

/-- The token of the next page: a text that is not empty, or a number. -/
def nextPageToken (page : Value) (path : String) : Option String :=
  match page.lookup? path with
  | some (.string s) => if s.isEmpty then none else some s
  | some (.number n) => some (String.ofList n.text)
  | _ => none

/-- The records of a page, and the token of the page to ask for next. -/
structure Page where
  records : List Object
  next : Option String

/-- What a page says after `sent` was sent as its token. -/
def Page.ofBody (recordPath : String) (nextPath : Option String) (sent : Option String)
    (body : Value) : Except Fault Page :=
  (extractRecords body recordPath).map (fun records =>
    { records
      next := (nextPath.bind (nextPageToken body)).filter (fun token => some token != sent) })

/-- How a page is fetched: the token to send, and the network before and after. -/
abbrev Fetch : Type := Option String → Http.Network → Except Fault Page × Http.Network

/-- All pulls of the pages from the one for a token on. `fuel` bounds the number of pages. -/
def pagesFrom (fetch : Fetch) : Nat → Option String → Http.Network → Reading Http.Network
  | 0, _, n => ⟨[], n⟩
  | fuel + 1, token, n =>
    match fetch token n with
    | (.error f, after) => ⟨[⟨.fault f, after⟩], after⟩
    | (.ok page, after) =>
      let here := page.records.map (fun r => (⟨.record r, after⟩ : Pull Http.Network))
      match page.next with
      | none => ⟨here, after⟩
      | some next =>
        let rest := pagesFrom fetch fuel (some next) after
        { rest with pulls := here ++ rest.pulls }

/-- All pulls of a sequence of pages. Every page that arrives has used up an outcome of
the network, so there is at most one more page than there are outcomes. -/
def pages (fetch : Fetch) (n : Http.Network) : Reading Http.Network :=
  pagesFrom fetch (n.ahead.length + 1) none n

end SourceSync.Paging
