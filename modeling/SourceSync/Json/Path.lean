/-
Paths into JSON values. A path is a list of keys, followed through objects only;
its text is the keys joined by dots, with an optional `$`, `.` or `$.` in front,
and the empty text is the path to the value itself.
-/
import SourceSync.Json.Value
import SourceSync.Text.Search

namespace SourceSync.Json

/-- The value reached by successive keys, if every step meets an object that has the key. -/
def Value.follow? (v : Value) : List String → Option Value
  | [] => some v
  | key :: rest => (v.member? key).bind (fun w => w.follow? rest)

namespace Path

/-- The keys of a dotted text. -/
def keys (cs : List Char) : List String :=
  (Text.splitOn '.' cs).map String.ofList

/-- The text without one leading `$` and then one leading dot. -/
def body (text : String) : List Char :=
  let cs := match text.toList with
    | '$' :: rest => rest
    | cs => cs
  match cs with
  | '.' :: rest => rest
  | cs => cs

def parse (text : String) : List String :=
  match body text with
  | [] => []
  | c :: cs => keys (c :: cs)

end Path

/-- The value at the path a text stands for. -/
def Value.lookup? (v : Value) (path : String) : Option Value :=
  v.follow? (Path.parse path)

end SourceSync.Json
