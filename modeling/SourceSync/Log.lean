/-
Log messages: text at a level, with every active secret masked. A line may name
its own level with its first word.
-/
import SourceSync.Message
import SourceSync.Secrets

namespace SourceSync.Log

/-- A log message whose text has the active secrets masked. -/
def format (secrets : Secrets) (level : Level) (text : String) : Message :=
  .log level (secrets.redact text)

/-- The level that the first word of a line names, and the other words. -/
def leadingLevel? (line : String) : Option (Level × List (List Char)) :=
  match Text.words line.toList with
  | [] => none
  | first :: rest => (Level.ofName? (String.ofList first)).map (·, rest)

/-- A line whose first word may name its level. The words behind it are joined by
single blanks; without a level the line stays as it is. -/
def ofLine (secrets : Secrets) (line : String) (fallback : Level) : Message :=
  match leadingLevel? line with
  | some (level, rest) => format secrets level (String.ofList (Text.joinWith ' ' rest))
  | none => format secrets fallback line

/-- A fatal log message on one line. -/
def fatalLine (secrets : Secrets) (text : String) : String :=
  (format secrets .fatal text).line

end SourceSync.Log
