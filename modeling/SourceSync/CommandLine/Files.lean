/-
Files by path, and why one cannot be read as text. A path is followed step by step
from the current directory, whose files are given, or from the root.
-/
import SourceSync.Fault
import SourceSync.Table
import SourceSync.Text.Search
import SourceSync.Text.Utf8

namespace SourceSync.CommandLine

/-- Why a file cannot be read. -/
inductive FileError where
  | missing
  | isDirectory
  | notDirectory
  | notText
  | nameTooLong
  | zeroInName
  | other (message : String)
  deriving DecidableEq, Repr

def FileError.message : FileError → String
  | .missing => "No such file or directory (os error 2)"
  | .isDirectory => "Is a directory (os error 21)"
  | .notDirectory => "Not a directory (os error 20)"
  | .notText => "stream did not contain valid UTF-8"
  | .nameTooLong => "File name too long (os error 36)"
  | .zeroInName => "file name contained an unexpected NUL byte"
  | .other message => message

/-- The octets of files, by path. -/
abbrev Files : Type := String → Except FileError (List UInt8)

namespace Files

def none : Files := fun _ => .error .missing

def text (files : Files) (path : String) : Except FileError String :=
  match files path with
  | .error e => .error e
  | .ok octets =>
    match Text.Utf8.decode? octets with
    | some cs => .ok (String.ofList cs)
    | Option.none => .error .notText

/-- The text of a file that is read for some purpose. -/
def require (files : Files) (purpose path : String) : Except Fault String :=
  Fault.withinLazily (fun _ => s!"Failed to read {purpose} file '{path}'")
    ((files.text path).mapError fun e => .io e.message)

/-- Where a path leads: to or below the current directory, to the root, to the devices, or
to a directory outside, of which nothing else is known. -/
inductive Spot where
  | here (path : List String)
  | root
  | devices
  | outside
  /-- The device that holds nothing. -/
  | emptyDevice
  deriving DecidableEq, Repr

/-- The directories that the root holds. -/
def topDirectories : List String :=
  ["bin", "boot", "etc", "home", "lib", "media", "mnt", "opt", "proc", "root", "run", "sbin",
    "srv", "sys", "tmp", "usr", "var"]

/-- The files of the current directory, by the steps to them. -/
abbrev Listing : Type := List (List String × List UInt8)

/-- Whether a spot is a directory. -/
def isDirectory (files : Listing) : Spot → Bool
  | .here path => path.isEmpty || !files.any (fun f => f.1 == path)
  | .emptyDevice => false
  | _ => true

/-- The spot above another one. -/
def above : Spot → Spot
  | .here [] => .outside
  | .here path => .here path.dropLast
  | .devices => .root
  | .root => .root
  | _ => .outside

/-- The spot of a name in a directory. -/
def enter (files : Listing) (spot : Spot) (name : String) : Except FileError Spot :=
  if 255 < name.utf8ByteSize then .error .nameTooLong
  else
    match spot with
    | .here path =>
      let path := path ++ [name]
      if files.any (fun f => path.isPrefixOf f.1) then .ok (.here path) else .error .missing
    | .root =>
      if name == "dev" then .ok .devices
      else if topDirectories.contains name then .ok .outside
      else .error .missing
    | .devices => if name == "null" then .ok .emptyDevice else .error .missing
    | _ => .error .missing

/-- Follow steps from a spot. -/
def follow (files : Listing) : Spot → List String → Except FileError Spot
  | spot, [] => .ok spot
  | spot, step :: rest =>
    if !isDirectory files spot then .error .notDirectory
    else if step == "." then follow files spot rest
    else if step == ".." then follow files (above spot) rest
    else (enter files spot step).bind (fun next => follow files next rest)

/-- The steps of a path. A slash at its end asks for a directory, like a step that stays. -/
def steps (path : List Char) : List String :=
  let names := ((Text.splitOn '/' path).filter (fun s => !s.isEmpty)).map String.ofList
  if path.getLast? == some '/' then names ++ ["."] else names

/-- The octets at the spot that a path leads to. -/
def lookup (files : Listing) (path : List Char) : Except FileError (List UInt8) :=
  let start := if path.head? == some '/' then .root else .here []
  match follow files start (steps path) with
  | .error e => .error e
  | .ok .emptyDevice => .ok []
  | .ok (.here place) =>
    match files.find? (fun f => f.1 == place) with
    | some f => .ok f.2
    | Option.none => .error .isDirectory
  | .ok _ => .error .isDirectory

/-- The files of a current directory that holds nothing else. -/
def ofTable (t : Table (List UInt8)) : Files :=
  fun path =>
    if path.isEmpty then .error .missing
    else if path.toList.contains '\x00' then .error .zeroInName
    else if 4095 < path.utf8ByteSize then .error .nameTooLong
    else lookup (t.map (fun f => ((steps f.1.toList).filter (· != "."), f.2))) path.toList

end Files

end SourceSync.CommandLine
