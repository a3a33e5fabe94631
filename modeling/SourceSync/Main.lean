/-
The program: read the arguments and the files they name, run the command, and
write its messages. Nothing is decided here.
-/
import SourceSync.CommandLine.Runner

namespace SourceSync.CommandLine

/-- What an error of the system says about a file. -/
def fileErrorOf (e : IO.Error) : FileError :=
  match e with
  | .noFileOrDirectory _ _ _ => .missing
  | .inappropriateType _ _ _ => .isDirectory
  | e => .other (toString e)

def readOctets (path : String) : IO (Except FileError (List UInt8)) := do
  try
    return .ok (← IO.FS.readBinFile path).toList
  catch e => return .error (fileErrorOf e)

def readFiles : List String → IO Files
  | [] => return Files.none
  | path :: rest => do
    let octets ← readOctets path
    let others ← readFiles rest
    return fun p => if p = path then octets else others p

/-- What the program does with its arguments. There is no transport, so nobody answers
requests. -/
def exitOf (args : List String) : IO Exit := do
  match parse args with
  | .error e => return Exit.ofUsage e
  | .ok i =>
    let files ← readFiles i.paths
    let stamp ← IO.monoMsNow
    return Exit.ofReport i.format (run .none i files .unlimited stamp .silent)

end SourceSync.CommandLine

def main (args : List String) : IO UInt32 := do
  let exit ← SourceSync.CommandLine.exitOf args
  let stdout ← IO.getStdout
  stdout.putStr exit.output
  stdout.flush
  return exit.code
