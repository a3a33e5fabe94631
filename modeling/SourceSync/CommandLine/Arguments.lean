/-
The arguments of the command line. They are read at two levels, before and behind
the name of the command; global options may stand on both, and those behind the
name win. An option is settled when its values are complete and the next option or
the end of its level is reached; only then are its values looked at.
-/
import SourceSync.Text.Digits
import SourceSync.Text.Search

namespace SourceSync.CommandLine

/-- Why arguments do not say what to do. -/
inductive UsageError where
  /-- A value is missing, or not one of those allowed. -/
  | invalidValue
  | unknownArgument
  | invalidSubcommand
  | missingSubcommand
  /-- There are no arguments at all. -/
  | nothingGiven
  /-- A value that is not a number. -/
  | valueValidation
  /-- An option that is given twice. -/
  | argumentConflict
  /-- A value for an option that takes none. -/
  | tooManyValues
  | displayHelp
  | displayVersion
  deriving DecidableEq, Repr

def UsageError.name : UsageError → String
  | .invalidValue => "InvalidValue"
  | .unknownArgument => "UnknownArgument"
  | .invalidSubcommand => "InvalidSubcommand"
  | .missingSubcommand => "MissingSubcommand"
  | .nothingGiven => "DisplayHelpOnMissingArgumentOrSubcommand"
  | .valueValidation => "ValueValidation"
  | .argumentConflict => "ArgumentConflict"
  | .tooManyValues => "TooManyValues"
  | .displayHelp => "DisplayHelp"
  | .displayVersion => "DisplayVersion"

/-- How messages are laid out. -/
inductive OutputFormat where
  | json
  | pretty
  deriving DecidableEq, Repr

inductive Opt where
  | connector
  | config
  | configJson
  | state
  | stateJson
  | format
  | verbose
  | catalog
  | streams
  | checkpointInterval
  | help
  | version
  deriving DecidableEq, Repr

namespace Opt

def long : Opt → String
  | .connector => "connector"
  | .config => "config"
  | .configJson => "config-json"
  | .state => "state"
  | .stateJson => "state-json"
  | .format => "format"
  | .verbose => "verbose"
  | .catalog => "catalog"
  | .streams => "streams"
  | .checkpointInterval => "checkpoint-interval"
  | .help => "help"
  | .version => "version"

def letter? : Opt → Option Char
  | .connector => some 'c'
  | .config => some 'C'
  | .state => some 's'
  | .format => some 'f'
  | .verbose => some 'v'
  | .help => some 'h'
  | .version => some 'V'
  | _ => none

def takesValue : Opt → Bool
  | .verbose => false
  | .help => false
  | .version => false
  | _ => true

/-- The options that stand before and behind the name of the command. -/
def everywhere : List Opt :=
  [.connector, .config, .configJson, .state, .stateJson, .format, .verbose, .help]

end Opt

/-- What the program is asked to do. -/
inductive CommandName where
  | check
  | discover
  | read
  | validate
  deriving DecidableEq, Repr

def commandNames : List (String × CommandName) :=
  [("check", .check), ("discover", .discover), ("read", .read), ("validate", .validate)]

def commandNamed? (name : String) : Option CommandName :=
  (commandNames.find? (fun c => c.1 == name)).map (·.2)

/-- The two levels of arguments: before the name of the command, and behind it. -/
inductive Level where
  | top
  | behind (c : CommandName)
  deriving DecidableEq, Repr

def Level.options : Level → List Opt
  | .top => Opt.everywhere ++ [.version]
  | .behind .read => Opt.everywhere ++ [.catalog, .streams, .checkpointInterval]
  | .behind _ => Opt.everywhere

/-- The values given for options, in the order in which they were settled. -/
abbrev Given : Type := List (Opt × List String)

def Given.values (g : Given) (o : Opt) : List String :=
  g.flatMap (fun e => if e.1 = o then e.2 else [])

def Given.has (g : Given) (o : Opt) : Bool :=
  g.any (fun e => e.1 = o)

/-- A level while it is read: what has been settled, an option whose value is still to
come or has just come, and whether only plain arguments may follow. -/
structure Reading where
  given : Given
  pending : Option (Opt × List String)
  plainOnly : Bool

namespace Reading

/-- A level of which nothing has been read. -/
def start : Reading := ⟨[], none, false⟩

/-- Look at a value. Paths must not be empty. -/
def checkValue (o : Opt) (value : String) : Except UsageError Unit :=
  match o with
  | .format => if value == "json" || value == "pretty" then .ok () else .error .invalidValue
  | .checkpointInterval =>
    if (Text.unsigned64? value.toList).isSome then .ok () else .error .valueValidation
  | .connector => nonempty
  | .config => nonempty
  | .state => nonempty
  | .catalog => nonempty
  | _ => .ok ()
where
  nonempty : Except UsageError Unit :=
    if value.isEmpty then .error .invalidValue else .ok ()

/-- The names in a list of streams, which commas separate. -/
def streamNames (value : String) : List String :=
  (Text.splitOn ',' value.toList).map String.ofList

/-- Settle an option with its values. Only lists of streams may be given more than once. -/
def settle (r : Reading) (o : Opt) (values : List String) : Except UsageError Reading :=
  match o with
  | .help => .error .displayHelp
  | .version => .error .displayVersion
  | .streams =>
    if values.isEmpty then .error .invalidValue
    else .ok { r with given := r.given ++ [(o, values.flatMap streamNames)] }
  | o =>
    if o.takesValue && values.isEmpty then .error .invalidValue
    else if r.given.has o then .error .argumentConflict
    else
      match values.forM (checkValue o) with
      | .error e => .error e
      | .ok _ => .ok { r with given := r.given ++ [(o, values)] }

def settlePending (r : Reading) : Except UsageError Reading :=
  match r.pending with
  | none => .ok r
  | some (o, values) => ({ r with pending := none }).settle o values

/-- An option without a value, or with one that is attached to it. -/
def withAttached (r : Reading) (o : Opt) (values : List String) : Except UsageError Reading :=
  match r.settlePending with
  | .error e => .error e
  | .ok r => r.settle o values

/-- An option whose value is to come. -/
def await (r : Reading) (o : Opt) : Except UsageError Reading :=
  match r.settlePending with
  | .error e => .error e
  | .ok r => .ok { r with pending := some (o, []) }

/-- Whether the next argument is a value. -/
def isAwaiting (r : Reading) : Bool :=
  match r.pending with
  | some (_, []) => true
  | _ => false

/-- The value of the pending option. -/
def take (r : Reading) (value : String) : Reading :=
  { r with pending := r.pending.map (fun p => (p.1, p.2 ++ [value])) }

/-- Read an option by its long name, behind the two dashes; a value may be attached with
an equals sign. -/
def readLong (l : Level) (r : Reading) (body : List Char) : Except UsageError Reading :=
  let name := String.ofList (body.takeWhile (· != '='))
  let attached := match body.dropWhile (· != '=') with
    | [] => none
    | _ :: value => some (String.ofList value)
  match l.options.find? (fun o => o.long == name), attached with
  | none, _ => .error .unknownArgument
  | some o, some value => if o.takesValue then r.withAttached o [value] else .error .tooManyValues
  | some o, none => if o.takesValue then r.await o else r.withAttached o []

/-- Read options by their letters, behind the dash. The first one that takes a value takes
the letters behind it as that value. -/
def readLetters (l : Level) : Reading → List Char → Except UsageError Reading
  | r, [] => .ok r
  | r, c :: rest =>
    match l.options.find? (fun o => o.letter? == some c) with
    | none => .error .unknownArgument
    | some o =>
      if o.takesValue then
        match rest with
        | [] => r.await o
        | '=' :: value => r.withAttached o [String.ofList value]
        | value => r.withAttached o [String.ofList value]
      else
        match r.withAttached o [] with
        | .error e => .error e
        | .ok r => readLetters l r rest

/-- What is wrong with an argument that is no option. -/
def unexpected (l : Level) (r : Reading) (a : String) : UsageError :=
  match l with
  | .top =>
    if r.plainOnly && ((commandNamed? a).isSome || a == "help") then .unknownArgument
    else .invalidSubcommand
  | .behind _ => .unknownArgument

end Reading

/-- What asking for help about a command answers. -/
def helpAbout (topics : List String) : UsageError :=
  match topics with
  | [] => .displayHelp
  | topic :: rest =>
    if ((commandNamed? topic).isSome || topic == "help") && rest.isEmpty then .displayHelp
    else .invalidSubcommand

/-- Read the arguments of a level, up to the name of a command if it is the first one. -/
def readLevel (l : Level) :
    Reading → List String → Except UsageError (Reading × Option (CommandName × List String))
  | r, [] => .ok (r, none)
  | r, a :: rest =>
    if r.plainOnly then .error (r.unexpected l a)
    else if l = .top ∧ r.isAwaiting = false ∧ a = "help" then .error (helpAbout rest)
    else
      match (if l = .top ∧ r.isAwaiting = false then commandNamed? a else none), a.toList with
      | some c, _ => .ok (r, some (c, rest))
      | none, ['-', '-'] => readLevel l { r with plainOnly := true } rest
      | none, '-' :: '-' :: body =>
        match r.readLong l body with
        | .error e => .error e
        | .ok r => readLevel l r rest
      | none, '-' :: c :: letters =>
        match r.readLetters l (c :: letters) with
        | .error e => .error e
        | .ok r => readLevel l r rest
      | none, _ =>
        if r.isAwaiting then readLevel l (r.take a) rest else .error (r.unexpected l a)

/-- Options of the reading command. -/
structure ReadOptions where
  catalog : Option String
  streams : List String
  checkpointInterval : Nat
  deriving DecidableEq, Repr

inductive Command where
  | check
  | discover
  | read (o : ReadOptions)
  | validate
  deriving DecidableEq, Repr

/-- All that the arguments say. -/
structure Invocation where
  connector : Option String
  config : Option String
  configJson : Option String
  state : Option String
  stateJson : Option String
  format : OutputFormat
  verbose : Bool
  command : Command
  deriving DecidableEq, Repr

/-- The value of a global option: behind the name of the command, or else before it. -/
def globalValue? (top behind : Given) (o : Opt) : Option String :=
  ((behind.values o).head?).or (top.values o).head?

/-- The command and its options. -/
def commandOf (name : CommandName) (behind : Given) : Command :=
  match name with
  | .check => .check
  | .discover => .discover
  | .validate => .validate
  | .read =>
    .read
      { catalog := (behind.values .catalog).head?
        streams := behind.values .streams
        checkpointInterval :=
          ((behind.values .checkpointInterval).head?.bind (Text.unsigned64? ·.toList)).getD 100 }

/-- All that the settled options of both levels say. -/
def invocation (name : CommandName) (top behind : Given) : Invocation :=
  { connector := globalValue? top behind .connector
    config := globalValue? top behind .config
    configJson := globalValue? top behind .configJson
    state := globalValue? top behind .state
    stateJson := globalValue? top behind .stateJson
    format := if globalValue? top behind .format = some "pretty" then .pretty else .json
    verbose := top.has .verbose || behind.has .verbose
    command := commandOf name behind }

/-- Read the arguments. The options before the name of the command are settled last. -/
def parse (args : List String) : Except UsageError Invocation := do
  let (top, command) ← readLevel .top .start args
  match command with
  | none =>
    let top ← top.settlePending
    if top.given.isEmpty then .error .nothingGiven else .error .missingSubcommand
  | some (name, rest) =>
    let (behind, _) ← readLevel (.behind name) .start rest
    let behind ← behind.settlePending
    let top ← top.settlePending
    return invocation name top.given behind.given

end SourceSync.CommandLine
