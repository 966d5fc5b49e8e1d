import CodeMetrics.Settings.Sources
import CodeMetrics.Text.Path

/-!
# Command-line arguments

Before the command there can only be requests for help. Behind it options may stand before, between and after the paths,
up to a `--`. Long options are spelled out and take their value after `=` or as the next argument; short options may be
joined, and the rest of the argument is the value of the first one that takes a value. An option given again overrides
the one before.
-/

namespace CodeMetrics.CommandLine

/-- An option of the `analyze` command. -/
inductive Flag where
  | format
  | noFunctions
  | workers
  | config
  | verbose
  | quiet
  | logFile
  | help
  deriving DecidableEq, Repr

namespace Flag

def takesValue : Flag → Bool
  | format | workers | config | logFile => true
  | noFunctions | verbose | quiet | help => false

def ofLong? (name : String) : Option Flag :=
  [ ("--format", format), ("--no-functions", noFunctions), ("--workers", workers), ("--config", config)
  , ("--verbose", verbose), ("--quiet", quiet), ("--log-file", logFile), ("--help", help) ].lookup name

def ofShort? (c : Char) : Option Flag :=
  [('f', format), ('w', workers), ('c', config), ('v', verbose), ('q', quiet)].lookup c

end Flag

/-- The arguments taken apart: the options that were given, latest first, and the rest in order. -/
structure Parsed where
  options : List (Flag × String)
  positional : List String

namespace Parsed

def empty : Parsed := ⟨[], []⟩

def set (p : Parsed) (o : Flag) (value : String) : Parsed := { p with options := (o, value) :: p.options }

def has (p : Parsed) (o : Flag) : Bool := p.options.any fun (o', _) => o' == o

/-- The value that was given last. -/
def value? (p : Parsed) (o : Flag) : Option String := (p.options.find? fun (o', _) => o' == o).map (·.2)

end Parsed

/-- Whether an argument is an option: it starts with a dash and goes on. -/
def isOption (arg : String) : Bool := arg.startsWith "-" && decide (1 < arg.length)

/-- The options that an argument of joined short options gives, and whether the last one still needs a value. -/
def shortOptions : List Char → Option (List (Flag × String) × Option Flag)
  | [] => some ([], none)
  | c :: rest => do
    let o ← Flag.ofShort? c
    if o.takesValue then
      if rest.isEmpty then return ([], some o) else return ([(o, String.ofList rest)], none)
    else
      let (others, needing) ← shortOptions rest
      return ((o, "") :: others, needing)

/-- The option that an argument starting with `-` gives: options with their values, and perhaps one that takes the
next argument as its value. -/
def options (arg : String) : Option (List (Flag × String) × Option Flag) :=
  let cs := arg.toList
  let name := cs.takeWhile (· != '=')
  match Flag.ofLong? (String.ofList name), cs.drop name.length with
  | some o, [] => if o.takesValue then some ([], some o) else some ([(o, "")], none)
  | some o, _ :: value => if o.takesValue then some ([(o, String.ofList value)], none) else none
  | none, _ =>
    match cs with
    | '-' :: '-' :: _ => none
    | _ :: rest => shortOptions rest
    | [] => none

/-- Takes the arguments apart, those of a flag that waits for its value first; nothing if one of them cannot be
understood. -/
def parse (p : Parsed) (waiting : Option Flag) : List String → Option Parsed
  | [] => if waiting.isSome then none else some p
  | arg :: rest =>
    match waiting with
    | some flag => parse (p.set flag arg) none rest
    | none =>
      if arg = "--" then some { p with positional := p.positional ++ rest }
      else if isOption arg then
        match options arg with
        | none => none
        | some (given, needing) => parse (given.foldl (fun p (o, v) => p.set o v) p) needing rest
      else parse { p with positional := p.positional ++ [arg] } none rest

/-- What the `analyze` command is asked to do. Its paths are in normal form. -/
structure Request where
  paths : List String
  format : String
  noFunctions : Bool
  workers : Option Int
  config : Option String
  verbose : Bool
  quiet : Bool
  logFile : Option String

/-- What a command line asks for. -/
inductive Command where
  | help
  | version
  | analyze (request : Request)

/-- A path that can be read as a file. -/
def isReadable (look : String → Entry) (path : String) : Bool :=
  match look path with
  | .file _ => true
  | _ => false

/-- A number of workers: a whole number from 1 to 32. -/
def workers? (text : String) : Option Int :=
  match Text.readPlainInteger? text with
  | some n => if 1 ≤ n ∧ n ≤ 32 then some n else none
  | none => none

/-- The normal form of a path under which a file can be read. -/
def readable? (look : String → Entry) (path : String) : Option String :=
  let path := Text.normalPath path
  if isReadable look path then some path else none

/-- The normal form of a path that a file can have and that is neither a directory's nor a locked file's. -/
def writable? (look : String → Entry) (path : String) : Option String :=
  let path := Text.normalPath path
  match look path with
  | .directory | .locked => none
  | _ => if Text.hasNull path then none else some path

/-- An optional value that has to pass a check. -/
def checked {α : Type} (value : Option String) (check : String → Option α) : Option (Option α) :=
  match value with
  | none => some none
  | some text => (check text).map some

/-- Checks the arguments of the `analyze` command against the files that are there. -/
def request? (look : String → Entry) (p : Parsed) : Option Request := do
  if p.positional.isEmpty then none
  let paths ← p.positional.mapM (readable? look)
  let workers ← checked (p.value? .workers) workers?
  let config ← checked (p.value? .config) (readable? look)
  let logFile ← checked (p.value? .logFile) (writable? look)
  return {
    paths
    format := (p.value? .format).getD "table"
    noFunctions := p.has .noFunctions
    workers, config
    verbose := p.has .verbose
    quiet := p.has .quiet
    logFile }

/-- Takes the arguments of the `version` command apart: whether they ask for help, and what else there is; nothing if
there is another option. -/
def versionArguments (helpful : Bool) (others : Nat) : List String → Option (Bool × Nat)
  | [] => some (helpful, others)
  | arg :: rest =>
    if arg = "--" then some (helpful, others + rest.length)
    else if arg = "--help" then versionArguments true others rest
    else if isOption arg then none
    else versionArguments helpful (others + 1) rest

/-- The `version` command takes nothing but a request for help, which goes before all else. -/
def versionCommand (args : List String) : Option Command := do
  let (helpful, others) ← versionArguments false 0 args
  if helpful then return .help
  if others = 0 then return .version else none

/-- The `analyze` command: a request for help goes before all checks. -/
def analyzeCommand (look : String → Entry) (args : List String) : Option Command := do
  let p ← parse .empty none args
  if p.has .help then return .help
  return .analyze (← request? look p)

/-- The options before the command, which can only ask for help, and what follows them. -/
def leading (helpful : Bool) : List String → Option (Bool × List String)
  | [] => some (helpful, [])
  | arg :: rest =>
    if arg = "--" then some (helpful, rest)
    else if arg = "--help" then leading true rest
    else if isOption arg then none
    else some (helpful, arg :: rest)

/-- What a command line asks for; nothing if it is misused. -/
def command? (look : String → Entry) (args : List String) : Option Command := do
  match ← leading false args with
  | (true, _) => return .help
  | (false, "version" :: rest) => versionCommand rest
  | (false, "analyze" :: rest) => analyzeCommand look rest
  | (false, _) => none

/-- The paths that a command line names, in normal form. -/
def namedPaths (args : List String) : List String :=
  let parsed := match leading false args with
    | some (false, "analyze" :: rest) => parse .empty none rest
    | _ => none
  match parsed with
  | none => []
  | some p =>
    (p.positional ++ (p.value? .config).toList ++ (p.value? .logFile).toList).map Text.normalPath

end CodeMetrics.CommandLine
