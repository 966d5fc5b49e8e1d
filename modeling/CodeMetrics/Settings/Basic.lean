import CodeMetrics.Error

/-!
# Settings

The six settings of a run. `Settings.of` makes them from named values, checks the ones that have a range, and keeps the
values as they came: a number of workers may be a double, and any value may stand where only its truth matters.
-/

namespace CodeMetrics

/-- What to do about a cyclic inheritance graph: report depth zero with a warning, or fail. -/
inductive CyclePolicy where
  | zero
  | fail
  deriving DecidableEq, Repr

inductive Verbosity where
  | quiet
  | normal
  | verbose
  deriving DecidableEq, Repr

def CyclePolicy.text : CyclePolicy → String
  | zero => "zero"
  | fail => "raise"

def Verbosity.text : Verbosity → String
  | quiet => "quiet"
  | normal => "normal"
  | verbose => "verbose"

/-- The settings of a run. -/
structure Settings where
  /-- How many units are measured at a time. -/
  workers : Option Num
  cyclePolicy : CyclePolicy
  includeFunctions : Value
  verbosity : Verbosity
  /-- The decimal places of scores in tables. -/
  decimals : Num
  logFile : Value

namespace Settings

def default : Settings :=
  { workers := none, cyclePolicy := .zero, includeFunctions := .bool true, verbosity := .normal
    decimals := .int 2, logFile := .null }

/-- The names of the settings, in order. -/
def names : List String :=
  ["workers", "inheritance_cycle_policy", "include_functions", "verbosity", "decimals", "log_file"]

/-- Refuses a value, by showing it if it can be written out. -/
def invalid {α : Type} (key : String) (value : Value) (reason : String) : Except Error α :=
  .error (if value.isWritable then .problem (.invalidSetting key value reason) else .rejected .unwritable)

/-- At least one worker, or none named. -/
def checkWorkers (v : Value) : Except Error (Option Num) :=
  match v with
  | .null => .ok none
  | v =>
    match v.num? with
    | none => .error (.mismatch (.notOrdered "<" v.kindName "int"))
    | some n => if n.lt (.int 1) then invalid "workers" v "must be at least 1" else .ok (some n)

def checkPolicy (v : Value) : Except Error CyclePolicy :=
  match [CyclePolicy.zero, .fail].find? fun p => v.str? == some p.text with
  | some p => .ok p
  | none => invalid "inheritance_cycle_policy" v "must be one of zero, raise"

def checkVerbosity (v : Value) : Except Error Verbosity :=
  match [Verbosity.quiet, .normal, .verbose].find? fun p => v.str? == some p.text with
  | some p => .ok p
  | none => invalid "verbosity" v "must be one of quiet, normal, verbose"

/-- From no decimal places to ten. -/
def checkDecimals (v : Value) : Except Error Num :=
  match v.num? with
  | none => .error (.mismatch (.notOrdered "<=" "int" v.kindName))
  | some n => if (Num.int 0).le n && n.le (.int 10) then .ok n else invalid "decimals" v "must be between 0 and 10"

/-- The name under which the settings themselves are passed along; it is taken. -/
def ownName : String := "self"

/-- Settings from named values; those left out have their default. The first unknown name is refused before any
value is looked at. -/
def of (given : List (String × Value)) : Except Error Settings :=
  match given.find? fun (k, _) => !names.contains k with
  | some (k, _) => .error (.mismatch (if k = ownName then .repeatedArgument k else .unknownArgument k))
  | none => do
    let value := fun key fallback => (Fields.get? given key).getD fallback
    let workers ← checkWorkers (value "workers" .null)
    let cyclePolicy ← checkPolicy (value "inheritance_cycle_policy" (.str "zero"))
    let verbosity ← checkVerbosity (value "verbosity" (.str "normal"))
    let decimals ← checkDecimals (value "decimals" (.int 2))
    return { workers, cyclePolicy, verbosity, decimals
             includeFunctions := value "include_functions" (.bool true)
             logFile := value "log_file" .null }

/-- The settings as named values, in order. -/
def toFields (s : Settings) : List (String × Value) :=
  [ ("workers", match s.workers with | some n => .ofNum n | none => .null)
  , ("inheritance_cycle_policy", .str s.cyclePolicy.text)
  , ("include_functions", s.includeFunctions)
  , ("verbosity", .str s.verbosity.text)
  , ("decimals", .ofNum s.decimals)
  , ("log_file", s.logFile) ]

end Settings

end CodeMetrics
