import CodeMetrics.Settings.Basic
import CodeMetrics.Text.Integer
import CodeMetrics.Text.Path
import CodeMetrics.Toml.Reader

/-!
# Where settings come from

Settings are gathered from up to five places, each overriding the ones before it: a file in the home directory, a file
in the working directory, a file that is named explicitly, environment variables, and overrides given directly. A
file's settings stand in its `qualytics` table, or at its top level if it has no such table.

Whether a file is there has to be asked first. Where that cannot be told, because a name is too long or a directory is
closed, the question itself fails, and so does loading.
-/

namespace CodeMetrics

/-- What there is under a path. -/
inductive Entry where
  | absent
  | directory
  | file (bytes : List Nat)
  /-- A file that may be seen, but neither read nor written. -/
  | locked
  /-- Whatever it is, a directory on the way to it may not be searched. -/
  | hidden
  /-- A component on the way is no directory. -/
  | blocked
  /-- A component is longer than names can be. -/
  | nameTooLong

/-- What a run can see of the machine. -/
structure Surroundings where
  look : String → Entry
  /-- The home directory, if it can be told. -/
  home : Option String
  /-- The working directory, which is there. -/
  work : String
  environment : List (String × String)
  /-- The columns of the console. It has no colours and can show every character. -/
  columns : Nat
  /-- The time at which the run takes place, as log records show it. -/
  time : String

/-- Whether there is anything under the path, or why that cannot be told. -/
def Entry.exists : Entry → Except FileFault Bool
  | directory | file _ | locked => .ok true
  | absent | blocked => .ok false
  | hidden => .error .denied
  | nameTooLong => .error .nameTooLong

/-- The bytes of a file, or why they cannot be read. -/
def Entry.bytes : Entry → Except FileFault (List Nat)
  | absent => .error .missing
  | directory => .error .directory
  | locked | hidden => .error .denied
  | blocked => .error .notDirectory
  | nameTooLong => .error .nameTooLong
  | file bytes => .ok bytes

namespace Surroundings

/-- The home directory that a text names. Slashes at its end do not count, and what starts with a tilde names none. -/
def homeNamed? (told : String) : Option String :=
  match Text.trimEnd (· == '/') told.toList with
  | [] => some "/"
  | '~' :: _ => none
  | path => some (Text.normalPath (String.ofList path))

/-- The settings file in the home directory. -/
def homeFile? (s : Surroundings) : Option String := s.home.map (Text.childPath · ".qualytics.toml")

/-- The settings file in the working directory. -/
def workFile (s : Surroundings) : String := Text.childPath s.work "qualytics.toml"

end Surroundings

namespace Settings

/-! ## Files -/

def failLoading {α : Type} (fault : SettingsFault) : Except Error α := .error (.problem (.settings fault))

/-- The settings that a file holds. -/
def fileSection (look : String → Entry) (path : String) : Except Error (List (String × Value)) := do
  let bytes ← match (look path).bytes with
    | .ok bytes => .ok bytes
    | .error fault => failLoading (.invalidFile path (fault.message path))
  let table ← match Toml.readBytes bytes with
    | .ok table => .ok table
    | .error cause => failLoading (.invalidFile path cause)
  match Fields.get? table "qualytics" with
  | none => return table
  | some (.object fields) => return fields
  | some _ => failLoading (.invalidSection path)

/-- Whether there is anything under a path. A failure to tell is passed on as it is. -/
def isThere (look : String → Entry) (path : String) : Except Error Bool :=
  (look path).exists.mapError fun fault => .file fault path

/-- The settings of a file that need not be there. -/
def optionalSection (look : String → Entry) (path : String) : Except Error (List (String × Value)) := do
  if ← isThere look path then fileSection look path else .ok []

/-- The settings of the explicitly named file, which has to be there. -/
def explicitSection (look : String → Entry) (path : Option String) : Except Error (List (String × Value)) :=
  match path with
  | none => .ok []
  | some path => do if ← isThere look path then fileSection look path else failLoading (.noFile path)

/-- The settings of the file in the home directory. -/
def homeSection (s : Surroundings) : Except Error (List (String × Value)) :=
  match s.homeFile? with
  | none => .error .unknownHome
  | some path => optionalSection s.look path

/-! ## Environment variables -/

/-- What the text of a variable is read as. -/
inductive VariableKind where
  | integer
  | truth
  | text
  /-- Variables of any other kind set nothing. -/
  | other
  deriving DecidableEq, Repr

/-- Reads the text of a variable. -/
def readVariable (text : String) : VariableKind → Except Rejection (Option Value)
  | .integer =>
    match Text.readInteger text with
    | .ok n => .ok (some (.int n))
    | .error cause => .error (.ofInteger text cause)
  | .truth =>
    -- only letters of the Latin alphabet can make up one of the words
    let lower := text.toLower
    if ["true", "1", "yes", "on"].contains lower then .ok (some (.bool true))
    else if ["false", "0", "no", "off"].contains lower then .ok (some (.bool false))
    else .error (.notTruthValue text)
  | .text => .ok (some (.str text))
  | .other => .ok none

/-- The variable of each setting and what it is read as. -/
def variableNames : List (String × String × VariableKind) :=
  [ ("workers", "QUALYTICS_WORKERS", .integer)
  , ("inheritance_cycle_policy", "QUALYTICS_INHERITANCE_CYCLE_POLICY", .text)
  , ("include_functions", "QUALYTICS_INCLUDE_FUNCTIONS", .truth)
  , ("verbosity", "QUALYTICS_VERBOSITY", .text)
  , ("decimals", "QUALYTICS_DECIMALS", .integer)
  , ("log_file", "QUALYTICS_LOG_FILE", .text) ]

/-- The settings of those variables that are set. -/
def variableSection (environment : List (String × String)) : Except Error (List (String × Value)) := do
  let found ← variableNames.mapM fun (key, name, kind) =>
    match Fields.get? environment name with
    | none => .ok none
    | some text =>
      match readVariable text kind with
      | .ok v => .ok (v.map fun v => (key, v))
      | .error r => failLoading (.invalidVariable name r.message)
  return found.filterMap fun field => field

/-! ## Overrides -/

/-- Replaces a flag by the verbosity that it stands for, if it is set. -/
def applyFlag (overrides : List (String × Value)) (flag verbosity : String) : List (String × Value) :=
  match Fields.get? overrides flag with
  | none => overrides
  | some v =>
    let overrides := if v.truthy then Fields.insert overrides "verbosity" (.str verbosity) else overrides
    overrides.filter fun (k, _) => k != flag

/-- The settings that overrides set: flags are replaced, `quiet` after `verbose`, and null sets nothing. -/
def overrideSection (overrides : List (String × Value)) : List (String × Value) :=
  (applyFlag (applyFlag overrides "verbose" "verbose") "quiet" "quiet").filter fun (_, v) =>
    match v with
    | .null => false
    | _ => true

/-- Gathers the settings of a run. -/
def load (s : Surroundings) (explicit : Option String) (overrides : List (String × Value)) : Except Error Settings := do
  let home ← homeSection s
  let project ← optionalSection s.look s.workFile
  let named ← explicitSection s.look explicit
  let fromVariables ← variableSection s.environment
  let merged := [home, project, named, fromVariables, overrideSection overrides].foldl Fields.insertAll []
  match of merged with
  | .error (.mismatch m) => failLoading (.invalidArguments m)
  | outcome => outcome

end Settings

end CodeMetrics
