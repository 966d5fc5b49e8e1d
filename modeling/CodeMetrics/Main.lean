import CodeMetrics.CommandLine.Run
import Std.Time

/-!
# The program

Looks up the files and variables that a command line can need, runs the command line on them, and shows the outcome. All
decisions are made by `CommandLine.run`.
-/

namespace CodeMetrics

/-- What there is under a path that is closed: it can be located unless a directory on the way is closed too. -/
def Entry.closed (path : String) : IO Entry := do
  try
    let _ ← IO.FS.realPath path
    return .locked
  catch _ => return .hidden

/-- What there is under a path. -/
def Entry.read (path : String) : IO Entry := do
  try
    let bytes ← IO.FS.readBinFile path
    return .file (bytes.toList.map UInt8.toNat)
  catch
    | .inappropriateType _ code _ => return if code = 21 then .directory else .blocked
    | .invalidArgument _ code _ => return if code = 36 then .nameTooLong else .absent
    | .permissionDenied .. => Entry.closed path
    | _ => return .absent

/-- What there is under some paths; nothing is known to be under the others. -/
def snapshot (paths : List String) : IO (String → Entry) := do
  let entries ← paths.mapM fun path => do return (path, ← Entry.read path)
  return fun path => (Fields.get? entries path).getD .absent

/-- The variables that settings are read from. -/
def readVariables : IO (List (String × String)) := do
  let found ← Settings.variableNames.mapM fun (_, name, _) => do return (← IO.getEnv name).map fun text => (name, text)
  return found.filterMap fun v => v

/-- The time of day, as log records show it. -/
def readTime : IO String := do
  let now ← Std.Time.PlainDateTime.now
  return now.format "uuuu-MM-dd HH:mm:ss"

/-- Appends text to a file. -/
def appendText (path text : String) : IO Unit := do
  let handle ← IO.FS.Handle.mk path .append
  handle.putStr text

def usage : String := "Usage: qualytics analyze [OPTIONS] PATHS... | qualytics version"

/-- The columns of the console: those that a variable tells, if it is a natural number. -/
def readColumns : IO Nat := do
  let told := (← IO.getEnv "COLUMNS").filter fun text => text.toList.all Char.isDigit
  return (told.bind String.toNat?).getD 80

/-- Puts something on the console. -/
def put (time : String) (stream : Stream) (content : Content) : IO Unit := do
  let text := match content with
    | .text text => text
    | .record r => time ++ " " ++ r.level.text ++ " " ++ r.message ++ "\n"
    | .help | .usage => usage ++ "\n"
  match stream with
  | .output => IO.print text
  | .errors => IO.eprint text

/-- Runs a command line on this machine. -/
def runHere (args : List String) : IO UInt32 := do
  let home := (← IO.getEnv "HOME").bind Surroundings.homeNamed?
  let work := toString (← IO.currentDir)
  let environment ← readVariables
  let first : Surroundings :=
    { look := fun _ => .absent, home, work, environment, columns := ← readColumns, time := ← readTime }
  let paths := CommandLine.namedPaths args ++ first.homeFile?.toList ++ [first.workFile]
  let first := { first with look := ← snapshot paths }
  let logPaths := match CommandLine.logPath? first args with
    | some path => [path, Text.parentPath path]
    | none => []
  let run := CommandLine.run { first with look := ← snapshot (paths ++ logPaths) } args
  for (path, lines) in run.logging.files do
    appendText path (Logging.fileText first.time lines)
  for (stream, content) in run.written do
    put first.time stream content
  match run.exit with
  | .ok code => return code.toUInt32
  | .error e =>
    IO.eprintln e.message
    return 1

end CodeMetrics

def main (args : List String) : IO UInt32 := CodeMetrics.runHere args
