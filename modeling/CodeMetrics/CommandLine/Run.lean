import CodeMetrics.CommandLine.Arguments
import CodeMetrics.Files
import CodeMetrics.Logging
import CodeMetrics.Report.Table
import CodeMetrics.Text.Highlight

/-!
# Running a command line

A command is run on what it can see of the machine, and its result is what it puts on the console, its exit code and the
state of logging. A report is printed only when every file has been analysed. Problems end the run with code 1 and
rejected values with code 2, after one line of error text; any other error is passed on to the caller, who may show it.
-/

namespace CodeMetrics.CommandLine

/-- A run of a command line. -/
structure Run where
  logging : Logging
  /-- What is printed beside the records, and on which stream. -/
  printed : List (Stream × Content)
  /-- The exit code, or the error that is passed on. -/
  exit : Except Error Nat

namespace Run

/-- All that a run puts on the console. Records come first: the last of them is written before anything is printed. -/
def written (run : Run) : List (Stream × Content) :=
  run.logging.shown.map (fun (stream, r) => (stream, .record r)) ++ run.printed

/-- What a run puts on a stream. -/
def on (run : Run) (stream : Stream) : List Content :=
  (run.written.filter (·.1 == stream)).map (·.2)

end Run

def versionText : String := "qualytics 0.2.0\n"

/-- The error text as a console of a width shows it: its markup is interpreted, its lines are broken where they would not
fit, the styles of what is left are read, and what is measured as too wide is cut off. -/
def errorText (columns : Nat) (message : String) : Except Error String := do
  let styled ← (Text.Markup.interpret ("[red]Error:[/red] " ++ message)).mapError Error.ofMarkup
  if columns = 0 then return ""
  let rows := styled.highlighted.rows .fold columns (·.crop .fold columns)
  (rows.forM Text.StyledRow.check).mapError Error.ofMarkup
  return String.join (rows.map fun r => String.ofList (Text.fit columns r.segments).flatten ++ "\n")

/-- Shows the text of an error before the run ends. -/
def failed (columns exit : Nat) (message : String) (logging : Logging) : Run :=
  match errorText columns message with
  | .ok text => ⟨logging, [(.errors, .text text)], .ok exit⟩
  | .error e => ⟨logging, [], .error e⟩

/-- How an error ends a run. -/
def endWith (columns : Nat) (e : Error) (logging : Logging) : Run :=
  match e with
  | .problem p => failed columns 1 p.message logging
  | .rejected r => failed columns 2 r.message logging
  | e => ⟨logging, [], .error e⟩

/-- The overrides that a request makes. -/
def Request.overrides (r : Request) : List (String × Value) :=
  [ ("workers", match r.workers with | some n => .int n | none => .null)
  , ("verbose", .bool r.verbose)
  , ("quiet", .bool r.quiet)
  , ("log_file", match r.logFile with | some path => .str path | none => .null) ]
    ++ (if r.noFunctions then [("include_functions", .bool false)] else [])

/-- The log file that a run would write. -/
def logPath? (s : Surroundings) (args : List String) : Option String :=
  match command? s.look args with
  | some (.analyze r) =>
    match Settings.load s r.config r.overrides with
    | .ok settings => settings.logFile.str?.map (Text.absolutePath s.work)
    | .error _ => none
  | _ => none

/-- Analyses the files of a request one by one, each failure ending it. A file is read as it is when its turn comes:
if it is the log file too, the records so far are in it. -/
def analyzeAll (s : Surroundings) (settings : Settings) (logging : Logging) :
    List String → Except Error (List AnalyzedFile) × Logging
  | [] => (.ok [], logging)
  | path :: rest =>
    let analysed : Traced Measured := analyzePath (logging.look s) path settings true
    let logging := logging.writeAll analysed.log
    match analysed.outcome with
    | .error e => (.error e, logging)
    | .ok a =>
      let (others, logging) := analyzeAll s settings logging rest
      (others.map (⟨.str path, a.report⟩ :: ·), logging)

/-- Makes the report that a request asks for: the settings come first, then logging and the format, then the files. -/
def report (s : Surroundings) (r : Request) : Except Error String × Logging :=
  match Settings.load s r.config r.overrides with
  | .error e => (.error e, .initial)
  | .ok settings =>
    match Logging.initial.setup s settings with
    | (logging, some e) => (.error e, logging)
    | (logging, none) =>
      match Format.of (.str r.format) with
      | .error e => (.error e, logging)
      | .ok format =>
        let (analysed, logging) := analyzeAll s settings logging r.paths
        (analysed >>= format.printed s.columns settings, logging)

/-- Runs the `analyze` command: the report is printed, or the error that stands in its place ends the run. -/
def analyze (s : Surroundings) (r : Request) : Run :=
  match report s r with
  | (.ok text, logging) => ⟨logging, [(.output, .text text)], .ok 0⟩
  | (.error e, logging) => endWith s.columns e logging

/-- Runs a command line. -/
def run (s : Surroundings) (args : List String) : Run :=
  match command? s.look args with
  | none => ⟨.initial, [(.errors, .usage)], .ok 2⟩
  | some .help => ⟨.initial, [(.output, .help)], .ok 0⟩
  | some .version => ⟨.initial, [(.output, .text versionText)], .ok 0⟩
  | some (.analyze r) => analyze s r

end CodeMetrics.CommandLine
