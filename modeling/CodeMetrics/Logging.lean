import CodeMetrics.Console
import CodeMetrics.Settings.Sources
import CodeMetrics.Text.Path

/-!
# Logging

Where log records go in the course of a run. Setting logging up puts the console and perhaps a log file in place of
what was there before. Records of the program's own loggers are shown on the console and appended to the file if they
matter enough; in the file they stand for everyone who reads it afterwards. What becomes of other records, and of those
before the first setup, is left out.

A logger's records are passed on to the logger above it, which is found by the dots in its name. The program's own
loggers are those from which the root logger is reached in this way.
-/

namespace CodeMetrics

/-- The level from which on records are kept. -/
def Verbosity.level : Verbosity → Level
  | quiet => .error
  | normal => .warning
  | verbose => .debug

/-- The state of logging. -/
structure Logging where
  /-- No level is set before the first setup. -/
  level : Option Level
  /-- The stream of the console on which records are shown. -/
  console : Option Stream
  /-- What has been shown on the console so far. -/
  shown : List (Stream × Record)
  /-- The log file in use. -/
  file : Option String
  /-- What has been written to each log file so far, a text for each record. -/
  files : List (String × List String)
  /-- The names of the loggers that are in use. -/
  loggers : List String

namespace Logging

/-- The loggers of the parts of this program. -/
def ownLoggers : List String :=
  [ rootLogger, "qualytics.api", "qualytics.estree", "qualytics.metrics.aggregate", "qualytics.metrics.functions"
  , "qualytics.metrics.structure" ]

def initial : Logging := ⟨none, none, [], none, [], ownLoggers⟩

/-- Why a file cannot be opened for writing at its end. What may be read may be written, and files may be made in every
directory. -/
def openFault? (look : String → Entry) (path : String) : Option FileFault :=
  match look path with
  | .file _ => none
  | .directory => some .directory
  | .locked | .hidden => some .denied
  | .blocked => some .notDirectory
  | .nameTooLong => some .nameTooLong
  | .absent =>
    match look (Text.parentPath path) with
    | .directory => none
    | .hidden => some .denied
    | .file _ | .locked | .blocked => some .notDirectory
    | .nameTooLong => some .nameTooLong
    | .absent => some .missing

/-- The names above a logger, the nearest first: what stands before a dot of its name. The character before such a dot
is not looked at again, so that of two dots in a row only the second one counts. The name is given in reverse. -/
def namesAbove : List Char → List (List Char)
  | [] => []
  | '.' :: above =>
    match above with
    | [] => []
    | c :: rest => (c :: rest).reverse :: namesAbove rest
  | _ :: rest => namesAbove rest

/-- Whether a logger's records reach the root logger, each passing them on to the nearest one above it that is in
use; `fuel` is at least the length of its name. -/
def reachesRoot (loggers : List String) : Nat → String → Bool
  | 0, _ => false
  | fuel + 1, logger =>
    logger == rootLogger ||
      match ((namesAbove logger.toList.reverse).map String.ofList).find? loggers.contains with
      | some above => reachesRoot loggers fuel above
      | none => false

/-- Whether a logger's records reach the program's handlers. -/
def isOwn (state : Logging) (logger : String) : Bool := reachesRoot state.loggers (logger.length + 1) logger

/-- Shows a record on the console, if that is in use. -/
def display (state : Logging) (r : Record) : Logging :=
  match state.console with
  | some stream => { state with shown := state.shown ++ [(stream, r)] }
  | none => state

/-- Appends a record to the log file, if there is one. -/
def append (state : Logging) (r : Record) : Logging :=
  match state.file with
  | some path =>
    let lines := (Fields.get? state.files path).getD []
    { state with files := Fields.insert state.files path (lines ++ [r.line]) }
  | none => state

/-- Writes a record to the console and the log file, if it is one of the program's own and matters enough. -/
def write (state : Logging) (r : Record) : Logging :=
  let threshold := (state.level.map Level.rank).getD Level.warning.rank
  let loggers := if state.loggers.contains r.logger then state.loggers else r.logger :: state.loggers
  let state := { state with loggers }
  if state.isOwn r.logger && decide (threshold ≤ r.level.rank) then (state.display r).append r else state

def writeAll (state : Logging) (records : List Record) : Logging := records.foldl write state

/-- What records add to a log file, each with the time before it. -/
def fileText (time : String) (lines : List String) : String :=
  String.join (lines.map fun line => time ++ " - " ++ line ++ "\n")

/-- What there is under a path after log files have been opened and the records so far have been written. -/
def look (state : Logging) (s : Surroundings) (path : String) : Entry :=
  match Fields.get? state.files (Text.absolutePath s.work path), s.look path with
  | some lines, .file bytes => .file (bytes ++ Text.encodeUtf8 (fileText s.time lines))
  | some lines, .absent => .file (Text.encodeUtf8 (fileText s.time lines))
  | _, entry => entry

/-- Opens the log file of the settings, if they name one. Opening a file creates it. -/
def openFile (state : Logging) (s : Surroundings) (logFile : Value) : Logging × Option Error :=
  if !logFile.truthy then (state, none)
  else
    match logFile with
    | .str given =>
      let path := Text.absolutePath s.work given
      if Text.hasNull path then (state, some (.rejected .embeddedNull))
      else match openFault? s.look path with
      | some fault => (state, some (.file fault path))
      | none =>
        let lines := (Fields.get? state.files path).getD []
        ({ state with file := some path, files := Fields.insert state.files path lines }, none)
    | _ => (state, some (.mismatch .notText))

/-- Sets logging up for a run. If the log file cannot be opened, the console is in place already and the level is
still the former one. -/
def setup (state : Logging) (s : Surroundings) (settings : Settings) : Logging × Option Error :=
  match openFile { state with console := some .errors, file := none } s settings.logFile with
  | (state, some e) => (state, some e)
  | (state, none) =>
    let level := settings.verbosity.level
    let message := "Logging at " ++ level.text ++ " (verbosity=" ++ settings.verbosity.text ++ ")"
    (({ state with level := some level }).write ⟨.debug, rootLogger, message⟩, none)

end Logging

end CodeMetrics
