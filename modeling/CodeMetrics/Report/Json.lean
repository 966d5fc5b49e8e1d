import CodeMetrics.Json.Writer
import CodeMetrics.Metrics.Record
import CodeMetrics.Settings.Basic

/-!
# Reports as JSON

One file is reported as its analysis; any other number of files as a list of paths with analyses. The list of
functions is empty when functions are left out. A whole number with too many digits to be written out is refused.
-/

namespace CodeMetrics

/-- An analysed file and the path it is shown under. -/
structure AnalyzedFile where
  path : Value
  analysis : Reported

namespace Report

/-- An analysis without its functions, if they are left out. -/
def withFunctions (settings : Settings) (a : Reported) : Reported :=
  if settings.includeFunctions.truthy then a else { a with units := [] }

def jsonAnalysis (settings : Settings) (file : AnalyzedFile) : Value := (withFunctions settings file.analysis).toValue

/-- The report of several files as a document value. -/
def jsonValue (settings : Settings) (files : List AnalyzedFile) : Value :=
  match files with
  | [file] => jsonAnalysis settings file
  | files =>
    .object
      [("files", .list (files.map fun file =>
        .object [("path", file.path), ("analysis", jsonAnalysis settings file)]))]

/-- The report as a text, if all of it can be written out. -/
def json (settings : Settings) (files : List AnalyzedFile) : Except Error String :=
  let report := jsonValue settings files
  if report.isWritable then .ok (Json.write report) else .error (.rejected .unwritable)

end Report

end CodeMetrics
