import CodeMetrics.Metrics.Analysis
import CodeMetrics.Settings.Sources
import CodeMetrics.Text.Path

/-!
# Analysis of files

A file is read as UTF-8, its line ends are made line feeds, and its text is read as one JSON document. A file that
cannot be read or holds no tree is a `Problem`; bytes that are not UTF-8, and whole numbers with too many digits, are
rejected as values.
-/

namespace CodeMetrics

open Number

/-- The document that a text holds; `path` is where it came from. -/
def documentOf (path : String) (text : List Char) : Except Error Value :=
  match Json.read text with
  | .ok v => .ok v
  | .error f =>
    match f.fault with
    | .integerTooLong digits => .error (.rejected (.integerTooLong digits))
    | fault => .error (.problem (.treeFormat (.invalidJson fault (f.line text)) path))

/-- The document in a file. Messages show the path in its normal form. -/
def readDocument (look : String → Entry) (path : String) : Except Error Value :=
  let path := Text.normalPath path
  if Text.hasNull path then .error (.rejected .embeddedNull)
  else match (look path).bytes with
  | .error fault => .error (.problem (.fileAccess path (fault.message path)))
  | .ok bytes =>
    match Text.decodeUtf8 bytes with
    | .error e => .error (.rejected (.undecodable e))
    | .ok text => documentOf path (Text.newlines text)

/-- The tree in a file. -/
def Node.loadFile (look : String → Entry) (path : String) : Traced Node := do
  let document ← Traced.lift (readDocument look path)
  Node.load document

/-- The analysis of a file, with every failure to load it passed on. -/
def analyzeFile {σ : Type} [Scalar σ] (look : String → Entry) (path : String) (settings : Settings) :
    Traced (Analysis Nat σ Num) := do
  let root ← Node.loadFile look path
  root.analyze settings (Parents.of root)

/-- The analysis of a file. Unless `strict` is set, a problem with loading it is only logged, and the analysis is
then empty. -/
def analyzePath {σ : Type} [Scalar σ] (look : String → Entry) (path : String) (settings : Settings) (strict : Bool) :
    Traced (Analysis Nat σ Num) :=
  let loaded := Node.loadFile look path
  match loaded.outcome, strict with
  | .error (.problem p), false =>
    let failure : Record := ⟨.error, "qualytics.api", "Failed to load " ++ path ++ ": " ++ p.message⟩
    ⟨loaded.log ++ [failure], .ok Analysis.empty⟩
  | _, _ => do
    let root ← loaded
    root.analyze settings (Parents.of root)

end CodeMetrics
