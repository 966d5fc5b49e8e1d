import CodeMetrics.Error
import CodeMetrics.Metrics.Scalar
import CodeMetrics.Value.Order

/-!
# Results

`Metrics` are the seven numbers of a file or of one function; `CodeUnit` is a function with its name, its lines and
its metrics; `Analysis` is a file with all its units. They are generic in the types of counts, scores and lines:
measuring yields natural numbers, doubles and the lines of a document, while records that are given from outside keep
whatever values they came with.

`Analysis.of` is the only way to put an analysis together. It checks that the file counts its units and that the
units are in order of their first lines.
-/

namespace CodeMetrics

open Number

/-- The metrics of a file or of one function. -/
structure Metrics (κ σ : Type) where
  linesOfCode : κ
  cyclomaticComplexity : κ
  maintainabilityIndex : σ
  depthOfInheritance : κ
  classCount : κ
  methodCount : κ
  averageMethodComplexity : σ
  deriving DecidableEq, Repr

/-- How a unit was declared. -/
inductive UnitKind where
  | function
  | method
  | arrow
  deriving DecidableEq, Repr

namespace UnitKind

def text : UnitKind → String
  | function => "function"
  | method => "method"
  | arrow => "arrow"

def ofText? (s : String) : Option UnitKind := [function, method, arrow].find? fun k => k.text == s

end UnitKind

/-- A function, method or arrow function with its metrics. -/
structure CodeUnit (κ σ ℓ : Type) where
  name : Value
  kind : UnitKind
  startLine : ℓ
  endLine : ℓ
  metrics : Metrics κ σ

/-- The metrics of a file and of its units. -/
structure Analysis (κ σ ℓ : Type) where
  metrics : Metrics κ σ
  units : List (CodeUnit κ σ ℓ)

/-! ## Change of types -/

def Metrics.map {κ κ' σ σ' : Type} (f : κ → κ') (g : σ → σ') (m : Metrics κ σ) : Metrics κ' σ' :=
  { linesOfCode := f m.linesOfCode
    cyclomaticComplexity := f m.cyclomaticComplexity
    maintainabilityIndex := g m.maintainabilityIndex
    depthOfInheritance := f m.depthOfInheritance
    classCount := f m.classCount
    methodCount := f m.methodCount
    averageMethodComplexity := g m.averageMethodComplexity }

def CodeUnit.map {κ κ' σ σ' ℓ ℓ' : Type} (f : κ → κ') (g : σ → σ') (h : ℓ → ℓ') (u : CodeUnit κ σ ℓ) :
    CodeUnit κ' σ' ℓ' :=
  { name := u.name, kind := u.kind, startLine := h u.startLine, endLine := h u.endLine, metrics := u.metrics.map f g }

def Analysis.map {κ κ' σ σ' ℓ ℓ' : Type} (f : κ → κ') (g : σ → σ') (h : ℓ → ℓ') (a : Analysis κ σ ℓ) :
    Analysis κ' σ' ℓ' :=
  { metrics := a.metrics.map f g, units := a.units.map (CodeUnit.map f g h) }

/-- An analysis as measured. -/
abbrev Measured := Analysis Nat Float Num

/-- An analysis with values of any kind, as reports take it. -/
abbrev Reported := Analysis Value Value Value

/-- A count as a value. -/
def countValue (n : Nat) : Value := .int n

def Metrics.report (m : Metrics Nat Float) : Metrics Value Value := m.map countValue Value.float

def CodeUnit.report (u : CodeUnit Nat Float Num) : CodeUnit Value Value Value :=
  u.map countValue Value.float Value.ofNum

def Measured.report (a : Measured) : Reported := a.map countValue Value.float Value.ofNum

/-! ## Assembly -/

/-- Metrics of nothing. -/
def Metrics.none {σ : Type} [Scalar σ] : Metrics Nat σ := ⟨0, 0, Scalar.zero, 0, 0, 0, Scalar.zero⟩

/-- The metrics of measured code; the average is over its methods, and zero without any. -/
def Metrics.ofCounts {σ : Type} [Scalar σ] (lines complexity : Nat) (maintainability : σ)
    (depth classes methods : Nat) : Metrics Nat σ :=
  { linesOfCode := lines
    cyclomaticComplexity := complexity
    maintainabilityIndex := Scalar.finiteOrZero maintainability
    depthOfInheritance := depth
    classCount := classes
    methodCount := methods
    averageMethodComplexity := Scalar.finiteOrZero <|
      if 0 < methods then Scalar.ratio complexity methods else Scalar.zero }

/-- Puts an analysis together, given how its counts and lines compare as values. -/
def Analysis.of {κ σ ℓ : Type} (count : κ → Value) (line : ℓ → Value) (metrics : Metrics κ σ)
    (units : List (CodeUnit κ σ ℓ)) : Except Error (Analysis κ σ ℓ) :=
  if !(count metrics.methodCount).same (countValue units.length) then
    .error (.rejected (.methodCount (count metrics.methodCount) units.length))
  else
    match Value.inOrder? (units.map fun u => line u.startLine) with
    | some true => .ok ⟨metrics, units⟩
    | some false => .error (.rejected .unorderedUnits)
    | none => .error (.mismatch (.notOrdered "<" "str" "int"))

/-- The analysis of a file that could not be loaded. -/
def Analysis.empty {σ ℓ : Type} [Scalar σ] : Analysis Nat σ ℓ := ⟨Metrics.none, []⟩

/-! ## Records from given numbers -/

namespace Given

/-- A given number, with zero for null and for what is not finite. An integer beyond every double is refused. -/
def finiteOrZero : Value → Except Error Num
  | .null => .ok (.int 0)
  | v =>
    match v.num? with
    | none => .error (.mismatch .notNumber)
    | some a =>
      match a.toFloat? with
      | none => .error .overflow
      | some x => .ok (if (Binary.ofFloat x).isFinite then a else .int 0)

/-- The whole part of a finite number. -/
def wholePart : Num → Num
  | .int n => .int n
  | .flag b => .int (Num.ofFlag b)
  | .float x =>
    match Binary.ofFloat x with
    | .finite negative m q => .int (truncate negative m q)
    | _ => .int 0

/-- A count: the whole part of a given number. -/
def count (v : Value) : Except Error Num := (finiteOrZero v).map wholePart

/-- A score: a given number as a double. -/
def score (v : Value) : Except Error Num := do
  let a ← finiteOrZero v
  match a.toFloat? with
  | some x => return .float x
  | none => throw .overflow

/-- The integer that a whole number or truth value is. -/
def int? : Num → Option Int
  | .int n => some n
  | .flag b => some (Num.ofFlag b)
  | .float _ => none

/-- A quotient, rounded once. The divisor is positive. -/
def quotient (a b : Num) : Except Error Float :=
  match int? a, int? b with
  | some m, some n =>
    match divInt? m n with
    | some x => .ok x
    | none => .error .overflow
  | _, _ =>
    match a.toFloat?, b.toFloat? with
    | some x, some y => .ok (x / y)
    | _, _ => .error .overflow

/-- Complexity over methods, and zero without methods. -/
def average (complexity methods : Value) : Except Error Value := do
  match methods.num? with
  | none => throw (.mismatch (.notOrdered ">" methods.kindName "int"))
  | some m =>
    if Num.lt (.int 0) m then
      match complexity.num? with
      | none => throw (.mismatch .notNumber)
      | some c => return .float (← quotient c m)
    else return .float 0.0

/-- The names of the numbers that a record is made from; the first three must be given. -/
def names : List String := ["loc", "complexity", "maintainability", "depth", "classes", "methods"]

/-- A record from named numbers, of which those left out are zero. -/
def record (given : List (String × Value)) : Except Error (Metrics Num Num) := do
  if given.any fun (k, _) => !names.contains k then throw (.mismatch .missingArgument)
  match Fields.get? given "loc", Fields.get? given "complexity", Fields.get? given "maintainability" with
  | some loc, some complexity, some maintainability =>
    let orZero := fun key => (Fields.get? given key).getD (.int 0)
    let mean ← average complexity (orZero "methods")
    return {
      linesOfCode := ← count loc
      cyclomaticComplexity := ← count complexity
      maintainabilityIndex := ← score maintainability
      depthOfInheritance := ← count (orZero "depth")
      classCount := ← count (orZero "classes")
      methodCount := ← count (orZero "methods")
      averageMethodComplexity := ← score mean }
  | _, _, _ => throw (.mismatch .missingArgument)

/-- The names of the values of finished metrics. -/
def fieldNames : List String :=
  [ "logical_lines_of_code", "cyclomatic_complexity", "maintainability_index", "depth_of_inheritance", "class_count"
  , "method_count", "average_method_complexity" ]

/-- Finished metrics from named values, which are kept as they are; those left out are zero. -/
def metrics (given : List (String × Value)) : Except Error (Metrics Value Value) := do
  if given.any fun (k, _) => !fieldNames.contains k then throw (.mismatch .missingArgument)
  let count := fun key => (Fields.get? given key).getD (.int 0)
  let score := fun key => (Fields.get? given key).getD (.float 0.0)
  return {
    linesOfCode := count "logical_lines_of_code"
    cyclomaticComplexity := count "cyclomatic_complexity"
    maintainabilityIndex := score "maintainability_index"
    depthOfInheritance := count "depth_of_inheritance"
    classCount := count "class_count"
    methodCount := count "method_count"
    averageMethodComplexity := score "average_method_complexity" }

/-- How a unit was declared, by its given name. -/
def unitKind (kind : Value) : Except Error UnitKind :=
  match kind.str?.bind UnitKind.ofText? with
  | some k => .ok k
  | none => .error (.rejected (.unknownUnitKind kind))

end Given

/-! ## As document values -/

def Metrics.toValue (m : Metrics Value Value) : Value :=
  .object
    [ ("linesOfCode", m.linesOfCode)
    , ("cyclomaticComplexity", m.cyclomaticComplexity)
    , ("maintainabilityIndex", m.maintainabilityIndex)
    , ("depthOfInheritance", m.depthOfInheritance)
    , ("classCount", m.classCount)
    , ("methodCount", m.methodCount)
    , ("averageMethodComplexity", m.averageMethodComplexity) ]

def CodeUnit.toValue (u : CodeUnit Value Value Value) : Value :=
  .object
    [ ("name", u.name)
    , ("type", .str u.kind.text)
    , ("startLine", u.startLine)
    , ("endLine", u.endLine)
    , ("metrics", u.metrics.toValue) ]

def Analysis.toValue (a : Reported) : Value :=
  .object [("fileMetrics", a.metrics.toValue), ("functions", .list (a.units.map CodeUnit.toValue))]

end CodeMetrics
