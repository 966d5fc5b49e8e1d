import CodeMetrics.Metrics.Structure
import CodeMetrics.Metrics.Units
import CodeMetrics.Settings.Basic
import CodeMetrics.Syntax.Loader

/-!
# Analysis of a file

The units of a tree and the metrics of the whole of it, nested functions included. A cyclic inheritance graph ends the
analysis or, under the other policy, gives depth zero and a warning.
-/

namespace CodeMetrics

open Number

namespace Node

/-- The class count and the greatest inheritance depth of a tree, under a policy for cycles. -/
def inheritance (n : Node) (policy : CyclePolicy) : Traced (Nat × Nat) :=
  let found := n.structure none
  match found.outcome, policy with
  | .error (.problem (.inheritanceCycle types passes)), .zero =>
    let warning : Record :=
      ⟨.warning, "qualytics.metrics.aggregate",
        (Problem.inheritanceCycle types passes).message ++ "; reporting inheritance depth 0"⟩
    ⟨found.log ++ [warning], .ok (n.classCount, 0)⟩
  | _, _ => do
    let s ← found
    return (s.classCount, s.maxDepth)

/-- The analysis of a tree, with the names of units taken from given parents. -/
def analyze {σ : Type} [Scalar σ] (n : Node) (settings : Settings) (parents : Parents) :
    Traced (Analysis Nat σ Num) := do
  let units ← n.units parents settings.workers
  let complexity ← Traced.lift n.complexity
  let volume : σ ← Traced.lift n.volume
  let lines := n.logicalLines
  let (classes, depth) ← n.inheritance settings.cyclePolicy
  let index := Maintainability.index volume complexity lines
  let metrics := Metrics.ofCounts lines complexity index depth classes units.length
  Traced.lift (Analysis.of countValue Value.ofNum metrics units)

/-- The metrics of the whole of a tree that stands by itself. -/
def ownMetrics {σ : Type} [Scalar σ] (n : Node) (settings : Settings) : Traced (Metrics Nat σ) := do
  let analysis ← n.analyze settings (Parents.of n)
  return analysis.metrics

end Node

/-- The analysis of the tree that a document describes. -/
def analyzeDocument {σ : Type} [Scalar σ] (document : Value) (settings : Settings) : Traced (Analysis Nat σ Num) := do
  let root ← Node.load document
  root.analyze settings (Parents.of root)

end CodeMetrics
