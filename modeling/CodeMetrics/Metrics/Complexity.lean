import CodeMetrics.Syntax.Walk

/-!
# Cyclomatic complexity

One more than the number of branch points in a tree: nodes that open another path through the code. A `default:` case
has no test and opens none; a short-circuit operator opens one.
-/

namespace CodeMetrics

/-- The kinds that always open a path. -/
def Kind.isControlFlow : Kind → Bool
  | .ifStatement | .forStatement | .forInStatement | .forOfStatement | .whileStatement | .doWhileStatement
  | .catchClause | .conditionalExpression | .tryStatement | .throwStatement => true
  | _ => false

/-- The operators that evaluate their right side only sometimes. -/
def shortCircuit : List String := ["&&", "||", "??"]

namespace Node

/-- Whether an operator is a short-circuit one. Lists and objects cannot be looked up. -/
def isShortCircuit (operator : Option Value) : Except Error Bool :=
  match operator with
  | none => .ok false
  | some (.str s) => .ok (shortCircuit.contains s)
  | some v => if v.key?.isSome then .ok false else .error (.mismatch .unhashable)

/-- Whether a node opens another path through the code. -/
def isBranchPoint (n : Node) : Except Error Bool :=
  if n.kind.isControlFlow then .ok true
  else
    match n.kind with
    | .switchCase => .ok (n.child "test").isSome
    | .logicalExpression => isShortCircuit (Fields.get? n.attrs "operator")
    | _ => .ok false

/-- The cyclomatic complexity of the whole tree below a node. -/
def complexity (n : Node) : Except Error Nat := do
  let branches ← n.walk.mapM isBranchPoint
  return 1 + branches.count true

end Node

end CodeMetrics
