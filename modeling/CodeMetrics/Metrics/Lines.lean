import CodeMetrics.Syntax.Walk

/-!
# Logical lines of code

A logical line is one statement, declaration or class member, however many physical lines it spans. A node counts
once: the numbers of the nodes that have been seen are carried along, and may be carried on from one tree to another.
-/

namespace CodeMetrics

/-- The kinds of nodes that are logical lines. -/
def Kind.isCountable : Kind → Bool
  | .expressionStatement | .returnStatement | .throwStatement | .breakStatement | .continueStatement
  | .debuggerStatement | .forStatement | .forInStatement | .forOfStatement | .whileStatement | .doWhileStatement
  | .ifStatement | .switchStatement | .switchCase | .tryStatement | .withStatement
  | .variableDeclaration | .functionDeclaration | .classDeclaration | .tsInterfaceDeclaration
  | .tsTypeAliasDeclaration | .tsEnumDeclaration
  | .importDeclaration | .exportNamedDeclaration | .exportDefaultDeclaration | .exportAllDeclaration
  | .propertyDefinition | .tsParameterProperty => true
  | _ => false

namespace Node

/-- The lines counted so far and the numbers of the nodes seen. -/
structure LineCount where
  lines : Nat
  seen : List Nat

/-- Counts a node unless it has been seen. -/
def LineCount.visit (count : LineCount) (n : Node) : LineCount :=
  if n.id ∈ count.seen then count
  else ⟨if n.kind.isCountable then count.lines + 1 else count.lines, n.id :: count.seen⟩

/-- The logical lines of the tree below a node, those of nodes already seen left out. -/
def countLines (n : Node) (seen : List Nat) : LineCount := n.walk.foldl LineCount.visit ⟨0, seen⟩

/-- The logical lines of the tree below a node. -/
def logicalLines (n : Node) : Nat := (n.countLines []).lines

end Node

end CodeMetrics
