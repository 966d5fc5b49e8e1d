import CodeMetrics.Log
import CodeMetrics.Metrics.Complexity
import CodeMetrics.Metrics.Halstead
import CodeMetrics.Metrics.Lines
import CodeMetrics.Metrics.Maintainability
import CodeMetrics.Metrics.Record
import CodeMetrics.Syntax.Parents
import CodeMetrics.Syntax.Walk

/-!
# Functions, methods and arrow functions

A unit is a function declaration, a function expression, an arrow function or a method. A method definition and the
function that holds its body are one unit, which spans the whole definition; that function is not reported again.
Nodes without a range of lines are not reported.

Units are measured one by one on their bodies and listed by their first line; units on the same line keep the order
in which they were found.
-/

namespace CodeMetrics

open Number

namespace Node

def anonymousName : Value := .str "<anonymous>"

def arrowName : Value := .str "<arrow>"

def computedName : Value := .str "<computed>"

/-- The name of a method, from its key. -/
def methodName (method : Node) : Value := Value.orElse (identifierName? (method.child "key")) computedName

/-- The name of a function that is neither declared under a name nor bound to one. -/
def placeholderName (n : Node) : Value := if n.kind = .arrowFunctionExpression then arrowName else anonymousName

/-- The name under which a unit is shown: its own, that of the variable or method it belongs to, or a placeholder. -/
def unitName (n : Node) (parents : Parents) : Value :=
  match n.kind with
  | .functionDeclaration => Value.orElse (identifierName? (n.child "id")) anonymousName
  | .methodDefinition => n.methodName
  | _ =>
    match parents.find? n.id with
    | none => n.placeholderName
    | some parent =>
      match parent.kind with
      | .variableDeclarator => (identifierName? (parent.child "id")).getD n.placeholderName
      | .methodDefinition => parent.methodName
      | _ => n.placeholderName

def unitKind (n : Node) : UnitKind :=
  match n.kind with
  | .methodDefinition => .method
  | .arrowFunctionExpression => .arrow
  | _ => .function

/-- The metrics of one function, from its body. A body that is an expression is returned, which counts as a line of
its own; a function without a body has no lines and a single path. -/
def bodyMetrics {σ : Type} [Scalar σ] (body : Option Node) : Except Error (Metrics Nat σ) :=
  match body with
  | none => .ok (Metrics.ofCounts 0 1 (Maintainability.index (Scalar.zero : σ) 1 0) 0 0 1)
  | some body => do
    let complexity ← body.complexity
    let volume : σ ← body.volume
    let lines := if body.kind = .blockStatement then body.logicalLines else body.logicalLines + 1
    return Metrics.ofCounts lines complexity (Maintainability.index volume complexity lines) 0 0 1

end Node

/-- A unit that has been found and not yet measured. -/
structure Candidate where
  name : Value
  kind : UnitKind
  span : Span
  /-- The node whose body is measured. -/
  function : Option Node

namespace Candidate

/-- The units among a sequence of nodes, those with a number in `processed` left out. -/
def among (parents : Parents) : List Nat → List Node → List Candidate
  | _, [] => []
  | processed, n :: rest =>
    match n.span with
    | none => among parents processed rest
    | some span =>
      if n.id ∈ processed then among parents processed rest
      else if n.kind = .methodDefinition then
        let function := n.child "value"
        ⟨n.unitName parents, n.unitKind, span, function⟩
          :: among parents ((function.map Node.id).toList ++ n.id :: processed) rest
      else if n.kind.isFunction then
        ⟨n.unitName parents, n.unitKind, span, some n⟩ :: among parents (n.id :: processed) rest
      else among parents processed rest

/-- Measures a unit on its body. -/
def measure {σ : Type} [Scalar σ] (c : Candidate) : Except Error (CodeUnit Nat σ Num) := do
  let metrics ← Node.bodyMetrics (c.function.bind fun f => f.child "body")
  return { name := c.name, kind := c.kind, startLine := c.span.start, endLine := c.span.stop, metrics }

end Candidate

/-! ## Several at a time -/

/-- Whether units are measured by several workers: there has to be more than one of either. -/
def inParallel (workers : Option Num) (units : Nat) : Bool :=
  match workers with
  | some n => (Num.int 1).lt n && 1 < units
  | none => false

/-- Measures units one after the other, or all of them before the first result is looked at. -/
def measureAll {σ : Type} [Scalar σ] (workers : Option Num) (found : List Candidate) :
    Except Error (List (CodeUnit Nat σ Num)) :=
  if inParallel workers found.length then (found.map Candidate.measure).mapM fun result => result
  else found.mapM Candidate.measure

/-! ## Order -/

/-- Whether a unit may stand before another one, each with its position: by first line, and by position on one line. -/
def inOrder {σ : Type} (a b : CodeUnit Nat σ Num × Nat) : Bool :=
  if a.1.startLine.same b.1.startLine then decide (a.2 ≤ b.2) else !b.1.startLine.lt a.1.startLine

/-- Units listed by first line, those on one line in the order given. -/
def sortUnits {σ : Type} (units : List (CodeUnit Nat σ Num)) : List (CodeUnit Nat σ Num) :=
  (units.zipIdx.mergeSort inOrder).map (·.1)

namespace Node

/-- The units of a tree. -/
def candidates (n : Node) (parents : Parents) : List Candidate := Candidate.among parents [] n.walk

/-- The units of a tree, measured and listed by first line. -/
def units {σ : Type} [Scalar σ] (n : Node) (parents : Parents) (workers : Option Num) :
    Traced (List (CodeUnit Nat σ Num)) := do
  let found := n.candidates parents
  Traced.note .debug "qualytics.metrics.functions"
    ("Discovered " ++ natText found.length ++ " function-like units")
  let measured ← Traced.lift (measureAll workers found)
  return sortUnits measured

/-- The units of a tree that stands by itself: names come from the parents in it. -/
def ownUnits {σ : Type} [Scalar σ] (n : Node) (workers : Option Num) : Traced (List (CodeUnit Nat σ Num)) :=
  n.units (Parents.of n) workers

end Node

end CodeMetrics
