import CodeMetrics.Metrics.Scalar
import CodeMetrics.Syntax.Walk
import CodeMetrics.Text.Double

/-!
# Halstead counts

Operators are the operator tokens of expressions, calls by the name of what is called, the conditional operator and
`new`. Operands are identifiers, literals and the property names of plain member accesses.

With `n` distinct tokens among `N`, the volume is `N · log₂ n`.
-/

namespace CodeMetrics

open Number

/-- One occurrence of an operator or operand. -/
inductive Token where
  | operator (value : Value)
  | operand (value : Value)

/-! ## Spelling of literals -/

/-- A number as an operand. Whole numbers below `10^21` keep all their digits; beyond that they are spelled as the
closest double. -/
def Num.operandText : Num → String
  | int n =>
    if n.natAbs < pow10 21 then intText n
    else
      match ofInt? n with
      | some x => Style.operand.text x
      | none => signed (decide (n < 0)) Style.operand.infinity
  | float x => Style.operand.text x
  | flag b => (flag b).text

/-- The text of a value, if it can be written out. -/
def Value.written (v : Value) : Except Error String :=
  if v.isWritable then .ok v.text else .error (.rejected .unwritable)

/-- A literal value as an operand. -/
def Value.literalText : Value → Except Error String
  | null => .ok "null"
  | bool b => .ok (if b then "true" else "false")
  | int n => .ok (Num.int n).operandText
  | float x => .ok (Num.float x).operandText
  | v => v.written

/-- A number as an operand, where a text stands for the number that it spells. -/
def Value.numberText (v : Value) : Except Error String :=
  match v, v.num? with
  | str s, _ =>
    match Text.readDouble? s with
    | some x => .ok (Num.float x).operandText
    | none => .error (.rejected (.notDouble s))
  | _, some a => .ok a.operandText
  | _, none => .error (.mismatch .notNumber)

/-! ## Counts -/

/-- Distinct tokens, first occurrences in order, and numbers of occurrences. -/
structure Halstead where
  operators : List Value
  operands : List Value
  operatorCount : Nat
  operandCount : Nat

namespace Halstead

def empty : Halstead := ⟨[], [], 0, 0⟩

/-- Adds a token to distinct ones. Lists and objects are no tokens. -/
def insertToken (tokens : List Value) (v : Value) : Except Error (List Value) :=
  match v.key? with
  | none => .error (.mismatch .unhashable)
  | some k => .ok (if tokens.any fun t => t.key? == some k then tokens else tokens ++ [v])

/-- Counts one more token. -/
def add (h : Halstead) : Token → Except Error Halstead
  | .operator v => do
    let operators ← insertToken h.operators v
    return { h with operators, operatorCount := h.operatorCount + 1 }
  | .operand v => do
    let operands ← insertToken h.operands v
    return { h with operands, operandCount := h.operandCount + 1 }

/-- The number of distinct tokens. -/
def vocabulary (h : Halstead) : Nat := h.operators.length + h.operands.length

/-- The number of occurrences. -/
def length (h : Halstead) : Nat := h.operatorCount + h.operandCount

/-- The volume `N · log₂ n`, which is zero without tokens. -/
def volume {σ : Type} [Scalar σ] (h : Halstead) : σ :=
  if h.vocabulary = 0 then Scalar.zero
  else Scalar.mul (Scalar.ofNat h.length) (Scalar.log2 (Scalar.ofNat h.vocabulary))

end Halstead

/-- Expressions whose `operator` is an operator token. -/
def Kind.hasOperator : Kind → Bool
  | .binaryExpression | .logicalExpression | .assignmentExpression | .updateExpression | .unaryExpression => true
  | _ => false

namespace Node

/-- The token that a node itself contributes. A literal or the name of a called function has to be written out for
it. -/
def token? (n : Node) : Except Error (Option Token) :=
  if n.kind.hasOperator then .ok (some (.operator (Value.orElse n.operator? (.str ""))))
  else
    match n.kind with
    | .identifier => .ok (some (.operand (Value.orElse n.name? (.str ""))))
    | .literal => do
      let text ← ((Fields.get? n.attrs "value").getD .null).literalText
      return some (.operand (.str text))
    | .memberExpression => .ok ((identifierName? (n.child "property")).map .operand)
    | .callExpression =>
      match identifierName? (n.child "callee") with
      | none => .ok none
      | some callee => do
        let text ← callee.written
        return some (.operator (.str (text ++ "()")))
    | .conditionalExpression => .ok (some (.operator (.str "?:")))
    | .newExpression => .ok (some (.operator (.str "new")))
    | _ => .ok none

/-- Counts the token of a node, if it has one. -/
def record (h : Halstead) (n : Node) : Except Error Halstead := do
  match ← n.token? with
  | none => return h
  | some token => h.add token

/-- The Halstead counts of the tree below a node. -/
def halstead (n : Node) : Except Error Halstead := n.walk.foldlM record Halstead.empty

/-- The Halstead volume of the tree below a node. -/
def volume {σ : Type} [Scalar σ] (n : Node) : Except Error σ := do
  let h ← n.halstead
  return h.volume

end Node

end CodeMetrics
