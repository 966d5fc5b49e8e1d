import CodeMetrics.Error
import CodeMetrics.Metrics.Scalar

/-!
# Maintainability index

`max 0 ((171 - 5.2 · ln V - 0.23 · C - 16.2 · ln L) · 100 / 171)` for volume `V`, complexity `C` and lines `L`; a
logarithm of a number that is not positive counts as zero. The operations are carried out from left to right, each
rounded on its own.
-/

namespace CodeMetrics

open Number

namespace Maintainability

variable {σ : Type} [Scalar σ]

/-- The index from the two logarithms and the complexity. -/
def score (volumeLog complexity linesLog : σ) : σ :=
  let full : σ := Scalar.ofNat 171
  let lessVolume := Scalar.sub full (Scalar.mul (Scalar.ofDecimal 52 1) volumeLog)
  let lessComplexity := Scalar.sub lessVolume (Scalar.mul (Scalar.ofDecimal 23 2) complexity)
  let raw := Scalar.sub lessComplexity (Scalar.mul (Scalar.ofDecimal 162 1) linesLog)
  Scalar.clamp (Scalar.div (Scalar.mul raw (Scalar.ofNat 100)) full)

/-- The index of measured code. -/
def index (volume : σ) (complexity lines : Nat) : σ :=
  Scalar.finiteOrZero
    (score (Scalar.lnOrZero volume) (Scalar.ofNat complexity) (Scalar.lnOrZero (Scalar.ofNat lines)))

/-! ## Numbers of any kind -/

/-- The natural logarithm of a positive natural number. One too large for a double is split into a fraction below 1
and a power of two. -/
def lnNat (n : Nat) : Float :=
  match ofInt? n with
  | some x => Float.log x
  | none =>
    let bits := n.log2 + 1
    let fraction := nearest false n (pow2 bits)
    let (fraction, bits) := if fraction == 1.0 then (0.5, bits + 1) else (fraction, bits)
    Float.log fraction + Float.log 2.0 * nearest false bits 1

/-- The logarithm of a positive number, and zero for the others. -/
def lnNum (a : Num) : Float :=
  if Num.lt (.int 0) a then
    match a with
    | .int n => lnNat n.natAbs
    | .flag b => lnNat (Num.ofFlag b).natAbs
    | .float x => Float.log x
  else 0.0

/-- The index of three given numbers; an infinite one is the whole number zero. -/
def indexOf (volume complexity lines : Num) : Except Error Num :=
  match complexity.toFloat? with
  | none => .error .overflow
  | some c =>
    let s := score (lnNum volume) c (lnNum lines)
    .ok (if (Binary.ofFloat s).isFinite then .float s else .int 0)

end Maintainability

end CodeMetrics
