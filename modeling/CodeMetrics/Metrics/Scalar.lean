import CodeMetrics.Number.Num

/-!
# The arithmetic of scores

Volumes, indices and averages are computed in some number type with logarithms. The program runs them on doubles;
what is said about them elsewhere names the properties of the arithmetic that it needs, and holds for every number
type that has them.
-/

namespace CodeMetrics

open Number

/-- A number type in which scores are computed. -/
class Scalar (σ : Type) where
  /-- The quotient of two counts, rounded once. -/
  ratio : Nat → Nat → σ
  sub : σ → σ → σ
  mul : σ → σ → σ
  div : σ → σ → σ
  /-- The natural logarithm. -/
  ln : σ → σ
  /-- The logarithm to base two. -/
  log2 : σ → σ
  lt : σ → σ → Bool
  isFinite : σ → Bool

instance : Scalar Float where
  ratio := nearest false
  sub := (· - ·)
  mul := (· * ·)
  div := (· / ·)
  ln := Float.log
  log2 := Float.log2
  lt x y := decide (x < y)
  isFinite x := (Binary.ofFloat x).isFinite

namespace Scalar

variable {σ : Type} [Scalar σ]

def ofNat (n : Nat) : σ := ratio n 1

/-- The number `digits · 10^-places`. -/
def ofDecimal (digits places : Nat) : σ := ratio digits (pow10 places)

def zero : σ := ofNat 0

/-- A number that is not finite never reaches a result: zero stands for it. -/
def finiteOrZero (x : σ) : σ := if isFinite x then x else zero

/-- The greater of a number and zero. -/
def clamp (x : σ) : σ := if lt zero x then x else zero

/-- The natural logarithm of a positive number, and zero for the others. -/
def lnOrZero (x : σ) : σ := if lt zero x then ln x else zero

end Scalar

end CodeMetrics
