import CodeMetrics.Number.Binary

/-!
# Shortest decimals

The decimal of fewest digits that reads back as a given positive double. A decimal reads back as `m · 2^q` when it
lies between the two midpoints to the neighbouring doubles; the midpoints themselves count exactly when `m` is even,
because reading rounds a half to the even mantissa.

For 1, 2, … 17 digits the two neighbours of the number on that decimal grid are tried; the first grid with a hit
gives the answer, and of two hits the nearer one. All comparisons are between naturals.
-/

namespace CodeMetrics.Number

/-- A positive decimal `coefficient · 10^exponent`. -/
structure Decimal where
  coefficient : Nat
  exponent : Int
  deriving DecidableEq, Repr

namespace Decimal

/-- The digits of the coefficient, most significant first. -/
def digits (d : Decimal) : List Char := Nat.toDigits 10 d.coefficient

/-- The power of ten `n` with which the number is `0.d₁d₂… · 10^n`. -/
def scale (d : Decimal) : Int := d.exponent + d.digits.length

/-- Drops `fuel` zeros at most from the end of a coefficient. -/
def dropZeros : Nat → Nat → Int → Decimal
  | 0, c, e => ⟨c, e⟩
  | fuel + 1, c, e => if c ≠ 0 ∧ c % 10 = 0 then dropZeros fuel (c / 10) (e + 1) else ⟨c, e⟩

/-- The same number without zeros at the end of its coefficient. -/
def normalize (d : Decimal) : Decimal := dropZeros d.digits.length d.coefficient d.exponent

end Decimal

/-- The scale of `m · 2^q`: the `k` with `10^(k-1) ≤ m · 2^q < 10^k`. Every positive double exceeds `10^-340`. -/
def scaleOf (m : Nat) (q : Int) : Int :=
  let raised := if 0 ≤ q then m * pow2 q.toNat * pow10 340 else m * pow10 340 / pow2 (-q).toNat
  ((Nat.toDigits 10 raised).length : Int) - 340

/-- The decimals that read back as `m · 2^q`, measured in quarters of the last binary place. -/
structure Interval where
  lower : Nat
  value : Nat
  upper : Nat
  /-- Whether the ends belong to it. -/
  closed : Bool

/-- The gap below a power of two is half as wide as the gap above it, except at the bottom of the range. -/
def Interval.ofBinary (m : Nat) (q : Int) : Interval :=
  { lower := if m = pow2 52 ∧ Binary.leastExponent < q then 4 * m - 1 else 4 * m - 2
    value := 4 * m
    upper := 4 * m + 2
    closed := decide (m % 2 = 0) }

/-- The factors `a`, `b` with which `c · 10^s` and `x` quarters of `2^q` are compared: as `c · a` and `x · b`. -/
def gridFactors (q s : Int) : Nat × Nat :=
  let p := q - 2
  (pow10 s.toNat * pow2 (-p).toNat, pow2 p.toNat * pow10 (-s).toNat)

def Interval.contains (i : Interval) (a b c : Nat) : Bool :=
  if i.closed then decide (i.lower * b ≤ c * a) && decide (c * a ≤ i.upper * b)
  else decide (i.lower * b < c * a) && decide (c * a < i.upper * b)

/-- The coefficient on the grid `10^s` that reads back as `m · 2^q`, if there is one: the nearer of two, the even
one of two equally near. -/
def onGrid (m : Nat) (q s : Int) : Option Nat :=
  let i := Interval.ofBinary m q
  let (a, b) := gridFactors q s
  let down := i.value * b / a
  let up := down + 1
  match i.contains a b down, i.contains a b up with
  | true, true =>
    let below := i.value * b - down * a
    let above := up * a - i.value * b
    some (if below < above then down else if above < below then up else if down % 2 = 0 then down else up)
  | true, false => some down
  | false, true => some up
  | false, false => none

/-- The decimal of fewest digits that reads back as the positive double `m · 2^q`. -/
def shortest (m : Nat) (q : Int) : Decimal :=
  let k := scaleOf m q
  let found := (List.range 17).findSome? fun (i : Nat) =>
    let s := k - 1 - (i : Int)
    (onGrid m q s).map fun c => (⟨c, s⟩ : Decimal)
  -- seventeen digits always suffice, so the grid of seventeen digits has a hit
  (found.getD ⟨m, q⟩).normalize

end CodeMetrics.Number
