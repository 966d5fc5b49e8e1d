/-!
# Doubles as exact numbers

A finite double is `± m · 2^q` with natural `m` and integer `q`. This module takes a double apart into that
form (`Binary.ofFloat`), gives its exact rational value, and goes back: `nearest` rounds a quotient of naturals
to the closest double, a half going to the even mantissa.

Nothing here uses the machine's own conversions, so every step is ordinary `Nat` arithmetic.
-/

namespace CodeMetrics.Number

/-- Powers of two. -/
def pow2 (n : Nat) : Nat := Nat.pow 2 n

/-- Powers of ten. -/
def pow10 (n : Nat) : Nat := Nat.pow 10 n

/-- A double, taken apart. -/
inductive Binary where
  | nan
  | infinite (negative : Bool)
  /-- The number `± m · 2^q`. -/
  | finite (negative : Bool) (m : Nat) (q : Int)
  deriving DecidableEq, Repr

namespace Binary

/-- The exponent of the smallest positive double, and of every subnormal one. -/
def leastExponent : Int := -1074

/-- The largest exponent of a finite double. -/
def greatestExponent : Int := 971

/-- Reads sign, exponent and fraction off the 64 bits. -/
def ofBits (bits : Nat) : Binary :=
  let negative := bits / pow2 63 % 2 == 1
  let exponent : Nat := bits / pow2 52 % pow2 11
  let fraction : Nat := bits % pow2 52
  if exponent = 2047 then
    if fraction = 0 then .infinite negative else .nan
  else if exponent = 0 then .finite negative fraction leastExponent
  else .finite negative (fraction + pow2 52) ((exponent : Int) - 1075)

def ofFloat (x : Float) : Binary := ofBits x.toBits.toNat

def isFinite : Binary → Bool
  | finite .. => true
  | _ => false

end Binary

/-- The rational `m · 2^q`. -/
def scaled (m : Nat) (q : Int) : Rat :=
  if 0 ≤ q then (m * pow2 q.toNat : Nat) else mkRat m (pow2 (-q).toNat)

/-- Rounds the quotient `num / den` to a natural number; an exact half goes to the even neighbour. -/
def roundHalfEven (num den : Nat) : Nat :=
  let down := num / den
  let twice := 2 * (num % den)
  if twice < den then down
  else if den < twice then down + 1
  else if down % 2 = 0 then down else down + 1

/-- The logarithm `⌊log₂ (num / den)⌋` for positive `num` and `den`. -/
def floorLog2 (num den : Nat) : Int :=
  let guess : Int := (num.log2 : Int) - den.log2
  -- `num / den` lies strictly between `2^(guess - 1)` and `2^(guess + 1)`
  let reached := if 0 ≤ guess then den * pow2 guess.toNat ≤ num else den ≤ num * pow2 (-guess).toNat
  if reached then guess else guess - 1

/-- The sign bit, as a summand of the 64 bits. -/
def signBit (negative : Bool) : Nat := if negative then pow2 63 else 0

/-- The bits of the double closest to `± num / den`, a half going to the even mantissa. A quotient too large for a
double becomes an infinity. -/
def nearestBits (negative : Bool) (num den : Nat) : Nat :=
  if num = 0 then signBit negative
  else
    let q := max (floorLog2 num den - 52) Binary.leastExponent
    let m := if 0 ≤ q then roundHalfEven num (den * pow2 q.toNat) else roundHalfEven (num * pow2 (-q).toNat) den
    -- Below `2^52` the number is subnormal, with exponent field 0; a carry into `2^53` moves to the next exponent.
    let magnitude := if m < pow2 52 then m else (q + 1075).toNat * pow2 52 + (m - pow2 52)
    signBit negative + min magnitude (2047 * pow2 52)

/-- The double closest to `± num / den`. -/
def nearest (negative : Bool) (num den : Nat) : Float :=
  Float.ofBits (nearestBits negative num den).toUInt64

/-- The double closest to an integer, or `none` when every double is too small. -/
def ofInt? (n : Int) : Option Float :=
  let x := nearest (decide (n < 0)) n.natAbs 1
  if (Binary.ofFloat x).isFinite then some x else none

/-- The double closest to a quotient of integers, or `none` when it is too large. The divisor is not zero. -/
def divInt? (a b : Int) : Option Float :=
  let x := nearest (decide (a < 0) != decide (b < 0)) a.natAbs b.natAbs
  if (Binary.ofFloat x).isFinite then some x else none

/-- The double closest to `± digits · 10^exponent`. An exponent beyond every double's is not raised: the answer is then
an infinity or a zero. -/
def ofDecimal (negative : Bool) (digits : Nat) (exponent : Int) : Float :=
  let places : Int := (Nat.toDigits 10 digits).length
  if digits = 0 then nearest negative 0 1
  else if 400 < places + exponent then nearest negative (pow10 400) 1
  else if places + exponent < -400 then nearest negative 0 1
  else if 0 ≤ exponent then nearest negative (digits * pow10 exponent.toNat) 1
  else nearest negative digits (pow10 (-exponent).toNat)

/-- The integer part of a finite double, toward zero. -/
def truncate (negative : Bool) (m : Nat) (q : Int) : Int :=
  let whole := if 0 ≤ q then m * pow2 q.toNat else m / pow2 (-q).toNat
  if negative then -(whole : Int) else whole

end CodeMetrics.Number
