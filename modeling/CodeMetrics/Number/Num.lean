import CodeMetrics.Number.Layout

/-!
# Numbers of either kind

Documents, settings and records hold whole numbers, doubles, and truth values standing in for 0 and 1. `Num` keeps
which of the three a number is, because it shows in output; comparison goes by exact value, so that an integer and
a double are never confused by rounding.
-/

namespace CodeMetrics

open Number

/-- A number as it was given. -/
inductive Num where
  | int (n : Int)
  | float (x : Float)
  | flag (b : Bool)
  deriving DecidableEq, Repr

/-- The exact value behind a number. -/
inductive Exact where
  | nan
  | belowAll
  | finite (r : Rat)
  | aboveAll
  deriving DecidableEq, Repr

namespace Exact

def ofFloat (x : Float) : Exact :=
  match Binary.ofFloat x with
  | .nan => .nan
  | .infinite negative => if negative then .belowAll else .aboveAll
  | .finite negative m q => .finite (if negative then -(scaled m q) else scaled m q)

/-- The order of extended rationals; nothing is below or above `nan`. -/
def lt : Exact → Exact → Bool
  | nan, _ => false
  | _, nan => false
  | belowAll, belowAll => false
  | belowAll, _ => true
  | _, belowAll => false
  | aboveAll, _ => false
  | finite _, aboveAll => true
  | finite a, finite b => decide (a < b)

/-- Equality of numbers, under which `nan` differs from itself. -/
def same : Exact → Exact → Bool
  | nan, _ => false
  | a, b => decide (a = b)

end Exact

namespace Num

/-- The integer 0 or 1 that a truth value stands for. -/
def ofFlag (b : Bool) : Int := if b then 1 else 0

def ofNat (n : Nat) : Num := .int n

def exact : Num → Exact
  | int n => .finite n
  | float x => Exact.ofFloat x
  | flag b => .finite (ofFlag b)

def lt (a b : Num) : Bool := a.exact.lt b.exact

theorem lt_int (a b : Int) : (int a).lt (int b) = decide (a < b) :=
  decide_eq_decide.mpr Rat.intCast_lt_intCast

def same (a b : Num) : Bool := a.exact.same b.exact

/-- At most, by exact value: false as soon as one side is `nan`. -/
def le (a b : Num) : Bool := a.lt b || a.same b

/-- The closest double, or `none` for an integer beyond every double. -/
def toFloat? : Num → Option Float
  | int n => ofInt? n
  | float x => some x
  | flag b => ofInt? (ofFlag b)

/-- Neither `nan` nor infinite. -/
def isFinite (a : Num) : Bool :=
  match a.exact with
  | .finite _ => true
  | _ => false

/-- The text of a number in messages and table cells. -/
def text : Num → String
  | int n => intText n
  | float x => Style.report.text x
  | flag b => if b then "True" else "False"

/-- The kind of number, as messages name it. -/
def kindName : Num → String
  | int _ => "int"
  | float _ => "float"
  | flag _ => "bool"

end Num

end CodeMetrics
