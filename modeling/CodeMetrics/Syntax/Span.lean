import CodeMetrics.Error

/-!
# Line ranges

A node's place in its source file is an inclusive range of lines, counted from 1. A document may write the line 1 as
`true`, and a node made by hand may have any numbers as lines; which it was shows in output, so lines are kept as they
were given and compared by exact value.
-/

namespace CodeMetrics

/-- A range of lines, both ends included. -/
structure Span where
  start : Num
  stop : Num
  one_le_start : start.lt (.int 1) = false
  start_le_stop : stop.lt start = false
  deriving DecidableEq, Repr

namespace Span

/-- The range from one line to another, if it is one. -/
def of? (start stop : Num) : Option Span :=
  if h : start.lt (.int 1) = false ∧ stop.lt start = false then some ⟨start, stop, h.1, h.2⟩ else none

theorem of?_isSome_iff (start stop : Num) :
    (of? start stop).isSome ↔ start.lt (.int 1) = false ∧ stop.lt start = false := by
  unfold of?
  split <;> simp_all

/-- For whole numbers these are the usual bounds. -/
theorem of?_int_isSome_iff (a b : Int) : (of? (.int a) (.int b)).isSome ↔ 1 ≤ a ∧ a ≤ b := by
  rw [of?_isSome_iff, Num.lt_int, Num.lt_int]
  simp

/-- The range between two values. The start is looked at first: below 1 it is refused whatever the end is. -/
def ofValues (start stop : Value) : Except Error Span :=
  match start.num? with
  | none => .error (.mismatch (.notOrdered "<" start.kindName "int"))
  | some a =>
    if a.lt (.int 1) then .error (.rejected (.invalidSpan a stop))
    else
      match stop.num? with
      | none => .error (.mismatch (.notOrdered "<" stop.kindName start.kindName))
      | some b =>
        match of? a b with
        | some span => .ok span
        | none => .error (.rejected (.invalidSpan a stop))

end Span

end CodeMetrics
