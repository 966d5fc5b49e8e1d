import CodeMetrics.Value

/-!
# Equality and order of values

Numbers are equal by exact value, whatever their kind, lists item by item, and objects by their fields, whatever the
order of the keys. Numbers, texts and lists have an order among their own kind: texts go by their characters, and two
lists by the first items that differ, or by length if none do. Values of different kinds have no order, and neither do
two nulls or two objects.

`inOrder?` says whether values stand in order. Values of which some two have no order do not stand in any, unless a look
at neighbours is enough to see that they do.
-/

namespace CodeMetrics.Value

mutual

/-- Whether two values are equal. -/
def same : Value → Value → Bool
  | null, null => true
  | str s, str t => s == t
  | moment m, moment n => decide (m = n)
  | list items, list others => sameItems items others
  | object fields, object others => fields.length == others.length && sameFields fields others
  | a, b =>
    match a.num?, b.num? with
    | some x, some y => x.same y
    | _, _ => false

def sameItems : List Value → List Value → Bool
  | [], [] => true
  | a :: items, b :: others => same a b && sameItems items others
  | _, _ => false

/-- Whether each of some fields is found with an equal value among others. -/
def sameFields : List (String × Value) → List (String × Value) → Bool
  | [], _ => true
  | (k, v) :: fields, others =>
    (match Fields.get? others k with
      | some w => same v w
      | none => false) && sameFields fields others

end

mutual

/-- Whether a value is below another one, if the two have an order. -/
def below? : Value → Value → Option Bool
  | str s, str t => some (decide (s < t))
  | list items, list others => belowItems? items others
  | a, b =>
    match a.num?, b.num? with
    | some x, some y => some (x.lt y)
    | _, _ => none

def belowItems? : List Value → List Value → Option Bool
  | [], others => some (!others.isEmpty)
  | _ :: _, [] => some false
  | a :: items, b :: others => if same a b then belowItems? items others else below? a b

end

/-- Whether each value is seen not to be below the one before it. -/
def areAscending : List Value → Bool
  | a :: b :: rest => below? b a == some false && areAscending (b :: rest)
  | _ => true

/-- Whether values stand in order; nothing if they have none. -/
def inOrder? (values : List Value) : Option Bool :=
  if areAscending values then some true
  else if values.all fun a => values.all fun b => (below? a b).isSome then some false
  else none

/-- Numbers have an order: that of their exact values. -/
theorem below?_ofNum (a b : Num) : below? (ofNum a) (ofNum b) = some (a.lt b) := by
  cases a <;> cases b <;> rfl

end CodeMetrics.Value
