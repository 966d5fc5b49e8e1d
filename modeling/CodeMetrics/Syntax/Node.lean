import CodeMetrics.Syntax.Kind
import CodeMetrics.Syntax.Span

/-!
# Syntax trees

A `Node` has a kind, its tag, perhaps a range of lines, named child slots and plain attributes, both in document
order. A slot is empty, holds one node, or holds a list whose places may be empty.

`Node.preorder` is the sequence that every measurement goes over: the node, then the sequences of its children, slot
by slot. It is defined by recursion on the tree; `preorder_eq` restates it through `children`, and `Node.induction`
is the induction principle that goes with it.

Nodes carry a number, `id`, by which occurrences of one node are recognised.
-/

namespace CodeMetrics

/-- What a named child slot holds. -/
inductive Slot (ν : Type) where
  | absent
  | one (node : ν)
  | many (items : List (Option ν))
  deriving Inhabited

/-- A node of a syntax tree. -/
structure Node where
  id : Nat
  kind : Kind
  tag : String
  span : Option Span
  fields : List (String × Slot Node)
  attrs : List (String × Value)

/-- The nodes of a slot, in order. -/
def Slot.nodes {ν : Type} : Slot ν → List ν
  | absent => []
  | one n => [n]
  | many items => items.filterMap fun item => item

namespace Node

/-- The node of a slot that holds exactly one. -/
def child (n : Node) (name : String) : Option Node :=
  match Fields.get? n.fields name with
  | some (.one c) => some c
  | _ => none

/-- The places of a slot that holds a list. -/
def childList (n : Node) (name : String) : List (Option Node) :=
  match Fields.get? n.fields name with
  | some (.many items) => items
  | _ => []

/-- The children in slot order. -/
def children (n : Node) : List Node := n.fields.flatMap fun (_, slot) => slot.nodes

/-- An attribute, unless it is null. -/
def attr? (n : Node) (name : String) : Option Value :=
  match Fields.get? n.attrs name with
  | some .null => none
  | v => v

/-- The `name` attribute. -/
def name? (n : Node) : Option Value := n.attr? "name"

/-- The `operator` attribute. -/
def operator? (n : Node) : Option Value := n.attr? "operator"

/-- The name of a plain identifier. -/
def identifierName? (n : Option Node) : Option Value :=
  match n with
  | some n => if n.kind = .identifier then n.name? else none
  | none => none

/-- A node in one line: its tag, its number and its lines. -/
def text (n : Node) : String :=
  let lines := match n.span with
    | some span => span.start.text ++ "-" ++ span.stop.text
    | none => "?"
  "SyntaxNode(" ++ n.tag ++ "#" ++ Number.natText n.id ++ " @ " ++ lines ++ ")"

/-! ## Traversal -/

mutual

/-- The node, then its descendants, each before its own, in slot order. -/
def preorder : Node → List Node
  | ⟨id, kind, tag, span, fields, attrs⟩ => ⟨id, kind, tag, span, fields, attrs⟩ :: preorderFields fields

def preorderFields : List (String × Slot Node) → List Node
  | [] => []
  | (_, slot) :: rest => preorderSlot slot ++ preorderFields rest

def preorderSlot : Slot Node → List Node
  | .absent => []
  | .one n => preorder n
  | .many items => preorderItems items

def preorderItems : List (Option Node) → List Node
  | [] => []
  | none :: rest => preorderItems rest
  | some n :: rest => preorder n ++ preorderItems rest

end

theorem preorderItems_eq (items : List (Option Node)) :
    preorderItems items = (items.filterMap fun item => item).flatMap preorder := by
  induction items with
  | nil => rfl
  | cons item rest ih => cases item <;> simp [preorderItems, ih]

theorem preorderSlot_eq (slot : Slot Node) : preorderSlot slot = slot.nodes.flatMap preorder := by
  cases slot <;> simp [preorderSlot, Slot.nodes, preorderItems_eq]

theorem preorderFields_eq (fields : List (String × Slot Node)) :
    preorderFields fields = (fields.flatMap fun (_, slot) => slot.nodes).flatMap preorder := by
  induction fields with
  | nil => rfl
  | cons field rest ih =>
    obtain ⟨name, slot⟩ := field
    simp [preorderFields, preorderSlot_eq, ih]

/-- The node comes first, then the sequence of each child. -/
theorem preorder_eq (n : Node) : n.preorder = n :: n.children.flatMap preorder := by
  cases n
  simp only [preorder, children, preorderFields_eq]

mutual

/-- The number of nodes of the tree, shared ones counted at each occurrence. -/
def size : Node → Nat
  | ⟨_, _, _, _, fields, _⟩ => 1 + sizeFields fields

def sizeFields : List (String × Slot Node) → Nat
  | [] => 0
  | (_, slot) :: rest => sizeSlot slot + sizeFields rest

def sizeSlot : Slot Node → Nat
  | .absent => 0
  | .one n => size n
  | .many items => sizeItems items

def sizeItems : List (Option Node) → Nat
  | [] => 0
  | none :: rest => sizeItems rest
  | some n :: rest => size n + sizeItems rest

end

/-- The sizes of several trees together. -/
def totalSize : List Node → Nat
  | [] => 0
  | n :: rest => n.size + totalSize rest

theorem totalSize_append (a b : List Node) : totalSize (a ++ b) = totalSize a + totalSize b := by
  induction a with
  | nil => simp [totalSize]
  | cons n rest ih =>
    simp only [List.cons_append, totalSize, ih]
    omega

theorem totalSize_reverse (nodes : List Node) : totalSize nodes.reverse = totalSize nodes := by
  induction nodes with
  | nil => rfl
  | cons n rest ih =>
    simp only [List.reverse_cons, totalSize_append, totalSize, ih]
    omega

theorem sizeItems_eq (items : List (Option Node)) :
    sizeItems items = totalSize (items.filterMap fun item => item) := by
  induction items with
  | nil => rfl
  | cons item rest ih => cases item <;> simp [sizeItems, totalSize, ih]

theorem sizeSlot_eq (slot : Slot Node) : sizeSlot slot = totalSize slot.nodes := by
  cases slot <;> simp [sizeSlot, Slot.nodes, totalSize, sizeItems_eq]

theorem sizeFields_eq (fields : List (String × Slot Node)) :
    sizeFields fields = totalSize (fields.flatMap fun (_, slot) => slot.nodes) := by
  induction fields with
  | nil => rfl
  | cons field rest ih =>
    obtain ⟨name, slot⟩ := field
    simp [sizeFields, sizeSlot_eq, totalSize_append, ih]

/-- A tree is one node larger than its children together. -/
theorem size_eq (n : Node) : n.size = 1 + totalSize n.children := by
  cases n
  simp only [size, children, sizeFields_eq]

theorem size_le_totalSize {c : Node} {nodes : List Node} (h : c ∈ nodes) : c.size ≤ totalSize nodes := by
  induction nodes with
  | nil => simp at h
  | cons n rest ih =>
    rcases List.mem_cons.mp h with h | h
    · subst h
      simp only [totalSize]
      omega
    · have := ih h
      simp only [totalSize]
      omega

/-- A child is smaller than its parent. -/
theorem size_lt_of_mem_children {n c : Node} (h : c ∈ n.children) : c.size < n.size := by
  have := size_le_totalSize h
  rw [size_eq n]
  omega

/-- What holds of a node whenever it holds of its children holds of every node. -/
theorem induction {P : Node → Prop} (step : ∀ n, (∀ c ∈ n.children, P c) → P n) (n : Node) : P n := by
  have all : ∀ k (m : Node), m.size < k → P m := by
    intro k
    induction k with
    | zero => intro m h; omega
    | succ k ih => exact fun m h => step m fun c hc => ih c (by have := size_lt_of_mem_children hc; omega)
  exact all (n.size + 1) n (by omega)

theorem length_preorder (n : Node) : n.preorder.length = n.size := by
  induction n using Node.induction with
  | step n ih =>
    have hall : ∀ nodes : List Node, (∀ c ∈ nodes, c ∈ n.children) →
        (nodes.flatMap preorder).length = totalSize nodes := by
      intro nodes
      induction nodes with
      | nil => exact fun _ => rfl
      | cons c rest ihr =>
        intro hsub
        rw [List.flatMap_cons, List.length_append, totalSize, ih c (hsub c List.mem_cons_self),
          ihr fun d hd => hsub d (List.mem_cons_of_mem _ hd)]
    rw [preorder_eq, size_eq, List.length_cons, hall n.children fun _ hc => hc, Nat.add_comm]

end Node

end CodeMetrics
