import CodeMetrics.Syntax.Node

/-!
# Node graphs

A `Graph` is an array of node records whose slots name other records by position, so that one record may stand in
several places. It can be edited record by record. `Graph.node?` unfolds it from a position into a tree; occurrences of
one record all get the same number there, which is its position plus one.

Unfolding goes no deeper than there are records. In a graph without cycles no way is longer than that, so nothing is
cut off. `Graph.nearby?` unfolds only so far as questions about one node reach; a graph with cycles can be asked these,
and can be edited until it has none.
-/

namespace CodeMetrics

/-- A slot with each of its nodes replaced, and left out where there is no replacement. -/
def Slot.replace {ν μ : Type} (f : ν → Option μ) : Slot ν → Slot μ
  | absent => absent
  | one n =>
    match f n with
    | some m => one m
    | none => absent
  | many items => many (items.map fun item => item.bind f)

/-- A node whose slots hold the positions of other nodes. -/
structure GraphNode where
  kind : Kind
  tag : String
  span : Option Span
  fields : List (String × Slot Nat)
  attrs : List (String × Value)

/-- Nodes by position. -/
structure Graph where
  nodes : Array GraphNode

namespace Node

mutual

/-- The same tree with its nodes numbered in preorder from `next` on. -/
def numbered (next : Nat) : Node → Node
  | ⟨_, kind, tag, span, fields, attrs⟩ => ⟨next, kind, tag, span, numberedFields (next + 1) fields, attrs⟩

def numberedFields (next : Nat) : List (String × Slot Node) → List (String × Slot Node)
  | [] => []
  | (name, slot) :: rest => (name, numberedSlot next slot) :: numberedFields (next + sizeSlot slot) rest

def numberedSlot (next : Nat) : Slot Node → Slot Node
  | .absent => .absent
  | .one n => .one (numbered next n)
  | .many items => .many (numberedItems next items)

def numberedItems (next : Nat) : List (Option Node) → List (Option Node)
  | [] => []
  | none :: rest => none :: numberedItems next rest
  | some n :: rest => some (numbered next n) :: numberedItems (next + n.size) rest

end

end Node

namespace Graph

/-- The tree below a position, `depth` levels of it at most. -/
def unfold (g : Graph) : (depth position : Nat) → Option Node
  | 0, _ => none
  | depth + 1, position =>
    g.nodes[position]?.map fun record =>
      { id := position + 1
        kind := record.kind
        tag := record.tag
        span := record.span
        fields := record.fields.map fun (name, slot) => (name, slot.replace (g.unfold depth))
        attrs := record.attrs }

/-- The position that a whole number stands for; below zero it counts from the end. -/
def position? (g : Graph) (i : Int) : Option Nat :=
  let i := if i < 0 then i + g.nodes.size else i
  if 0 ≤ i ∧ i < g.nodes.size then some i.toNat else none

theorem position?_lt {g : Graph} {i : Int} {p : Nat} (h : g.position? i = some p) : p < g.nodes.size := by
  unfold position? at h
  split at h <;> grind

/-- The tree below a position. -/
def node? (g : Graph) (position : Nat) : Option Node := g.unfold g.nodes.size position

/-- How far questions about one node reach: to its children and their children. -/
def reach : Nat := 3

/-- The node at a position with as much of the tree below it as questions about one node reach. -/
def nearby? (g : Graph) (position : Nat) : Option Node := g.unfold reach position

/-- The nodes at all positions, with what is nearby. -/
def allNearby (g : Graph) : Array (Option Node) := (Array.range g.nodes.size).map g.nearby?

/-- Slots that name nodes by position, which is one less than their number. -/
def positions (fields : List (String × Slot Node)) : List (String × Slot Nat) :=
  fields.map fun (name, slot) => (name, slot.replace fun c => some (c.id - 1))

/-- A node as a record among others, which its slots name by position. -/
def recordOf (n : Node) : GraphNode :=
  { kind := n.kind, tag := n.tag, span := n.span, fields := positions n.fields, attrs := n.attrs }

/-- The graph of a tree whose nodes are numbered in preorder from 1. -/
def ofTree (root : Node) : Graph := ⟨root.preorder.toArray.map recordOf⟩

/-- Changes the record at a position. -/
def update (g : Graph) (position : Nat) (f : GraphNode → GraphNode) : Graph := ⟨g.nodes.modify position f⟩

def setField (g : Graph) (position : Nat) (name : String) (slot : Slot Nat) : Graph :=
  g.update position fun record => { record with fields := Fields.insert record.fields name slot }

def eraseField (g : Graph) (position : Nat) (name : String) : Graph :=
  g.update position fun record => { record with fields := record.fields.filter fun (k, _) => k ≠ name }

def setAttr (g : Graph) (position : Nat) (name : String) (value : Value) : Graph :=
  g.update position fun record => { record with attrs := Fields.insert record.attrs name value }

def setSpan (g : Graph) (position : Nat) (span : Option Span) : Graph :=
  g.update position fun record => { record with span }

end Graph

end CodeMetrics
