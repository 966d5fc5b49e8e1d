import CodeMetrics.Syntax.Node

/-!
# Parents

Nodes do not know their parents. `Parents.of` collects them for a tree, without recursion on it: it takes a node off a
stack, notes it as the parent of each of its children, and puts these on the stack. A child that is noted again, because
it occurs in several places, has the parent that was noted last.

## Termination

The sizes of the trees on the stack add up to a number that falls by one with every step.
-/

namespace CodeMetrics

/-- Which node is whose parent, by number. The first pair with a number counts. -/
structure Parents where
  pairs : List (Nat × Node)

namespace Parents

def empty : Parents := ⟨[]⟩

/-- The node as the parent of its children, the last child first. -/
def pairsOf (n : Node) : List (Nat × Node) := n.children.reverse.map fun c => (c.id, n)

/-- The pairs of the nodes on a stack and below, put in front of those found before. -/
def collect (found : List (Nat × Node)) : List Node → List (Nat × Node)
  | [] => found
  | n :: rest => collect (pairsOf n ++ found) (n.children.reverse ++ rest)
termination_by stack => Node.totalSize stack
decreasing_by
  simp only [Node.totalSize_append, Node.totalSize_reverse, Node.totalSize, Node.size_eq n]
  omega

/-- The parents of the proper descendants of a node. -/
def of (root : Node) : Parents := ⟨collect [] [root]⟩

/-- The parent of the node with a number. -/
def find? (parents : Parents) (id : Nat) : Option Node :=
  (parents.pairs.find? fun (child, _) => child == id).map (·.2)

def contains (parents : Parents) (id : Nat) : Bool := parents.pairs.any fun (child, _) => child == id

/-- The number of nodes with a parent. -/
def size (parents : Parents) : Nat := (parents.pairs.map (·.1)).eraseDups.length

end Parents

end CodeMetrics
