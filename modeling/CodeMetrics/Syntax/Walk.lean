import CodeMetrics.Syntax.Node

/-!
# Walking a tree with a stack

`Node.walk` visits nodes without recursion on the tree: it takes the first node off a stack, visits it and puts its
children in its place. Its steps are as many as there are nodes on the stack and below, so that a long chain of nodes
costs no more than a broad tree. The order is that of `Node.preorder` (`walk_eq`).

## Termination

The sizes of the trees on the stack add up to a number that falls by one with every step.
-/

namespace CodeMetrics.Node

/-- The nodes on a stack and below, in the order of the visit, put behind those that have been visited; these stand in
reverse. -/
def walkOnto (visited : List Node) : List Node → List Node
  | [] => visited.reverse
  | n :: rest => walkOnto (n :: visited) (n.children ++ rest)
termination_by stack => totalSize stack
decreasing_by
  simp only [totalSize_append, totalSize, size_eq n]
  omega

/-- The nodes on the stack are visited one tree after the other. -/
theorem walkOnto_eq (visited stack : List Node) :
    walkOnto visited stack = visited.reverse ++ stack.flatMap preorder := by
  fun_induction walkOnto visited stack with
  | case1 visited => simp
  | case2 visited n rest ih =>
    rw [ih, List.flatMap_cons, preorder_eq n]
    simp

/-- The node and its descendants in the order of the visit. -/
def walk (n : Node) : List Node := walkOnto [] [n]

/-- The visit goes in preorder. -/
@[simp] theorem walk_eq (n : Node) : n.walk = n.preorder := by
  rw [walk, walkOnto_eq]
  simp

end CodeMetrics.Node
