import CodeMetrics.Metrics.Lines
import CodeMetrics.Syntax.Graph
import CodeMetrics.Syntax.Parents

/-!
# Sessions

A session examines a graph of nodes step by step, with edits in between. It remembers which node was whose parent when
that was last looked up, and sets of nodes whose lines have been counted. A remembered parent is shown with the edits
made since, while the relation itself changes only when it is looked up again.
-/

namespace CodeMetrics

/-- A graph under examination: which node is whose parent, as it was last looked up, and named sets of nodes whose
lines have been counted. -/
structure Session where
  graph : Graph
  /-- Numbers of nodes and of their parents. The parents are looked up again whenever they are asked for. -/
  links : List (Nat × Nat)
  seen : List (String × List Nat)

namespace Session

/-- The numbers in place of the nodes. -/
def linksOf (parents : Parents) : List (Nat × Nat) := parents.pairs.map fun (child, parent) => (child, parent.id)

/-- A session on a graph, with the parents below one of its positions. -/
def start (graph : Graph) (root : Nat) : Session :=
  { graph
    links := match graph.node? root with
      | some n => linksOf (Parents.of n)
      | none => []
    seen := [] }

/-- The parents of the session, as they are now, with what is nearby. -/
def parents (s : Session) : Parents :=
  let nodes := s.graph.allNearby
  ⟨s.links.filterMap fun (child, parent) => ((nodes[parent - 1]?).bind fun n => n).map fun n => (child, n)⟩

/-- Looks the parents up again, below a node. -/
def rebuild (s : Session) (n : Node) : Session := { s with links := linksOf (Parents.of n) }

def forget (s : Session) : Session := { s with links := [] }

/-- Counts the lines below a node that are not in a named set yet, and adds them to it. -/
def countLines (s : Session) (n : Node) (name : String) : Node.LineCount × Session :=
  let count := n.countLines ((Fields.get? s.seen name).getD [])
  (count, { s with seen := Fields.insert s.seen name count.seen })

/-- Removes a slot that is there. -/
def eraseField (s : Session) (position : Nat) (name : String) : Except Error Session :=
  match s.graph.nodes[position]? with
  | some record =>
    if (Fields.get? record.fields name).isSome then .ok { s with graph := s.graph.eraseField position name }
    else .error .absentField
  | none => .error .absentNode

end Session

end CodeMetrics
