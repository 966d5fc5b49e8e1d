/-!
# Inheritance depths

A type's depth is the number of types on the longest chain from it along its parents; a parent that is not declared
ends a chain and counts as one. Depths are found by going over the edges of the graph again and again, raising a
depth wherever an edge asks for it, until a pass changes nothing. On a graph without cycles that takes no more passes
than there are names, plus a quiet one; if depths still change after that many, the graph has a cycle.

The names may be of any type with decidable equality; the edges are gone over in the order of a given relation on
names.
-/

namespace CodeMetrics

/-- A declared type and the names it inherits from. -/
structure TypeDecl (ν : Type) where
  name : ν
  parents : List ν
  deriving Repr

namespace Inheritance

variable {ν : Type} [DecidableEq ν]

/-- Depths by name, in order of declaration. -/
abbrev Depths (ν : Type) := List (ν × Nat)

/-- The depth of a name; names without an entry are not declared and have depth 1. -/
def Depths.find (depths : Depths ν) (name : ν) : Nat :=
  match depths with
  | [] => 1
  | (n, d) :: rest => if n = name then d else Depths.find rest name

/-- Sets the depth of a name that has an entry. -/
def Depths.set (depths : Depths ν) (name : ν) (depth : Nat) : Depths ν :=
  depths.map fun (n, d) => if n = name then (n, depth) else (n, d)

/-- The distinct elements of a list, first occurrences in order. -/
def distinct {α : Type} [DecidableEq α] : List α → List α
  | [] => []
  | a :: rest => a :: (distinct rest).filter fun b => b ≠ a

/-- Every declared type starts at depth 1. -/
def start (decls : List (TypeDecl ν)) : Depths ν := (distinct (decls.map (·.name))).map fun n => (n, 1)

/-- The order of pairs by first and then second component. -/
def pairLe (le : ν → ν → Bool) (a b : ν × ν) : Bool :=
  if a.1 = b.1 then le a.2 b.2 else le a.1 b.1

/-- The edges from types to their parents, each once, in order. -/
def edges (le : ν → ν → Bool) (decls : List (TypeDecl ν)) : List (ν × ν) :=
  (distinct (decls.flatMap fun d => d.parents.map fun p => (d.name, p))).mergeSort (pairLe le)

/-- The depths in the middle of a pass, and the names whose depth has changed in it, latest first. -/
structure Pass (ν : Type) where
  depths : Depths ν
  changed : List ν

/-- Raises the depth of a type above that of its parent. -/
def Pass.relax (pass : Pass ν) (edge : ν × ν) : Pass ν :=
  let (child, parent) := edge
  let candidate := pass.depths.find parent + 1
  if pass.depths.find child < candidate then
    ⟨pass.depths.set child candidate, child :: pass.changed⟩
  else pass

/-- One pass over all edges. -/
def onePass (edges : List (ν × ν)) (depths : Depths ν) : Pass ν := edges.foldl Pass.relax ⟨depths, []⟩

/-- Depths that no edge changes, and the number of passes it took. -/
structure Resolution (ν : Type) where
  depths : Depths ν
  passes : Nat

/-- The names that the last allowed pass still changed, and the number of passes. -/
structure Divergence (ν : Type) where
  changed : List ν
  passes : Nat

/-- Goes over the edges until a pass changes nothing, at most `remaining` times after the next one. -/
def passesFrom (edges : List (ν × ν)) : Nat → Nat → Depths ν → Except (Divergence ν) (Resolution ν)
  | remaining, done, depths =>
    let pass := onePass edges depths
    if pass.changed.isEmpty then .ok ⟨pass.depths, done + 1⟩
    else
      match remaining with
      | 0 => .error ⟨pass.changed, done + 1⟩
      | remaining + 1 => passesFrom edges remaining (done + 1) pass.depths

/-- All names that are declared or inherited from. -/
def mentioned (decls : List (TypeDecl ν)) : List ν := distinct (decls.flatMap fun d => d.name :: d.parents)

/-- The depths of the declared types. Without a limit there may be one pass more than there are names; at least one
pass is always made. -/
def resolve (le : ν → ν → Bool) (decls : List (TypeDecl ν)) (limit : Option Int) :
    Except (Divergence ν) (Resolution ν) :=
  let limit := limit.getD ((mentioned decls).length + 1)
  passesFrom (edges le decls) (limit.toNat - 1) 0 (start decls)

/-- Declarations of one name put together, in order of their first occurrence. -/
def merge (decls : List (TypeDecl ν)) : List (TypeDecl ν) :=
  (distinct (decls.map (·.name))).map fun n =>
    ⟨n, distinct ((decls.filter fun d => d.name = n).flatMap (·.parents))⟩

end Inheritance

end CodeMetrics
