import CodeMetrics.Log
import CodeMetrics.Metrics.Inheritance
import CodeMetrics.Syntax.Walk

/-!
# Classes and their inheritance

Named classes and interfaces of a tree, their inheritance graph, and its depths. Names are taken from documents as they
are. They are told apart by key, and a name that cannot be a key, or names that have no common order, are refused at
the point where the graph needs them.
-/

namespace CodeMetrics

open Number

/-! ## Names as keys -/

namespace Value.Key

/-- Whether two keys have an order: both are numbers or both are texts, or they are the same. -/
def isOrdered : Key → Key → Bool
  | number _, number _ => true
  | text _, text _ => true
  | a, b => decide (a = b)

/-- Numbers by value and texts by their characters. -/
def le : Key → Key → Bool
  | null, _ => true
  | number a, number b => !b.lt a
  | number _, text _ => true
  | text s, text t => decide (s ≤ t)
  | _, _ => false

/-- The text that a key is. -/
def text? : Key → Except Error String
  | text s => .ok s
  | _ => .error (.mismatch .notText)

end Value.Key

/-- The key of a name. -/
def nameKey (v : Value) : Except Error Value.Key :=
  match v.key? with
  | some k => .ok k
  | none => .error (.mismatch .unhashable)

/-- Names without repetition, first occurrences in order. -/
def distinctNames (names : List Value) : Except Error (List Value) := do
  let keyed ← names.mapM fun v => do return (v, ← nameKey v)
  return (Inheritance.distinct (keyed.map (·.2))).filterMap fun k =>
    (keyed.find? fun (_, k') => k' = k).map (·.1)

/-- Names in order, if they have one. -/
def sortedNames (names : List Value) : Except Error (List Value) := do
  let keyed ← names.mapM fun v => do return (v, ← nameKey v)
  if keyed.any fun (_, k) => keyed.any fun (_, k') => !k.isOrdered k' then
    throw (.mismatch (.notOrdered "<" "str" "int"))
  return (keyed.mergeSort fun (_, k) (_, k') => k.le k').map (·.1)

/-! ## Declarations -/

/-- The names behind the entries of an `implements` or `extends` list. Every entry has to be a node. -/
def heritageNames : List (Option Node) → Except Error (List Value)
  | [] => .ok []
  | none :: _ => .error .absentNode
  | some clause :: rest => do
    let later ← heritageNames rest
    return (Node.identifierName? (clause.child "expression")).toList ++ later

namespace Node

/-- The type that a node declares, if it is a class or interface with a name. -/
def typeDecl? (n : Node) : Except Error (Option (TypeDecl Value)) :=
  if !n.kind.isType then .ok none
  else
    match identifierName? (n.child "id") with
    | none => .ok none
    | some name =>
      if n.kind.isClass then do
        let base ← distinctNames (identifierName? (n.child "superClass")).toList
        let others ← heritageNames (n.childList "implements")
        return some ⟨name, ← distinctNames (base ++ others)⟩
      else do
        let others ← heritageNames (n.childList "extends")
        return some ⟨name, ← distinctNames others⟩

/-- The types that a tree declares, in order. -/
def typeDecls (n : Node) : Except Error (List (TypeDecl Value)) := do
  let found ← n.walk.mapM typeDecl?
  return found.filterMap fun d => d

/-- The number of class declarations of a tree. -/
def classCount (n : Node) : Nat := n.walk.countP fun m => m.kind = .classDeclaration

end Node

/-! ## Depths -/

/-- Whether two edges cannot be put in order: the first components that differ have none. -/
def unordered (a b : Value.Key × Value.Key) : Bool :=
  if a.1 = b.1 then !a.2.isOrdered b.2 else !a.1.isOrdered b.1

/-- The types of a cycle, if they all have texts as names. -/
def cycleNames (keys : List Value.Key) : Except Error (List String) := do
  let names ← keys.mapM Value.Key.text?
  return (Inheritance.distinct names).mergeSort fun s t => decide (s ≤ t)

/-- A declaration by keys. -/
def TypeDecl.keyed (d : TypeDecl Value) : Except Error (TypeDecl Value.Key) := do
  return ⟨← nameKey d.name, ← d.parents.mapM nameKey⟩

/-- The name that a key stands for: as it was first declared. -/
def declaredName (decls : List (TypeDecl Value)) (key : Value.Key) : Value :=
  match decls.find? fun d => d.name.key? = some key with
  | some d => d.name
  | none => .null

/-- The depths of declared types, each under its name as first declared. -/
def resolveDepths (decls : List (TypeDecl Value)) (limit : Option Int) : Traced (List (Value × Nat)) := do
  let keyed ← Traced.lift (decls.mapM TypeDecl.keyed)
  let edges := Inheritance.edges Value.Key.le keyed
  if edges.any fun a => edges.any fun b => unordered a b then
    Traced.fail (.mismatch (.notOrdered "<" "str" "int"))
  else
    match Inheritance.resolve Value.Key.le keyed limit with
    | .error d =>
      let names ← Traced.lift (cycleNames d.changed)
      Traced.fail (.problem (.inheritanceCycle names d.passes))
    | .ok r =>
      Traced.note .debug "qualytics.metrics.structure"
        ("Resolved " ++ natText r.depths.length ++ " type depths in " ++ natText r.passes ++ " passes")
      return r.depths.map fun (k, d) => (declaredName decls k, d)

/-- Declarations of one name put together. -/
def mergeDecls (decls : List (TypeDecl Value)) : Except Error (List (TypeDecl Value)) := do
  let names ← distinctNames (decls.map (·.name))
  names.mapM fun name => do
    let same := decls.filter fun d => d.name.key? = name.key?
    return ⟨name, ← distinctNames (same.flatMap (·.parents))⟩

/-- The number of classes of a tree and its inheritance depths. -/
structure Structure where
  classCount : Nat
  depths : List (Value × Nat)

/-- The greatest depth, zero without types. -/
def Structure.maxDepth (s : Structure) : Nat := s.depths.foldl (fun acc (_, d) => max acc d) 0

/-- The inheritance depths of a tree. -/
def Node.inheritanceDepths (n : Node) (limit : Option Int) : Traced (List (Value × Nat)) := do
  let decls ← Traced.lift n.typeDecls
  let merged ← Traced.lift (mergeDecls decls)
  resolveDepths merged limit

/-- The class count and inheritance depths of a tree. -/
def Node.structure (n : Node) (limit : Option Int) : Traced Structure := do
  let depths ← n.inheritanceDepths limit
  return ⟨n.classCount, depths⟩

end CodeMetrics
