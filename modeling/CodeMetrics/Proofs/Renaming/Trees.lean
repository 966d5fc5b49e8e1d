import CodeMetrics.Proofs.Distinct
import CodeMetrics.Proofs.Loading.Making
import CodeMetrics.Syntax.Parents

/-!
# Trees under other names

`Node.renamed` gives every identifier of a tree another name and leaves all else as it is. The nodes of the renamed tree
are thus the renamed nodes, place by place: looking up a child, walking the tree, numbering it and collecting its parents
can be done before or after.

* `preorder_renamed`, `stamped_renamed` — the nodes of the tree and their numbers
* `Parents.find?_renamed` — their parents
-/

namespace CodeMetrics

variable {r : String → String}

/-- A text replaced by another; values of other kinds stay. -/
def Value.mapText (f : String → String) : Value → Value
  | str s => str (f s)
  | v => v

@[simp] theorem Value.mapText_str (f : String → String) (s : String) : (str s).mapText f = str (f s) := rfl

/-- An attribute of a renamed node: a new one if it is the name of an identifier. -/
def Value.renamedAttr (r : String → String) (kind : Kind) (key : String) (v : Value) : Value :=
  if kind = .identifier ∧ key = "name" then v.mapText r else v

theorem Value.renamedAttr_of_ne {key : String} (h : key ≠ "name") (kind : Kind) (v : Value) :
    v.renamedAttr r kind key = v := if_neg fun hname => h hname.2

/-- A slot with each of its nodes replaced. -/
def Slot.map {ν μ : Type} (f : ν → μ) : Slot ν → Slot μ
  | absent => absent
  | one n => one (f n)
  | many items => many (items.map (Option.map f))

@[simp] theorem Slot.nodes_map {ν μ : Type} (f : ν → μ) (slot : Slot ν) : (slot.map f).nodes = slot.nodes.map f := by
  cases slot with
  | absent => rfl
  | one n => rfl
  | many items => simp [Slot.map, Slot.nodes, List.filterMap_map, List.map_filterMap]

namespace Node

mutual

/-- The same tree with another name for each identifier. -/
def renamed (r : String → String) : Node → Node
  | ⟨id, kind, tag, span, fields, attrs⟩ =>
    ⟨id, kind, tag, span, renamedFields r fields, attrs.map fun attr => (attr.1, attr.2.renamedAttr r kind attr.1)⟩

def renamedFields (r : String → String) : List (String × Slot Node) → List (String × Slot Node)
  | [] => []
  | (name, slot) :: rest => (name, renamedSlot r slot) :: renamedFields r rest

def renamedSlot (r : String → String) : Slot Node → Slot Node
  | .absent => .absent
  | .one n => .one (renamed r n)
  | .many items => .many (renamedItems r items)

def renamedItems (r : String → String) : List (Option Node) → List (Option Node)
  | [] => []
  | none :: rest => none :: renamedItems r rest
  | some n :: rest => some (renamed r n) :: renamedItems r rest

end

theorem renamedItems_eq (items : List (Option Node)) : renamedItems r items = items.map (Option.map (renamed r)) := by
  induction items with
  | nil => rfl
  | cons item rest ih => cases item <;> simp [renamedItems, ih]

theorem renamedSlot_eq (slot : Slot Node) : renamedSlot r slot = slot.map (renamed r) := by
  cases slot <;> simp [renamedSlot, Slot.map, renamedItems_eq]

theorem renamedFields_eq (fields : List (String × Slot Node)) :
    renamedFields r fields = fields.map fun field => (field.1, field.2.map (renamed r)) := by
  induction fields with
  | nil => rfl
  | cons field rest ih =>
    obtain ⟨name, slot⟩ := field
    simp [renamedFields, renamedSlot_eq, ih]

/-! ## One node -/

@[simp] theorem id_renamed (n : Node) : (n.renamed r).id = n.id := by
  cases n
  rfl

@[simp] theorem kind_renamed (n : Node) : (n.renamed r).kind = n.kind := by
  cases n
  rfl

@[simp] theorem span_renamed (n : Node) : (n.renamed r).span = n.span := by
  cases n
  rfl

theorem fields_renamed (n : Node) : (n.renamed r).fields = n.fields.map fun field => (field.1, field.2.map (renamed r)) := by
  cases n
  rw [renamed, renamedFields_eq]

theorem get?_fields_renamed (n : Node) (name : String) :
    Fields.get? (n.renamed r).fields name = (Fields.get? n.fields name).map (Slot.map (renamed r)) := by
  rw [fields_renamed]
  exact Fields.get?_map (fun _ => Slot.map (renamed r)) n.fields name

theorem get?_attrs_renamed (n : Node) (key : String) :
    Fields.get? (n.renamed r).attrs key = (Fields.get? n.attrs key).map fun v => v.renamedAttr r n.kind key := by
  cases n with
  | mk id kind tag span fields attrs => exact Fields.get?_map (Value.renamedAttr r kind) attrs key

/-- Attributes other than names stay. -/
theorem get?_attrs_renamed_of_ne (n : Node) {key : String} (h : key ≠ "name") :
    Fields.get? (n.renamed r).attrs key = Fields.get? n.attrs key := by
  simp only [get?_attrs_renamed, Value.renamedAttr_of_ne h, Option.map_id']

@[simp] theorem child_renamed (n : Node) (name : String) : (n.renamed r).child name = (n.child name).map (renamed r) := by
  unfold child
  rw [get?_fields_renamed]
  cases Fields.get? n.fields name with
  | none => rfl
  | some slot => cases slot <;> rfl

@[simp] theorem childList_renamed (n : Node) (name : String) :
    (n.renamed r).childList name = (n.childList name).map (Option.map (renamed r)) := by
  unfold childList
  rw [get?_fields_renamed]
  cases Fields.get? n.fields name with
  | none => rfl
  | some slot => cases slot <;> rfl

@[simp] theorem children_renamed (n : Node) : (n.renamed r).children = n.children.map (renamed r) := by
  simp only [children, fields_renamed, List.flatMap_map, List.map_flatMap, Slot.nodes_map]

/-! ## The whole tree -/

@[simp] theorem preorder_renamed (n : Node) : (n.renamed r).preorder = n.preorder.map (renamed r) := by
  induction n using Node.induction with
  | step n ih =>
    rw [preorder_eq, preorder_eq n, children_renamed, List.map_cons, List.flatMap_map, List.map_flatMap]
    exact congrArg _ (List.flatMap_congr fun c hc => ih c hc)

@[simp] theorem size_renamed (n : Node) : (n.renamed r).size = n.size := by
  rw [← length_preorder, preorder_renamed, List.length_map, length_preorder]

theorem totalSize_renamed (nodes : List Node) : totalSize (nodes.map (renamed r)) = totalSize nodes := by
  induction nodes with
  | nil => rfl
  | cons n rest ih => rw [List.map_cons, totalSize, totalSize, size_renamed, ih]

theorem sizeFields_renamed (fields : List (String × Slot Node)) :
    sizeFields (renamedFields r fields) = sizeFields fields := by
  rw [sizeFields_eq, sizeFields_eq, renamedFields_eq, List.flatMap_map]
  simp only [Slot.nodes_map, ← List.map_flatMap, totalSize_renamed]

theorem sizeItems_renamed (items : List (Option Node)) : sizeItems (renamedItems r items) = sizeItems items := by
  have hnodes : (renamedItems r items).filterMap (fun item => item)
      = (items.filterMap fun item => item).map (renamed r) := by
    rw [renamedItems_eq, List.filterMap_map, List.map_filterMap]
    rfl
  rw [sizeItems_eq, sizeItems_eq, hnodes, totalSize_renamed]

mutual

/-- A tree can be renamed before or after its nodes are numbered. -/
theorem stamped_renamed (next : Nat) : ∀ n : Node, (n.renamed r).stamped next = (n.stamped next).renamed r
  | ⟨_, _, _, _, fields, _⟩ => by
    rw [renamed, stamped, stamped, renamed, stampedFields_renamed (next + 1) fields]

theorem stampedFields_renamed (next : Nat) : ∀ fields : List (String × Slot Node),
    stampedFields next (renamedFields r fields) = renamedFields r (stampedFields next fields)
  | [] => rfl
  | (_, slot) :: rest => by
    rw [renamedFields, stampedFields, stampedFields, renamedFields, sizeFields_renamed,
      stampedSlot_renamed (next + sizeFields rest) slot, stampedFields_renamed next rest]

theorem stampedSlot_renamed (next : Nat) : ∀ slot : Slot Node,
    stampedSlot next (renamedSlot r slot) = renamedSlot r (stampedSlot next slot)
  | .absent => rfl
  | .one n => by rw [renamedSlot, stampedSlot, stampedSlot, renamedSlot, stamped_renamed next n]
  | .many items => by rw [renamedSlot, stampedSlot, stampedSlot, renamedSlot, stampedItems_renamed next items]

theorem stampedItems_renamed (next : Nat) : ∀ items : List (Option Node),
    stampedItems next (renamedItems r items) = renamedItems r (stampedItems next items)
  | [] => rfl
  | none :: rest => by rw [renamedItems, stampedItems, stampedItems, renamedItems, stampedItems_renamed next rest]
  | some n :: rest => by
    rw [renamedItems, stampedItems, stampedItems, renamedItems, sizeItems_renamed,
      stamped_renamed (next + sizeItems rest) n, stampedItems_renamed next rest]

end

end Node

/-! ## Parents -/

namespace Parents

open Node

theorem collect_renamed (found : List (Nat × Node)) (stack : List Node) :
    collect (found.map fun pair => (pair.1, pair.2.renamed r)) (stack.map (renamed r))
      = (collect found stack).map fun pair => (pair.1, pair.2.renamed r) := by
  fun_induction collect found stack with
  | case1 found => rw [List.map_nil, collect]
  | case2 found n rest ih =>
    have hpairs : pairsOf (n.renamed r) = (pairsOf n).map fun pair => (pair.1, pair.2.renamed r) := by
      simp only [pairsOf, children_renamed, ← List.map_reverse, List.map_map, Function.comp_def, id_renamed]
    rw [List.map_cons, collect, hpairs, children_renamed, ← List.map_append, ← List.map_reverse, ← List.map_append, ih]

/-- The parent of a renamed node is its parent renamed. -/
theorem find?_renamed (root : Node) (id : Nat) :
    (Parents.of (root.renamed r)).find? id = ((Parents.of root).find? id).map (renamed r) := by
  have hpairs : (Parents.of (root.renamed r)).pairs
      = (Parents.of root).pairs.map fun pair => (pair.1, pair.2.renamed r) := collect_renamed [] [root]
  rw [find?, find?, hpairs, List.find?_map, Option.map_map, Option.map_map]
  rfl

end Parents

end CodeMetrics
