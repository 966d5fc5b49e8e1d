import CodeMetrics.Syntax.Graph
import Mathlib.Data.List.Perm.Basic

/-!
# The order in which nodes are made

The loader makes a node, then the trees of its children, the last child first. `Node.making` lists the nodes of a tree
in that order and `Node.stamped` numbers them in it, so that a node's number says at which position of the loader's
graph it stands.

* `ids_making_stamped` — the numbers run from the first one on without a gap
* `making_perm_preorder` — the nodes are those of the preorder sequence
* `Graph.node?_making` — the graph of the records in that order unfolds to the tree
-/

namespace CodeMetrics

namespace Node

mutual

/-- The node, then the nodes of its children's trees, the last child first. -/
def making : Node → List Node
  | ⟨id, kind, tag, span, fields, attrs⟩ => ⟨id, kind, tag, span, fields, attrs⟩ :: makingFields fields

def makingFields : List (String × Slot Node) → List Node
  | [] => []
  | (_, slot) :: rest => makingFields rest ++ makingSlot slot

def makingSlot : Slot Node → List Node
  | .absent => []
  | .one n => making n
  | .many items => makingItems items

def makingItems : List (Option Node) → List Node
  | [] => []
  | none :: rest => makingItems rest
  | some n :: rest => makingItems rest ++ making n

end

mutual

/-- The same tree with its nodes numbered from `next` on in the order in which they are made. -/
def stamped (next : Nat) : Node → Node
  | ⟨_, kind, tag, span, fields, attrs⟩ => ⟨next, kind, tag, span, stampedFields (next + 1) fields, attrs⟩

def stampedFields (next : Nat) : List (String × Slot Node) → List (String × Slot Node)
  | [] => []
  | (name, slot) :: rest => (name, stampedSlot (next + sizeFields rest) slot) :: stampedFields next rest

def stampedSlot (next : Nat) : Slot Node → Slot Node
  | .absent => .absent
  | .one n => .one (stamped next n)
  | .many items => .many (stampedItems next items)

def stampedItems (next : Nat) : List (Option Node) → List (Option Node)
  | [] => []
  | none :: rest => none :: stampedItems next rest
  | some n :: rest => some (stamped (next + sizeItems rest) n) :: stampedItems next rest

end

/-! ## Numbers -/

mutual

/-- The numbers run from the first one on without a gap. -/
theorem ids_making_stamped (next : Nat) : ∀ n : Node, (n.stamped next).making.map id = List.range' next n.size
  | ⟨_, _, _, _, fields, _⟩ => by
    rw [stamped, making, List.map_cons, ids_makingFields_stamped (next + 1) fields, size, Nat.add_comm 1,
      List.range'_succ]

theorem ids_makingFields_stamped (next : Nat) : ∀ fields : List (String × Slot Node),
    (makingFields (stampedFields next fields)).map id = List.range' next (sizeFields fields)
  | [] => rfl
  | (_, slot) :: rest => by
    rw [stampedFields, makingFields, List.map_append, ids_makingFields_stamped next rest,
      ids_makingSlot_stamped (next + sizeFields rest) slot, List.range'_append_1, sizeFields, Nat.add_comm]

theorem ids_makingSlot_stamped (next : Nat) : ∀ slot : Slot Node,
    (makingSlot (stampedSlot next slot)).map id = List.range' next (sizeSlot slot)
  | .absent => rfl
  | .one n => by rw [stampedSlot, makingSlot, ids_making_stamped next n, sizeSlot]
  | .many items => by rw [stampedSlot, makingSlot, ids_makingItems_stamped next items, sizeSlot]

theorem ids_makingItems_stamped (next : Nat) : ∀ items : List (Option Node),
    (makingItems (stampedItems next items)).map id = List.range' next (sizeItems items)
  | [] => rfl
  | none :: rest => by rw [stampedItems, makingItems, ids_makingItems_stamped next rest, sizeItems]
  | some n :: rest => by
    rw [stampedItems, makingItems, List.map_append, ids_makingItems_stamped next rest,
      ids_making_stamped (next + sizeItems rest) n, List.range'_append_1, sizeItems, Nat.add_comm]

end

theorem length_makingFields_stamped (next : Nat) (fields : List (String × Slot Node)) :
    (makingFields (stampedFields next fields)).length = sizeFields fields := by
  simpa using congrArg List.length (ids_makingFields_stamped next fields)

theorem length_makingItems_stamped (next : Nat) (items : List (Option Node)) :
    (makingItems (stampedItems next items)).length = sizeItems items := by
  simpa using congrArg List.length (ids_makingItems_stamped next items)

/-! ## Several members -/

theorem sizeFields_append (a b : List (String × Slot Node)) : sizeFields (a ++ b) = sizeFields a + sizeFields b := by
  induction a with
  | nil => simp [sizeFields]
  | cons field rest ih =>
    obtain ⟨name, slot⟩ := field
    rw [List.cons_append, sizeFields, sizeFields, ih, Nat.add_assoc]

theorem preorderFields_append (a b : List (String × Slot Node)) :
    preorderFields (a ++ b) = preorderFields a ++ preorderFields b := by
  induction a with
  | nil => rfl
  | cons field rest ih =>
    obtain ⟨name, slot⟩ := field
    rw [List.cons_append, preorderFields, preorderFields, ih, List.append_assoc]

theorem makingFields_append (a b : List (String × Slot Node)) :
    makingFields (a ++ b) = makingFields b ++ makingFields a := by
  induction a with
  | nil => simp [makingFields]
  | cons field rest ih =>
    obtain ⟨name, slot⟩ := field
    rw [List.cons_append, makingFields, makingFields, ih, List.append_assoc]

/-- The later members are numbered first. -/
theorem stampedFields_append (next : Nat) (a b : List (String × Slot Node)) :
    stampedFields next (a ++ b) = stampedFields (next + sizeFields b) a ++ stampedFields next b := by
  induction a with
  | nil => rfl
  | cons field rest ih =>
    obtain ⟨name, slot⟩ := field
    rw [List.cons_append, stampedFields, stampedFields, ih, sizeFields_append, List.cons_append, Nat.add_assoc,
      Nat.add_comm (sizeFields b)]

mutual

/-- The nodes are those of the preorder sequence. -/
theorem making_perm_preorder : ∀ n : Node, n.making.Perm n.preorder
  | ⟨_, _, _, _, fields, _⟩ => by
    rw [making, preorder]
    exact (makingFields_perm_preorder fields).cons _

theorem makingFields_perm_preorder : ∀ fields : List (String × Slot Node),
    (makingFields fields).Perm (preorderFields fields)
  | [] => .nil
  | (_, slot) :: rest => by
    rw [makingFields, preorderFields]
    exact ((makingFields_perm_preorder rest).append (makingSlot_perm_preorder slot)).trans List.perm_append_comm

theorem makingSlot_perm_preorder : ∀ slot : Slot Node, (makingSlot slot).Perm (preorderSlot slot)
  | .absent => .nil
  | .one n => making_perm_preorder n
  | .many items => makingItems_perm_preorder items

theorem makingItems_perm_preorder : ∀ items : List (Option Node), (makingItems items).Perm (preorderItems items)
  | [] => .nil
  | none :: rest => makingItems_perm_preorder rest
  | some n :: rest => by
    rw [makingItems, preorderItems]
    exact ((makingItems_perm_preorder rest).append (making_perm_preorder n)).trans List.perm_append_comm

end

/-- Stamped nodes have numbers of their own. -/
theorem nodup_ids_stamped (next : Nat) (n : Node) : ((n.stamped next).preorder.map id).Nodup := by
  have hperm := ((making_perm_preorder (n.stamped next)).map id).symm
  rw [ids_making_stamped] at hperm
  exact hperm.nodup_iff.mpr List.nodup_range'

theorem size_stamped (next : Nat) (n : Node) : (n.stamped next).size = n.size := by
  have hlen := congrArg List.length (ids_making_stamped next n)
  rw [List.length_map, List.length_range', (making_perm_preorder _).length_eq, length_preorder] at hlen
  exact hlen

end Node

/-! ## Back from the graph -/

/-- A slot is found again from the positions of its nodes. -/
theorem Slot.replace_replace {f : Node → Nat} {find : Nat → Option Node} {slot : Slot Node}
    (h : ∀ c ∈ slot.nodes, find (f c) = some c) : (slot.replace fun c => some (f c)).replace find = slot := by
  cases slot with
  | absent => rfl
  | one n => simp [Slot.replace, h n (by simp [Slot.nodes])]
  | many items =>
    have hitem : ∀ item ∈ items, (item.bind fun c => some (f c)).bind find = item := by
      intro item hitem
      cases item with
      | none => rfl
      | some c => exact h c (List.mem_filterMap.mpr ⟨some c, hitem, rfl⟩)
    simp only [Slot.replace, List.map_map]
    exact congrArg Slot.many ((List.map_congr_left hitem).trans (List.map_id' _))

namespace Graph

/-- A graph that has the record of each node of a tree at its position unfolds to the tree. -/
theorem unfold_eq {g : Graph} : ∀ {depth : Nat} {n : Node}, n.size ≤ depth →
    (∀ m ∈ n.preorder, 0 < m.id ∧ g.nodes[m.id - 1]? = some (recordOf m)) →
    g.unfold depth (n.id - 1) = some n := by
  intro depth
  induction depth with
  | zero =>
    intro n hsize
    rw [Node.size_eq] at hsize
    omega
  | succ depth ih =>
    intro n hsize hrecords
    obtain ⟨hpos, hget⟩ := hrecords n (by rw [Node.preorder_eq]; exact List.mem_cons_self)
    have hchild : ∀ c ∈ n.children, g.unfold depth (c.id - 1) = some c := by
      intro c hc
      have hlt := Node.size_lt_of_mem_children hc
      refine ih (by omega) fun m hm => hrecords m ?_
      rw [Node.preorder_eq]
      exact List.mem_cons_of_mem _ (List.mem_flatMap.mpr ⟨c, hc, hm⟩)
    have hfields : (recordOf n).fields.map (fun field => (field.1, field.2.replace (g.unfold depth))) = n.fields := by
      simp only [recordOf, positions, List.map_map]
      refine (List.map_congr_left fun field hfield => ?_).trans (List.map_id' _)
      have hslot : ∀ c ∈ field.2.nodes, g.unfold depth (c.id - 1) = some c := fun c hc =>
        hchild c (List.mem_flatMap.mpr ⟨field, hfield, hc⟩)
      exact Prod.ext rfl (Slot.replace_replace hslot)
    rw [unfold, hget, Option.map_some, Nat.sub_add_cancel hpos]
    refine (congrArg (fun fields => some (Node.mk n.id n.kind n.tag n.span fields n.attrs)) hfields).trans ?_
    cases n
    rfl

/-- The records of a stamped tree, in the order of making, are a graph of the tree. -/
theorem node?_making (n : Node) :
    Graph.node? ⟨((n.stamped 1).making.map recordOf).toArray⟩ 0 = some (n.stamped 1) := by
  have hids := Node.ids_making_stamped 1 n
  have hlen : (n.stamped 1).making.length = n.size := by
    simpa using congrArg List.length hids
  have hroot : (n.stamped 1).id - 1 = 0 := by
    cases n
    rfl
  have hrecords : ∀ m ∈ (n.stamped 1).preorder, 0 < m.id ∧
      ((n.stamped 1).making.map recordOf).toArray[m.id - 1]? = some (recordOf m) := by
    intro m hm
    obtain ⟨i, hi, rfl⟩ := List.getElem_of_mem ((Node.making_perm_preorder _).mem_iff.mpr hm)
    -- The number of the node at a position is one more than the position.
    have hid : ((n.stamped 1).making[i]).id = 1 + i := by
      have hget : ((n.stamped 1).making.map Node.id)[i]? = (List.range' 1 n.size)[i]? := by rw [hids]
      rw [List.getElem?_map, List.getElem?_eq_getElem hi, List.getElem?_range' (by omega)] at hget
      simpa using hget
    refine ⟨by omega, ?_⟩
    rw [hid, Nat.add_sub_cancel_left, List.getElem?_toArray, List.getElem?_map, List.getElem?_eq_getElem hi]
    rfl
  have hsize : (n.stamped 1).size ≤ ((n.stamped 1).making.map recordOf).toArray.size := by
    simp [Node.size_stamped, hlen]
  rw [Graph.node?, ← hroot]
  exact unfold_eq hsize hrecords

end Graph

end CodeMetrics
