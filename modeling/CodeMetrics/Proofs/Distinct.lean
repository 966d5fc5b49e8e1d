import CodeMetrics.Proofs.Fields
import CodeMetrics.Syntax.Node
import Mathlib.Data.List.Flatten
import Mathlib.Data.List.Pairwise

/-!
# Trees of distinct nodes

The nodes of a tree and those below them, and trees in which a node is known by its number.
-/

namespace CodeMetrics.Node

/-! ## Nodes of a tree -/

theorem mem_preorder_self (n : Node) : n ∈ n.preorder := by
  rw [preorder_eq]
  exact List.mem_cons_self

theorem mem_preorder_of_child {n c m : Node} (hc : c ∈ n.children) (hm : m ∈ c.preorder) : m ∈ n.preorder := by
  rw [preorder_eq]
  exact List.mem_cons_of_mem _ (List.mem_flatMap.mpr ⟨c, hc, hm⟩)

theorem mem_preorder_trans {n c m : Node} (hc : c ∈ n.preorder) (hm : m ∈ c.preorder) : m ∈ n.preorder := by
  induction n using Node.induction with
  | step n ih =>
    rw [preorder_eq] at hc
    rcases List.mem_cons.mp hc with rfl | hc
    · exact hm
    · obtain ⟨d, hd, hc⟩ := List.mem_flatMap.mp hc
      exact mem_preorder_of_child hd (ih d hd hc)

/-- The nodes below a node stand together in the sequence of the whole tree. -/
theorem preorder_sublist {n m : Node} (h : m ∈ n.preorder) : m.preorder.Sublist n.preorder := by
  induction n using Node.induction with
  | step n ih =>
    rw [preorder_eq] at h
    rcases List.mem_cons.mp h with rfl | h
    · exact List.Sublist.refl _
    · obtain ⟨c, hc, hmc⟩ := List.mem_flatMap.mp h
      rw [preorder_eq n, List.flatMap_def]
      exact ((ih c hc hmc).trans (List.sublist_flatten_of_mem (List.mem_map_of_mem hc))).cons n

theorem size_le_of_mem_preorder {n m : Node} (h : m ∈ n.preorder) : m.size ≤ n.size := by
  induction n using Node.induction with
  | step n ih =>
    rw [preorder_eq] at h
    rcases List.mem_cons.mp h with rfl | h
    · exact Nat.le_refl _
    · obtain ⟨c, hc, hm⟩ := List.mem_flatMap.mp h
      have hle := ih c hc hm
      have hlt := size_lt_of_mem_children hc
      omega

/-- A node is not below itself. -/
theorem notMem_preorder_of_child {n c : Node} (hc : c ∈ n.children) : n ∉ c.preorder := by
  intro hmem
  have hle := size_le_of_mem_preorder hmem
  have hlt := size_lt_of_mem_children hc
  omega

theorem child_eq_some {n c : Node} {name : String} (h : n.child name = some c) : (name, .one c) ∈ n.fields := by
  unfold child at h
  split at h
  · next d hslot =>
    cases h
    exact Fields.mem_of_get? hslot
  · cases h

theorem mem_children_of_child {n c : Node} {name : String} (h : n.child name = some c) : c ∈ n.children :=
  List.mem_flatMap.mpr ⟨_, child_eq_some h, List.mem_singleton_self c⟩

/-! ## Distinct nodes -/

/-- Nodes have numbers of their own, and each node has each of its keys once. -/
structure IsDistinct (n : Node) : Prop where
  ids : (n.preorder.map id).Nodup
  keys : ∀ m ∈ n.preorder, (Fields.keys m.fields).Nodup

theorem IsDistinct.child {n c : Node} (h : n.IsDistinct) (hc : c ∈ n.children) : c.IsDistinct := by
  refine ⟨?_, fun m hm => h.keys m (mem_preorder_of_child hc hm)⟩
  have hids := h.ids
  rw [preorder_eq, List.map_cons, List.nodup_cons, List.map_flatMap, List.nodup_flatMap] at hids
  exact hids.2.1 c hc

theorem IsDistinct.below {n m : Node} (h : n.IsDistinct) (hm : m ∈ n.preorder) : m.IsDistinct :=
  ⟨h.ids.sublist ((preorder_sublist hm).map id), fun k hk => h.keys k (mem_preorder_trans hm hk)⟩

theorem IsDistinct.nodup {n : Node} (h : n.IsDistinct) : n.preorder.Nodup := .of_map id h.ids

/-- A node is below one child only. -/
theorem IsDistinct.child_unique {n c d m : Node} (h : n.IsDistinct) (hc : c ∈ n.children) (hd : d ∈ n.children)
    (hmc : m ∈ c.preorder) (hmd : m ∈ d.preorder) : c = d := by
  have hnodup := h.nodup
  rw [preorder_eq, List.nodup_cons, List.nodup_flatMap] at hnodup
  by_contra hne
  have : Std.Symm (Function.onFun List.Disjoint Node.preorder) := ⟨fun _ _ hdisjoint _ hx hy => hdisjoint hy hx⟩
  exact hnodup.2.2.forall hc hd hne hmc hmd

/-- Of two nodes of a tree one is below the other, or they have nothing below them in common. -/
theorem IsDistinct.nested_or_disjoint {n a b : Node} (h : n.IsDistinct) (ha : a ∈ n.preorder) (hb : b ∈ n.preorder) :
    a ∈ b.preorder ∨ b ∈ a.preorder ∨ a.preorder.Disjoint b.preorder := by
  induction n using Node.induction with
  | step n ih =>
    have hbelow := hb
    have hbelow' := ha
    rw [preorder_eq] at ha hb
    rcases List.mem_cons.mp ha with rfl | ha
    · exact .inr (.inl hbelow)
    rcases List.mem_cons.mp hb with rfl | hb
    · exact .inl hbelow'
    obtain ⟨c, hc, hac⟩ := List.mem_flatMap.mp ha
    obtain ⟨d, hd, hbd⟩ := List.mem_flatMap.mp hb
    by_cases hcd : c = d
    · subst hcd
      exact ih c hc (h.child hc) hac hbd
    · refine .inr (.inr fun m hma hmb => hcd ?_)
      exact h.child_unique hc hd (mem_preorder_trans hac hma) (mem_preorder_trans hbd hmb)

theorem IsDistinct.eq_of_id {n a b : Node} (h : n.IsDistinct) (ha : a ∈ n.preorder) (hb : b ∈ n.preorder)
    (hid : a.id = b.id) : a = b := List.inj_on_of_nodup_map h.ids ha hb hid

end CodeMetrics.Node
