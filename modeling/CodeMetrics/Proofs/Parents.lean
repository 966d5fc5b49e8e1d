import CodeMetrics.Proofs.Distinct
import CodeMetrics.Syntax.Parents
import Mathlib.Data.List.Nodup
import Mathlib.Data.List.Perm.Lattice

/-!
# Parents of a tree

The loop over a stack notes every proper descendant of a node once for each of its occurrences. In a tree whose nodes
have numbers of their own there is thus one parent for every node but the root: the node that it is a child of.

* `find?_eq_some` — which node is whose parent
* `find?_root`, `exists_parent` — all nodes but the root have one
* `find?_of_mem_preorder` — the parents in a part of the tree
* `size_of` — how many nodes have one
-/

namespace CodeMetrics

theorem length_eraseDups_of_nodup {α : Type} [DecidableEq α] : ∀ {l : List α}, l.Nodup → l.eraseDups.length = l.length
  | [], _ => rfl
  | a :: rest, h => by
    obtain ⟨hnew, hrest⟩ := List.nodup_cons.mp h
    have hkept : rest.filter (fun b => !b == a) = rest := by
      rw [List.filter_eq_self]
      intro b hb
      have hne : b ≠ a := fun hba => hnew (hba ▸ hb)
      simpa using hne
    rw [List.eraseDups_cons, hkept, List.length_cons, List.length_cons, length_eraseDups_of_nodup hrest]

namespace Parents

/-- The numbers of all proper descendants. -/
def idsBelow (n : Node) : List Nat := n.preorder.tail.map Node.id

theorem ids_pairsOf (n : Node) : (pairsOf n).map (·.1) = n.children.reverse.map Node.id := by
  simp [pairsOf]

/-- A child's number, then those below it, child by child. -/
theorem idsBelow_perm (n : Node) : (idsBelow n).Perm (n.children.map Node.id ++ n.children.flatMap idsBelow) := by
  have hcons : ∀ c : Node, c.preorder.map Node.id = c.id :: idsBelow c := by
    intro c
    rw [idsBelow, Node.preorder_eq]
    rfl
  have hall : ∀ nodes : List Node, ((nodes.flatMap Node.preorder).map Node.id).Perm
      (nodes.map Node.id ++ nodes.flatMap idsBelow) := by
    intro nodes
    induction nodes with
    | nil => exact .nil
    | cons c rest ih =>
      rw [List.flatMap_cons, List.map_append, hcons, List.map_cons, List.flatMap_cons, List.cons_append,
        List.cons_append]
      exact ((ih.append_left _).trans (List.perm_append_comm_assoc ..)).cons _
  rw [idsBelow, Node.preorder_eq]
  exact hall n.children

/-- The numbers that are noted are those found before and those below the nodes on the stack. -/
theorem ids_collect_perm (found : List (Nat × Node)) (stack : List Node) :
    ((collect found stack).map (·.1)).Perm (found.map (·.1) ++ stack.flatMap idsBelow) := by
  fun_induction collect found stack with
  | case1 found => simp
  | case2 found n rest ih =>
    have hstep : (n.children.reverse.map Node.id ++ n.children.reverse.flatMap idsBelow).Perm (idsBelow n) := by
      have hreverse : (n.children.map Node.id ++ n.children.flatMap idsBelow).Perm
          (n.children.reverse.map Node.id ++ n.children.reverse.flatMap idsBelow) :=
        (List.reverse_perm _).symm.map _ |>.append ((List.reverse_perm _).symm.flatMap_right _)
      exact ((idsBelow_perm n).trans hreverse).symm
    refine ih.trans ?_
    rw [List.map_append, ids_pairsOf, List.flatMap_append, List.flatMap_cons, List.append_assoc]
    refine (List.perm_append_comm_assoc ..).trans (.append_left _ ?_)
    rw [← List.append_assoc]
    exact hstep.append_right _

theorem ids_of_perm (root : Node) : ((Parents.of root).pairs.map (·.1)).Perm (idsBelow root) := by
  simpa [Parents.of] using ids_collect_perm [] [root]

theorem nodup_ids_of {root : Node} (h : (root.preorder.map Node.id).Nodup) :
    ((Parents.of root).pairs.map (·.1)).Nodup := by
  refine (ids_of_perm root).nodup_iff.mpr ?_
  rw [Node.preorder_eq, List.map_cons, List.nodup_cons] at h
  rw [idsBelow, Node.preorder_eq]
  exact h.2

/-- The pairs that are noted are those found before and those of the nodes on the stack and below. -/
theorem mem_collect {pair : Nat × Node} (found : List (Nat × Node)) (stack : List Node) :
    pair ∈ collect found stack ↔ pair ∈ found ∨ ∃ n ∈ stack, ∃ p ∈ n.preorder, pair ∈ pairsOf p := by
  fun_induction collect found stack with
  | case1 found => simp
  | case2 found n rest ih =>
    rw [ih]
    constructor
    · rintro (hpair | ⟨m, hm, p, hp, hpair⟩)
      · rcases List.mem_append.mp hpair with hpair | hpair
        · exact .inr ⟨n, List.mem_cons_self, n, Node.mem_preorder_self n, hpair⟩
        · exact .inl hpair
      · rcases List.mem_append.mp hm with hm | hm
        · exact .inr ⟨n, List.mem_cons_self, p, Node.mem_preorder_of_child (List.mem_reverse.mp hm) hp, hpair⟩
        · exact .inr ⟨m, List.mem_cons_of_mem _ hm, p, hp, hpair⟩
    · rintro (hpair | ⟨m, hm, p, hp, hpair⟩)
      · exact .inl (List.mem_append_right _ hpair)
      · rcases List.mem_cons.mp hm with rfl | hm
        · rw [Node.preorder_eq] at hp
          rcases List.mem_cons.mp hp with rfl | hp
          · exact .inl (List.mem_append_left _ hpair)
          · obtain ⟨c, hc, hp⟩ := List.mem_flatMap.mp hp
            exact .inr ⟨c, List.mem_append_left _ (List.mem_reverse.mpr hc), p, hp, hpair⟩
        · exact .inr ⟨m, List.mem_append_right _ hm, p, hp, hpair⟩

/-- A node is the parent of its children, and of no other nodes. -/
theorem find?_eq_some {root p : Node} {id : Nat} (h : (root.preorder.map Node.id).Nodup) :
    (Parents.of root).find? id = some p ↔ p ∈ root.preorder ∧ ∃ c ∈ p.children, c.id = id := by
  have hmem : ∀ q : Nat × Node, q ∈ (Parents.of root).pairs ↔ q.2 ∈ root.preorder ∧ ∃ c ∈ q.2.children, c.id = q.1 := by
    rintro ⟨i, q⟩
    simp only [Parents.of, mem_collect, List.not_mem_nil, false_or, List.mem_singleton, exists_eq_left, pairsOf,
      List.mem_map, List.mem_reverse, Prod.mk.injEq]
    constructor
    · rintro ⟨_, hq, c, hc, rfl, rfl⟩
      exact ⟨hq, c, hc, rfl⟩
    · rintro ⟨hq, c, hc, rfl⟩
      exact ⟨q, hq, c, hc, rfl, rfl⟩
  have hnodup := nodup_ids_of h
  rw [find?, Option.map_eq_some_iff]
  constructor
  · rintro ⟨q, hfind, rfl⟩
    have hid := List.find?_some hfind
    rw [beq_iff_eq] at hid
    rw [← hid]
    exact (hmem q).mp (List.mem_of_find?_eq_some hfind)
  · intro hp
    have hpair : (id, p) ∈ (Parents.of root).pairs := (hmem (id, p)).mpr hp
    cases hfind : (Parents.of root).pairs.find? fun q => q.1 == id with
    | none => exact absurd (beq_self_eq_true id) (List.find?_eq_none.mp hfind _ hpair)
    | some q =>
      have hid := List.find?_some hfind
      rw [beq_iff_eq] at hid
      have hsame := List.inj_on_of_nodup_map hnodup (List.mem_of_find?_eq_some hfind) hpair hid
      exact ⟨q, rfl, by rw [hsame]⟩

theorem find?_root {root : Node} (h : root.IsDistinct) : (Parents.of root).find? root.id = none := by
  rw [Option.eq_none_iff_forall_ne_some]
  intro p hp
  obtain ⟨hmem, c, hc, hid⟩ := (find?_eq_some h.ids).mp hp
  have hroot : c = root :=
    h.eq_of_id (Node.mem_preorder_trans hmem (Node.mem_preorder_of_child hc (Node.mem_preorder_self c)))
      (Node.mem_preorder_self root) hid
  have hle := Node.size_le_of_mem_preorder hmem
  have hlt := Node.size_lt_of_mem_children (hroot ▸ hc)
  omega

theorem exists_mem_children {root m : Node} (hm : m ∈ root.preorder) (hne : m ≠ root) :
    ∃ p ∈ root.preorder, m ∈ p.children := by
  induction root using Node.induction with
  | step root ih =>
    rw [Node.preorder_eq] at hm
    rcases List.mem_cons.mp hm with rfl | hm
    · exact absurd rfl hne
    obtain ⟨c, hc, hm⟩ := List.mem_flatMap.mp hm
    by_cases hchild : m = c
    · exact ⟨root, Node.mem_preorder_self root, hchild ▸ hc⟩
    · obtain ⟨p, hp, hmp⟩ := ih c hc hm hchild
      exact ⟨p, Node.mem_preorder_of_child hc hp, hmp⟩

/-- A node that is not the root is a child of one node, which is its parent. -/
theorem exists_parent {root m : Node} (h : root.IsDistinct) (hm : m ∈ root.preorder) (hne : m ≠ root) :
    ∃ p ∈ root.preorder, (Parents.of root).find? m.id = some p ∧ m ∈ p.children ∧
      ∀ q ∈ root.preorder, m ∈ q.children → q = p := by
  obtain ⟨p, hp, hmp⟩ := exists_mem_children hm hne
  have hfind : ∀ q ∈ root.preorder, m ∈ q.children → (Parents.of root).find? m.id = some q := fun q hq hmq =>
    (find?_eq_some h.ids).mpr ⟨hq, m, hmq, rfl⟩
  refine ⟨p, hp, hfind p hp hmp, hmp, fun q hq hmq => ?_⟩
  exact Option.some.inj ((hfind q hq hmq).symm.trans (hfind p hp hmp))

/-- The parents in a part of the tree are those in the tree, of all nodes but the topmost one. -/
theorem find?_of_mem_preorder {root s m : Node} (h : root.IsDistinct) (hs : s ∈ root.preorder) (hm : m ∈ s.preorder)
    (hne : m ≠ s) : (Parents.of s).find? m.id = (Parents.of root).find? m.id := by
  obtain ⟨p, hp, hfind, hmp, -⟩ := exists_parent (h.below hs) hm hne
  rw [hfind]
  exact ((find?_eq_some h.ids).mpr ⟨Node.mem_preorder_trans hs hp, m, hmp, rfl⟩).symm

/-- Every node but the root has a parent. -/
theorem size_of {root : Node} (h : (root.preorder.map Node.id).Nodup) :
    (Parents.of root).size + 1 = root.preorder.length := by
  have hsize : (Parents.of root).size = (idsBelow root).length :=
    (length_eraseDups_of_nodup (nodup_ids_of h)).trans (ids_of_perm root).length_eq
  rw [hsize, idsBelow, List.length_map, Node.preorder_eq]
  rfl

end Parents

end CodeMetrics
