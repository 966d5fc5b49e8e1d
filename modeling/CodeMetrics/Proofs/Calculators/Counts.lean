import CodeMetrics.Metrics.Complexity
import CodeMetrics.Metrics.Lines
import CodeMetrics.Proofs.Distinct
import CodeMetrics.Proofs.Outcome
import Mathlib.Algebra.GroupWithZero.Nat
import Mathlib.Data.List.Perm.Subperm

/-!
# Paths and lines as counts

The complexity of a tree is one more than the number of its nodes that open a path, and its logical lines are its nodes
of a countable kind: the numbers that the loop carries along keep no node of a tree of distinct nodes from being
counted. Both are thus counts over the preorder sequence, and what is below a node counts no more than the whole.

* `complexity_eq_ok` — when there is a complexity, and which
* `logicalLines_eq` — the lines of a tree of distinct nodes
* `sum_paths_le` — trees side by side open no more paths than the tree they are in
-/

namespace CodeMetrics.Node

/-! ## Paths -/

/-- Whether a node opens another path; one of which that cannot be said does not. -/
def opensPath (n : Node) : Bool := n.isBranchPoint.toOption == some true

/-- The number of nodes of a tree that open another path. -/
def paths (n : Node) : Nat := n.preorder.countP opensPath

theorem count_eq_countP_opensPath {nodes : List Node} {branches : List Bool}
    (h : List.Forall₂ (fun m b => m.isBranchPoint = .ok b) nodes branches) :
    branches.count true = nodes.countP opensPath := by
  induction h with
  | nil => rfl
  | @cons m b _ _ hb _ ih =>
    have hopens : m.opensPath = b := by
      rw [opensPath, hb]
      cases b <;> rfl
    rw [List.count_cons, List.countP_cons, ih, hopens]
    cases b <;> rfl

/-- There is a complexity if every node can be asked whether it opens a path. -/
theorem complexity_eq_ok {n : Node} {k : Nat} :
    n.complexity = .ok k ↔ (∀ m ∈ n.preorder, ∃ b, m.isBranchPoint = .ok b) ∧ k = 1 + n.paths := by
  rw [complexity, walk_eq, Outcome.bind_eq_ok]
  constructor
  · rintro ⟨branches, hbranches, hk⟩
    have hall := Outcome.mapM_eq_ok.mp hbranches
    cases hk
    refine ⟨fun m hm => ?_, by rw [count_eq_countP_opensPath hall, paths]⟩
    obtain ⟨b, -, hb⟩ := Outcome.exists_of_forall₂_left hall hm
    exact ⟨b, hb⟩
  · rintro ⟨hall, rfl⟩
    obtain ⟨branches, hbranches⟩ := Outcome.exists_mapM_eq_ok hall
    refine ⟨branches, hbranches, ?_⟩
    rw [count_eq_countP_opensPath (Outcome.mapM_eq_ok.mp hbranches), paths]
    rfl

theorem paths_le_of_mem {n m : Node} (h : m ∈ n.preorder) : m.paths ≤ n.paths := (preorder_sublist h).countP_le

/-- Trees of which none is inside another open no more paths than the tree they are all in. -/
theorem sum_paths_le {n : Node} (h : n.IsDistinct) {parts : List Node} (hparts : ∀ m ∈ parts, m ∈ n.preorder)
    (hapart : parts.Pairwise fun a b => a ∉ b.preorder ∧ b ∉ a.preorder) : (parts.map paths).sum ≤ n.paths := by
  have hnodup : (parts.flatMap preorder).Nodup := by
    refine List.nodup_flatMap.mpr ⟨fun m hm => (h.below (hparts m hm)).nodup, ?_⟩
    refine hapart.imp_of_mem fun {a b} ha hb hab => ?_
    -- Two parts of a tree are nested or have no node in common.
    rcases h.nested_or_disjoint (hparts a ha) (hparts b hb) with hin | hin | hdisjoint
    · exact absurd hin hab.1
    · exact absurd hin hab.2
    · exact hdisjoint
  have hsubset : parts.flatMap preorder ⊆ n.preorder := by
    intro m hm
    obtain ⟨part, hpart, hmem⟩ := List.mem_flatMap.mp hm
    exact mem_preorder_trans (hparts part hpart) hmem
  calc (parts.map paths).sum = (parts.flatMap preorder).countP opensPath := by rw [List.countP_flatMap]; rfl
    _ ≤ n.paths := (List.subperm_of_subset hnodup hsubset).countP_le _

/-! ## Lines -/

/-- What has been seen are the nodes that have been visited. -/
theorem mem_seen_foldl_visit {nodes : List Node} {number : Nat} : ∀ {count : LineCount},
    number ∈ (nodes.foldl LineCount.visit count).seen ↔ number ∈ count.seen ∨ number ∈ nodes.map id := by
  induction nodes with
  | nil => simp
  | cons m rest ih =>
    intro count
    rw [List.foldl_cons, ih, LineCount.visit, List.map_cons, List.mem_cons]
    split
    -- a number that has been seen is not noted again, but it is there
    · next hseen =>
      constructor
      · exact fun h => h.imp_right .inr
      · rintro (h | rfl | h)
        · exact .inl h
        · exact .inl hseen
        · exact .inr h
    · rw [List.mem_cons, or_assoc, or_left_comm]

/-- Nodes with numbers of their own are counted unless they have been seen before. -/
theorem lines_foldl_visit {nodes : List Node} : ∀ {count : LineCount}, (nodes.map id).Nodup →
    (nodes.foldl LineCount.visit count).lines =
      count.lines + nodes.countP fun m => m.kind.isCountable && decide (m.id ∉ count.seen) := by
  induction nodes with
  | nil => intros; rfl
  | cons m rest ih =>
    intro count hids
    rw [List.map_cons, List.nodup_cons] at hids
    rw [List.foldl_cons, ih hids.2, List.countP_cons]
    by_cases hseen : m.id ∈ count.seen
    · have hvisit : count.visit m = count := if_pos hseen
      simp [hvisit, hseen]
    · have hvisit : count.visit m =
          ⟨if m.kind.isCountable then count.lines + 1 else count.lines, m.id :: count.seen⟩ := if_neg hseen
      -- The number that is noted is none of those that come later.
      have hlater : (rest.countP fun k => k.kind.isCountable && decide (k.id ∉ m.id :: count.seen)) =
          rest.countP fun k => k.kind.isCountable && decide (k.id ∉ count.seen) := by
        refine List.countP_congr fun k hk => ?_
        have hne : k.id ≠ m.id := fun hsame => hids.1 (hsame ▸ List.mem_map_of_mem hk)
        simp [hne]
      rw [hvisit, hlater]
      cases m.kind.isCountable with
      | false => rfl
      | true =>
        simp only [hseen, not_false_eq_true, decide_true, Bool.and_self, if_true]
        omega

theorem logicalLines_eq {n : Node} (h : n.IsDistinct) :
    n.logicalLines = n.preorder.countP fun m => m.kind.isCountable := by
  rw [logicalLines, countLines, walk_eq, lines_foldl_visit h.ids, Nat.zero_add]
  simp

theorem logicalLines_le_of_mem {n m : Node} (h : n.IsDistinct) (hm : m ∈ n.preorder) :
    m.logicalLines ≤ n.logicalLines := by
  rw [logicalLines_eq h, logicalLines_eq (h.below hm)]
  exact (preorder_sublist hm).countP_le

end CodeMetrics.Node
