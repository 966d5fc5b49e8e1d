import CodeMetrics.Metrics.Structure
import CodeMetrics.Proofs.Analysis.Documents
import CodeMetrics.Proofs.Calculators.Counts
import CodeMetrics.Proofs.Calculators.Tokens
import Mathlib.Algebra.BigOperators.Group.List.Basic

/-!
# Calculators as recursions

Every calculator goes over the nodes of a tree in a single loop and carries something along: a sum, the numbers of the
nodes it has seen, sets of tokens. What it ends with is what recursion over the tree gives: the part of the root by
itself, together with the results for the children.

* `countP_preorder` — counts
* `complexity_children`, `logicalLines_children`, `classCount_children` — paths, lines and classes
* `notMem_seen` — a node is not seen before its turn
* `Halstead.IsSumOf`, `halstead_children` — tokens
-/

namespace CodeMetrics

namespace Node

/-! ## Counts -/

/-- What is counted in a tree is counted at its root and in the trees below its children. -/
theorem countP_preorder (p : Node → Bool) (n : Node) :
    n.preorder.countP p = (if p n then 1 else 0) + (n.children.map fun c => c.preorder.countP p).sum := by
  rw [preorder_eq, List.countP_cons, List.countP_flatMap, Nat.add_comm]
  rfl

/-- What holds of all nodes of a tree holds of its root and of all nodes below its children. -/
theorem forall_mem_preorder {p : Node → Prop} {n : Node} :
    (∀ m ∈ n.preorder, p m) ↔ p n ∧ ∀ c ∈ n.children, ∀ m ∈ c.preorder, p m := by
  rw [preorder_eq, List.forall_mem_cons]
  simp only [List.mem_flatMap, forall_exists_index, and_imp]
  exact and_congr_right fun _ => ⟨fun h c hc m hm => h m c hc hm, fun h m c hc hm => h c hc m hm⟩

theorem classCount_children (n : Node) :
    n.classCount = (if n.kind = .classDeclaration then 1 else 0) + (n.children.map classCount).sum := by
  rw [classCount, walk_eq, countP_preorder, if_congr decide_eq_true_iff rfl rfl]
  refine congrArg (_ + List.sum ·) (List.map_congr_left fun c _ => ?_)
  rw [classCount, walk_eq]

/-- A tree has a complexity if it can be said of its root whether it opens a path, and its children have one. -/
theorem exists_complexity_iff {n : Node} : (∃ k, n.complexity = .ok k) ↔
    (∃ opens, n.isBranchPoint = .ok opens) ∧ ∀ c ∈ n.children, ∃ k, c.complexity = .ok k := by
  simp only [complexity_eq_ok, exists_and_left, exists_eq, and_true]
  exact forall_mem_preorder

theorem complexity_children {n : Node} {k : Nat} (h : n.complexity = .ok k) :
    ∃ (opens : Bool) (ks : List ℕ), n.isBranchPoint = .ok opens ∧
      List.Forall₂ (fun c part => c.complexity = .ok part) n.children ks ∧
      (k : ℤ) - 1 = (if opens then 1 else 0) + (ks.map fun part : ℕ => (part : ℤ) - 1).sum := by
  obtain ⟨⟨opens, hopens⟩, hchildren⟩ := exists_complexity_iff.mp ⟨k, h⟩
  refine ⟨opens, n.children.map fun c => 1 + c.paths, hopens, ?_, ?_⟩
  · rw [List.forall₂_map_right_iff, List.forall₂_same]
    intro c hc
    obtain ⟨k, hk⟩ := hchildren c hc
    exact hk.trans (congrArg Except.ok (complexity_eq_ok.mp hk).2)
  · have hroot : n.opensPath = opens := by
      rw [opensPath, hopens]
      cases opens <;> rfl
    have hsum : (((n.children.map fun c => 1 + c.paths).map fun part : ℕ => (part : ℤ) - 1)).sum =
        ((n.children.map paths).sum : ℕ) := by
      rw [List.map_map, Nat.cast_list_sum, List.map_map]
      exact congrArg List.sum (List.map_congr_left fun c _ => by simp)
    have hpaths : n.paths = (if opens then 1 else 0) + (n.children.map paths).sum := by
      rw [paths, countP_preorder, hroot]
      rfl
    rw [(complexity_eq_ok.mp h).2, hpaths, hsum]
    push_cast
    omega

/-! ## Lines -/

theorem logicalLines_children {n : Node} (h : n.IsDistinct) :
    n.logicalLines = (if n.kind.isCountable then 1 else 0) + (n.children.map logicalLines).sum := by
  rw [logicalLines_eq h, countP_preorder]
  refine congrArg (_ + List.sum ·) (List.map_congr_left fun c hc => ?_)
  exact (logicalLines_eq (h.child hc)).symm

/-- In a tree of distinct nodes no node has been seen when its turn comes. -/
theorem notMem_seen {n m : Node} (h : n.IsDistinct) {before after : List Node} (hwalk : n.walk = before ++ m :: after) :
    m.id ∉ (before.foldl LineCount.visit ⟨0, []⟩).seen := by
  have hids := h.ids
  rw [← walk_eq, hwalk, List.map_append, List.map_cons, List.nodup_append] at hids
  rw [mem_seen_foldl_visit]
  rintro (hseen | hbefore)
  · exact List.not_mem_nil hseen
  · exact hids.2.2 m.id hbefore m.id List.mem_cons_self rfl

end Node

/-! ## Tokens -/

namespace Halstead

/-- Counts that are those of a root together with those of several parts: numbers of occurrences are added up, and
distinct tokens are united. -/
structure IsSumOf (h root : Halstead) (parts : List Halstead) : Prop where
  operatorCount : h.operatorCount = root.operatorCount + (parts.map Halstead.operatorCount).sum
  operandCount : h.operandCount = root.operandCount + (parts.map Halstead.operandCount).sum
  operators (key : Value.Key) : some key ∈ h.operators.map Value.key? ↔
    some key ∈ root.operators.map Value.key? ∨ ∃ part ∈ parts, some key ∈ part.operators.map Value.key?
  operands (key : Value.Key) : some key ∈ h.operands.map Value.key? ↔
    some key ∈ root.operands.map Value.key? ∨ ∃ part ∈ parts, some key ∈ part.operands.map Value.key?

section Parts

variable {keptOf : Halstead → List Value} {countOf : Halstead → Nat} {keysOf : List Token → List Value.Key}
  {parts : List Halstead} {tokens : List (List Token)}

theorem sum_count_eq (h : List.Forall₂ (fun part ts => Collects (keptOf part) (countOf part) (keysOf ts)) parts tokens) :
    (parts.map countOf).sum = (tokens.map keysOf).flatten.length := by
  induction h with
  | nil => rfl
  | cons hpart _ ih =>
    rw [List.map_cons, List.sum_cons, List.map_cons, List.flatten_cons, List.length_append, ih, hpart.count_eq]

theorem mem_kept_iff (h : List.Forall₂ (fun part ts => Collects (keptOf part) (countOf part) (keysOf ts)) parts tokens)
    (key : Option Value.Key) :
    (∃ part ∈ parts, key ∈ (keptOf part).map Value.key?) ↔ key ∈ (tokens.map keysOf).flatten.map some := by
  induction h with
  | nil => simp
  | cons hpart _ ih =>
    rw [List.map_cons, List.flatten_cons, List.map_append, List.mem_append, ← ih, ← hpart.mem_iff]
    simp only [List.mem_cons, exists_eq_or_imp]

/-- What is kept for a root and for parts, taken together. -/
theorem Collects.isSum {kept rootKept : List Value} {count rootCount : Nat} {keys : List Value.Key}
    (h : Collects kept count (keys ++ (tokens.map keysOf).flatten)) (hroot : Collects rootKept rootCount keys)
    (hparts : List.Forall₂ (fun part ts => Collects (keptOf part) (countOf part) (keysOf ts)) parts tokens) :
    count = rootCount + (parts.map countOf).sum ∧ ∀ key : Value.Key, some key ∈ kept.map Value.key? ↔
      some key ∈ rootKept.map Value.key? ∨ ∃ part ∈ parts, some key ∈ (keptOf part).map Value.key? := by
  refine ⟨?_, fun key => ?_⟩
  · rw [h.count_eq, List.length_append, ← hroot.count_eq, sum_count_eq hparts]
  · rw [h.mem_iff, hroot.mem_iff, mem_kept_iff hparts, List.map_append, List.mem_append]

end Parts

/-- Counts of tokens that are put together are those of a root and of parts. -/
theorem Counts.isSumOf {h root : Halstead} {parts : List Halstead} {rootTokens : List Token} {tokens : List (List Token)}
    (hcounts : h.Counts (rootTokens ++ tokens.flatten)) (hroot : root.Counts rootTokens)
    (hparts : List.Forall₂ Counts parts tokens) : h.IsSumOf root parts := by
  have hoperators := hcounts.operators
  have hoperands := hcounts.operands
  rw [List.filterMap_append, List.filterMap_flatten] at hoperators hoperands
  obtain ⟨hoperatorCount, hoperatorKeys⟩ := hoperators.isSum hroot.operators (hparts.imp fun _ _ hpart => hpart.operators)
  obtain ⟨hoperandCount, hoperandKeys⟩ := hoperands.isSum hroot.operands (hparts.imp fun _ _ hpart => hpart.operands)
  exact ⟨hoperatorCount, hoperandCount, hoperatorKeys, hoperandKeys⟩

end Halstead

namespace Node

theorem tokens_eq (n : Node) : n.tokens = tokensOf [n] ++ (n.children.map tokens).flatten := by
  rw [tokens, preorder_eq, ← List.singleton_append, tokensOf, List.filterMap_append, List.filterMap_flatMap,
    List.flatMap_def]
  rfl

/-- A node that can be recorded by itself can be recorded whatever came before. -/
theorem exists_record_iff (counts : Halstead) (n : Node) :
    (∃ h, record counts n = .ok h) ↔ ∃ h, record Halstead.empty n = .ok h := by
  unfold record
  rw [Outcome.exists_bind_eq_ok, Outcome.exists_bind_eq_ok]
  refine exists_congr fun token => and_congr_right fun _ => ?_
  cases token with
  | none => exact ⟨fun _ => ⟨_, rfl⟩, fun _ => ⟨_, rfl⟩⟩
  | some t => exact Halstead.exists_add_iff.trans Halstead.exists_add_iff.symm

/-- A tree can be counted if its root and its children can. -/
theorem exists_halstead_iff_children {n : Node} : (∃ h, n.halstead = .ok h) ↔
    (∃ root, record Halstead.empty n = .ok root) ∧ ∀ c ∈ n.children, ∃ h, c.halstead = .ok h := by
  -- Nodes can be recorded one by one, whatever the counts before.
  have hall : ∀ m : Node, (∃ h, m.halstead = .ok h) ↔ ∀ k ∈ m.preorder, ∃ h, record Halstead.empty k = .ok h := by
    intro m
    rw [halstead, walk_eq]
    exact Outcome.exists_foldlM_iff (fun k _ counts => exists_record_iff counts k) Halstead.empty
  simp only [hall]
  exact forall_mem_preorder

/-- The counts of a tree are those of its root and of its children together. -/
theorem halstead_children {n : Node} {h : Halstead} (hn : n.halstead = .ok h) :
    ∃ root hs, record Halstead.empty n = .ok root ∧
      List.Forall₂ (fun c hc => c.halstead = .ok hc) n.children hs ∧ h.IsSumOf root hs := by
  obtain ⟨⟨root, hroot⟩, hchildren⟩ := exists_halstead_iff_children.mp ⟨h, hn⟩
  obtain ⟨hs, hhs⟩ := Outcome.exists_mapM_eq_ok hchildren
  have hparts := Outcome.mapM_eq_ok.mp hhs
  refine ⟨root, hs, hroot, hparts, ?_⟩
  have hfold : [n].foldlM record Halstead.empty = .ok root := by
    rw [List.foldlM_cons, hroot]
    rfl
  have hrootCounts : root.Counts (tokensOf [n]) := counts_of_foldlM Halstead.counts_empty hfold
  have hcounts := counts_of_halstead hn
  rw [tokens_eq] at hcounts
  refine hcounts.isSumOf hrootCounts ?_
  rw [List.forall₂_map_right_iff]
  exact hparts.flip.imp fun _ _ hpart => counts_of_halstead hpart

/-- **The calculators are recursions over the tree.** At every node of a tree that is loaded, the complexity over one, the
logical lines, the classes and the Halstead counts are those of the node by itself and of its children together; and in
the count of lines no node has been seen before its turn. -/
theorem calculators_are_recursions {document : Value} {root n : Node} (hkeys : document.hasDistinctKeys)
    (hload : (load document).outcome = .ok root) (hn : n ∈ root.preorder) :
    (∀ k, n.complexity = .ok k → ∃ (opens : Bool) (ks : List ℕ), n.isBranchPoint = .ok opens ∧
      List.Forall₂ (fun c part => c.complexity = .ok part) n.children ks ∧
      (k : ℤ) - 1 = (if opens then 1 else 0) + (ks.map fun part : ℕ => (part : ℤ) - 1).sum) ∧
    n.logicalLines = (if n.kind.isCountable then 1 else 0) + (n.children.map logicalLines).sum ∧
    (∀ before m after, n.walk = before ++ m :: after → m.id ∉ (before.foldl LineCount.visit ⟨0, []⟩).seen) ∧
    n.classCount = (if n.kind = .classDeclaration then 1 else 0) + (n.children.map classCount).sum ∧
    ∀ h, n.halstead = .ok h → ∃ own hs, record Halstead.empty n = .ok own ∧
      List.Forall₂ (fun c part => c.halstead = .ok part) n.children hs ∧ h.IsSumOf own hs := by
  have hdistinct := (isDistinct_of_load hkeys hload).below hn
  exact ⟨fun _ => complexity_children, logicalLines_children hdistinct, fun _ _ _ => notMem_seen hdistinct,
    classCount_children n, fun _ => halstead_children⟩

theorem calculators_of_classTree :
    (∃ (k : ℕ) (opens : Bool) (ks : List ℕ), classTree.complexity = .ok k ∧ classTree.isBranchPoint = .ok opens ∧
      (k : ℤ) - 1 = (if opens then 1 else 0) + (ks.map fun part : ℕ => (part : ℤ) - 1).sum) ∧
    classTree.logicalLines = (classTree.children.map logicalLines).sum ∧
    ∃ h own hs, classTree.halstead = .ok h ∧ record Halstead.empty classTree = .ok own ∧ h.IsSumOf own hs := by
  obtain ⟨hcomplexity, hlines, -, -, hhalstead⟩ :=
    calculators_are_recursions (by decide) load_classDocument (mem_preorder_self classTree)
  obtain ⟨k, hk⟩ := exists_complexity fun m hm => hasTextAttrs_of_hasTexts (hasTexts_classTree m hm)
  obtain ⟨h, hh⟩ := exists_volume_iff.mp (exists_volume hasTexts_classTree : ∃ v : Float, _)
  obtain ⟨opens, ks, hopens, -, hsum⟩ := hcomplexity k hk
  obtain ⟨own, hs, hown, -, hparts⟩ := hhalstead h hh
  exact ⟨⟨k, opens, ks, hk, hopens, hsum⟩, hlines.trans (Nat.zero_add _), h, own, hs, hh, hown, hparts⟩

end Node

end CodeMetrics
