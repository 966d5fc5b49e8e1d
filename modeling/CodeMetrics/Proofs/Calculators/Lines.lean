import CodeMetrics.Proofs.Analysis.Documents
import CodeMetrics.Proofs.Calculators.Counts
import Mathlib.Data.Set.Card

/-!
# Lines of overlapping trees

The numbers that one count of lines has seen may be given to the next, so that trees that share nodes are counted as one
set of nodes. A call adds the nodes that are new to it; by induction on the calls, all of them together add the nodes of
the union.

* `lines_countLines`, `mem_seen_countLines` — what one call adds
* `countInTurn` — calls one after the other
* `lines_of_calls_in_turn` — what they add up to
-/

namespace CodeMetrics.Node

/-! ## One call -/

/-- The nodes that the trees below `calls` have, of a kind that is a line and of a number that has not been seen. -/
def newLines (calls : List Node) (seen : List Nat) : Set Node :=
  {m | m.kind.isCountable ∧ m.id ∉ seen ∧ ∃ n ∈ calls, m ∈ n.preorder}

theorem finite_newLines (calls : List Node) (seen : List Nat) : (newLines calls seen).Finite := by
  refine (List.finite_toSet (calls.flatMap preorder)).subset ?_
  rintro m ⟨-, -, hm⟩
  exact List.mem_flatMap.mpr hm

theorem ncard_eq_countP {nodes : List Node} (h : nodes.Nodup) (p : Node → Bool) :
    {m | m ∈ nodes ∧ p m}.ncard = nodes.countP p := by
  classical
  have hset : {m | m ∈ nodes ∧ p m} = ((nodes.filter p).toFinset : Set Node) := by
    ext m
    simp
  rw [hset, Set.ncard_coe_finset, List.toFinset_card_of_nodup (h.filter p), List.countP_eq_length_filter]

theorem lines_countLines {n : Node} (h : n.IsDistinct) (seen : List Nat) :
    (n.countLines seen).lines = (newLines [n] seen).ncard := by
  have hset : newLines [n] seen = {m | m ∈ n.preorder ∧ (m.kind.isCountable && decide (m.id ∉ seen)) = true} := by
    ext m
    simp only [newLines, Set.mem_ofPred_eq, List.mem_singleton, exists_eq_left, Bool.and_eq_true, decide_eq_true_eq]
    tauto
  rw [hset, ncard_eq_countP h.nodup, countLines, walk_eq, lines_foldl_visit h.ids, Nat.zero_add]

theorem mem_seen_countLines {n : Node} {seen : List Nat} {number : Nat} :
    number ∈ (n.countLines seen).seen ↔ number ∈ seen ∨ ∃ m ∈ n.preorder, m.id = number := by
  rw [countLines, walk_eq, mem_seen_foldl_visit, List.mem_map]

/-- Nodes that have all been seen change nothing. -/
theorem foldl_visit_eq_self {nodes : List Node} {count : LineCount} (h : ∀ m ∈ nodes, m.id ∈ count.seen) :
    nodes.foldl LineCount.visit count = count := by
  induction nodes with
  | nil => rfl
  | cons m rest ih =>
    have hvisit : count.visit m = count := if_pos (h m List.mem_cons_self)
    rw [List.foldl_cons, hvisit, ih fun k hk => h k (List.mem_cons_of_mem _ hk)]

/-! ## Calls one after the other -/

/-- The lines of several trees in turn, each call given what has been seen before it; what is returned by the calls, and
what has been seen in the end. -/
def countInTurn : List Node → List Nat → List Nat × List Nat
  | [], seen => ([], seen)
  | n :: later, seen =>
    let count := n.countLines seen
    let rest := countInTurn later count.seen
    (count.lines :: rest.1, rest.2)

theorem mem_seen_countInTurn {calls : List Node} {number : Nat} : ∀ {seen : List Nat},
    number ∈ (countInTurn calls seen).2 ↔ number ∈ seen ∨ ∃ n ∈ calls, ∃ m ∈ n.preorder, m.id = number := by
  induction calls with
  | nil => simp [countInTurn]
  | cons n later ih =>
    intro seen
    rw [countInTurn, ih, mem_seen_countLines, or_assoc, List.exists_mem_cons_iff]

/-- What is new to a first call and what is then new to the later ones has no node in common. -/
theorem disjoint_newLines (n : Node) (later : List Node) (seen : List Nat) :
    Disjoint (newLines [n] seen) (newLines later (n.countLines seen).seen) := by
  rw [Set.disjoint_left]
  rintro m ⟨-, -, hm⟩ ⟨-, hnew, -⟩
  exact hnew (mem_seen_countLines.mpr (.inr ⟨m, by simpa using hm, rfl⟩))

/-- What is new to a first call or then to the later ones is what is new to all of them: a node that the first call has
seen is below its node, as no other node of the tree has the number. -/
theorem newLines_cons {root n : Node} (h : root.IsDistinct) {later : List Node}
    (hcalls : ∀ c ∈ n :: later, c ∈ root.preorder) (seen : List Nat) :
    newLines (n :: later) seen = newLines [n] seen ∪ newLines later (n.countLines seen).seen := by
  obtain ⟨hn, hlater⟩ := List.forall_mem_cons.mp hcalls
  ext m
  constructor
  · rintro ⟨hkind, hnew, c, hc, hm⟩
    by_cases hbelow : m ∈ n.preorder
    · exact .inl ⟨hkind, hnew, n, List.mem_singleton_self n, hbelow⟩
    rcases List.mem_cons.mp hc with rfl | hc
    · exact absurd hm hbelow
    refine .inr ⟨hkind, fun hseen => ?_, c, hc, hm⟩
    rcases mem_seen_countLines.mp hseen with hseen | ⟨k, hk, hid⟩
    · exact hnew hseen
    · have hsame : k = m := h.eq_of_id (mem_preorder_trans hn hk) (mem_preorder_trans (hlater c hc) hm) hid
      exact hbelow (hsame ▸ hk)
  · rintro (⟨hkind, hnew, c, hc, hm⟩ | ⟨hkind, hnew, c, hc, hm⟩)
    · exact ⟨hkind, hnew, c, List.mem_cons.mpr (.inl (List.mem_singleton.mp hc)), hm⟩
    · exact ⟨hkind, fun hseen => hnew (mem_seen_countLines.mpr (.inl hseen)), c, List.mem_cons_of_mem _ hc, hm⟩

theorem sum_countInTurn {root : Node} (h : root.IsDistinct) {calls : List Node} : ∀ {seen : List Nat},
    (∀ n ∈ calls, n ∈ root.preorder) → (countInTurn calls seen).1.sum = (newLines calls seen).ncard := by
  induction calls with
  | nil =>
    intros
    simp [countInTurn, newLines]
  | cons n later ih =>
    intro seen hcalls
    obtain ⟨hn, hlater⟩ := List.forall_mem_cons.mp hcalls
    calc (countInTurn (n :: later) seen).1.sum
      _ = (n.countLines seen).lines + (countInTurn later (n.countLines seen).seen).1.sum := by
        rw [countInTurn, List.sum_cons]
      _ = (newLines [n] seen).ncard + (newLines later (n.countLines seen).seen).ncard := by
        rw [lines_countLines (h.below hn), ih hlater]
      _ = (newLines (n :: later) seen).ncard := by
        rw [newLines_cons h hcalls]
        exact (Set.ncard_union_eq (disjoint_newLines n later seen) (finite_newLines _ _) (finite_newLines _ _)).symm

/-- **Calls that share what they have seen count the union of their trees.** Whichever nodes of a loaded tree are counted
in turn, repeated, nested or overlapping, and whatever has been seen before, the counts add up to the number of nodes
below any of them that are lines and were not seen before, and what has been seen in the end are these nodes and no
others besides those seen before. So other calls for the same nodes, in another order or with repetitions, come to the
same total, and a call that is repeated adds nothing. -/
theorem lines_of_calls_in_turn {document : Value} {root : Node} (hkeys : document.hasDistinctKeys)
    (hload : (load document).outcome = .ok root) {calls : List Node} (hcalls : ∀ n ∈ calls, n ∈ root.preorder)
    (seen : List Nat) :
    (countInTurn calls seen).1.sum =
      {m : Node | m.kind.isCountable ∧ m.id ∉ seen ∧ ∃ n ∈ calls, m ∈ n.preorder}.ncard ∧
    (∀ number, number ∈ (countInTurn calls seen).2 ↔
      number ∈ seen ∨ ∃ n ∈ calls, ∃ m ∈ n.preorder, m.id = number) ∧
    (∀ others : List Node, (∀ n, n ∈ others ↔ n ∈ calls) →
      (countInTurn others seen).1.sum = (countInTurn calls seen).1.sum) ∧
    ∀ n ∈ calls, n.countLines (countInTurn calls seen).2 = ⟨0, (countInTurn calls seen).2⟩ := by
  have hdistinct := isDistinct_of_load hkeys hload
  refine ⟨sum_countInTurn hdistinct hcalls, fun _ => mem_seen_countInTurn, fun others hothers => ?_, fun n hn => ?_⟩
  · have hsame : newLines others seen = newLines calls seen := by
      simp only [newLines, hothers]
    rw [sum_countInTurn hdistinct fun n hn => hcalls n ((hothers n).mp hn), hsame, sum_countInTurn hdistinct hcalls]
  · rw [countLines, walk_eq, foldl_visit_eq_self]
    exact fun m hm => mem_seen_countInTurn.mpr (.inr ⟨n, hn, m, hm, rfl⟩)

/-- The two declarations of a program, then the program, which has no other lines. -/
theorem lines_of_classTree_in_turn :
    (countInTurn (classTree.children ++ [classTree]) []).1 = [1, 1, 0] ∧
    {m : Node | m.kind.isCountable ∧ m.id ∉ ([] : List Nat) ∧
      ∃ n ∈ classTree.children ++ [classTree], m ∈ n.preorder}.ncard = 2 ∧
    (countInTurn (classTree :: classTree.children) []).1.sum = 2 := by
  have hcalls : ∀ n ∈ classTree.children ++ [classTree], n ∈ classTree.preorder := by
    intro n hn
    rcases List.mem_append.mp hn with hn | hn
    · exact mem_preorder_of_child hn (mem_preorder_self n)
    · exact List.mem_singleton.mp hn ▸ mem_preorder_self classTree
  have hcounts : (countInTurn (classTree.children ++ [classTree]) []).1 = [1, 1, 0] := by
    change (countInTurn [_, _, classTree] []).1 = _
    simp only [countInTurn, countLines, walk_eq]
    rfl
  obtain ⟨hsum, -, hothers, -⟩ := lines_of_calls_in_turn (by decide) load_classDocument hcalls []
  rw [hcounts] at hsum hothers
  exact ⟨hcounts, hsum.symm, hothers (classTree :: classTree.children) fun n => by simp [or_comm]⟩

end CodeMetrics.Node
