import CodeMetrics.Proofs.Analysis.Documents
import CodeMetrics.Proofs.Parents
import CodeMetrics.Proofs.Units.Discovery

/-!
# Parts of a tree by themselves

A part of a tree is analyzed with the parents of the whole tree or by itself, with the parents in it. Parents give names
to units and nothing else, and below the topmost node of the part they are the same. So only the unit of that node may
have another name, and the metrics of the part are the same.

* `rel_units` — units under two sets of parents
* `rel_analyze` — analyses under two sets of parents
* `parents_of_loaded_tree` — the parents of a tree and of its parts
-/

namespace CodeMetrics

open Node

section Parents

variable {σ : Type} [Scalar σ] {n : Node}

/-! ## Units that start on the same lines -/

omit [Scalar σ] in
theorem Analysis.rel_of (metrics : Metrics Nat σ) {units others : List (CodeUnit Nat σ Num)}
    (h : others.map CodeUnit.startLine = units.map CodeUnit.startLine) :
    Outcome.Rel (fun a b => b.metrics = a.metrics) (Analysis.of countValue Value.ofNum metrics units)
      (Analysis.of countValue Value.ofNum metrics others) := by
  have hlength : others.length = units.length := by simpa using congrArg List.length h
  have hlines : (others.map fun u => Value.ofNum u.startLine) = units.map fun u => Value.ofNum u.startLine := by
    have hvalues := congrArg (List.map Value.ofNum) h
    rwa [List.map_map, List.map_map] at hvalues
  unfold Analysis.of
  rw [hlength, hlines]
  split
  · exact .error _
  · split
    · exact .ok rfl
    · exact .error _
    · exact .error _

/-! ## Units under other parents -/

/-- Lists of units of the same nodes in the same order, with names from one set of parents and from another one. -/
def NamedBy (n : Node) (parents others : Parents) (units renamed : List (CodeUnit Nat σ Num)) : Prop :=
  ∃ (nodes : List Node) (unit : Node → CodeUnit Nat σ Num), nodes.Perm (n.reported false) ∧
    (∀ m ∈ nodes, MeasuredAs parents m (unit m)) ∧ units = nodes.map unit ∧
    renamed = nodes.map fun m => { unit m with name := m.unitName others }

theorem NamedBy.map_startLine {p q : Parents} {units renamed : List (CodeUnit Nat σ Num)}
    (h : NamedBy n p q units renamed) : renamed.map CodeUnit.startLine = units.map CodeUnit.startLine := by
  obtain ⟨nodes, unit, -, -, rfl, rfl⟩ := h
  rw [List.map_map, List.map_map]
  rfl

/-- Units fail under all parents, and for the same reason, or under none. -/
theorem rel_outcome_units (h : n.IsDistinct) (p q : Parents) (workers workers' : Option Num) :
    Outcome.Rel (fun _ _ => True) (n.units p workers : Traced (List (CodeUnit Nat σ Num))).outcome
      (n.units q workers' : Traced (List (CodeUnit Nat σ Num))).outcome := by
  -- Either way the same bodies are measured in the same order, and names play no part in it.
  have hfunctions : List.Forall₂ (fun c d : Candidate => c.function = d.function)
      ((n.reported false).filterMap (Candidate.ofNode? p)) ((n.reported false).filterMap (Candidate.ofNode? q)) := by
    generalize n.reported false = nodes
    induction nodes with
    | nil => exact .nil
    | cons m rest ih =>
      rw [List.filterMap_cons, List.filterMap_cons, Candidate.ofNode?, Candidate.ofNode?]
      cases m.span with
      | none => exact ih
      | some span => exact .cons rfl ih
  have hmeasure : ∀ c d : Candidate, c.function = d.function →
      Outcome.Rel (fun _ _ => True) (c.measure : Except Error (CodeUnit Nat σ Num))
        (d.measure : Except Error (CodeUnit Nat σ Num)) := by
    intro c d hcd
    rw [Candidate.measure, Candidate.measure, hcd]
    exact (Outcome.Rel.refl _).bind fun _ _ _ => .ok trivial
  rw [outcome_units, outcome_units, candidates_eq h, candidates_eq h]
  exact (Outcome.Rel.mapM hfunctions hmeasure).bind fun _ _ _ => .ok trivial

section WholeLines

variable (h : n.IsDistinct) (hwhole : ∀ m ∈ n.preorder, ∀ span, m.span = some span → span.start.IsWhole)

include h hwhole

/-- **Parents give names to units and nothing else.** -/
theorem rel_units (p q : Parents) (workers workers' : Option Num) :
    Outcome.Rel (NamedBy n p q) (n.units p workers : Traced (List (CodeUnit Nat σ Num))).outcome
      (n.units q workers').outcome := by
  refine (rel_outcome_units h p q workers workers').and_eq.imp fun units others hends => ?_
  obtain ⟨-, hp, hq⟩ := hends
  obtain ⟨measured, hmeasured, -⟩ := (units_eq_ok h).mp hp
  have : Nonempty (CodeUnit Nat σ Num) := ⟨⟨.null, .function, .int 0, .int 0, Metrics.none⟩⟩
  have hexists : ∀ m ∈ n.reported false, ∃ u : CodeUnit Nat σ Num, MeasuredAs p m u := fun m hm =>
    (Outcome.exists_of_forall₂_left hmeasured hm).imp fun _ hu => hu.2
  choose! unit hunit using hexists
  have hlines : ∀ m ∈ n.reported false, (unit m).startLine.IsWhole := by
    intro m hm
    obtain ⟨span, hspan, hstart, -⟩ := (hunit m hm).lines
    rw [hstart]
    exact hwhole m ((sublist_reported n false).subset hm) span hspan
  -- Under either parents the units are those of the nodes, sorted by lines that do not depend on names.
  have hforall : List.Forall₂ (MeasuredAs p) (n.reported false) ((n.reported false).map unit) := by
    rwa [List.forall₂_map_right_iff, List.forall₂_same]
  have hforall' : List.Forall₂ (MeasuredAs q) (n.reported false)
      ((n.reported false).map fun m => { unit m with name := m.unitName q }) := by
    rw [List.forall₂_map_right_iff, List.forall₂_same]
    exact fun m hm => (hunit m hm).named q
  let nodes := (n.reported false).mergeSort fun a b =>
    decide ((unit a).startLine.whole ≤ (unit b).startLine.whole)
  have hnodes : nodes.Perm (n.reported false) := List.mergeSort_perm _ _
  have hunits := hp.symm.trans ((units_eq_ok h).mpr ⟨_, hforall, sortUnits_map hlines fun _ _ => rfl⟩)
  have hothers := hq.symm.trans ((units_eq_ok h).mpr ⟨_, hforall', sortUnits_map hlines fun _ _ => rfl⟩)
  exact ⟨nodes, unit, hnodes, fun m hm => hunit m (hnodes.subset hm), Except.ok.inj hunits, Except.ok.inj hothers⟩

/-! ## Analyses under other parents -/

/-- The metrics of a tree do not depend on parents. -/
theorem rel_analyze (settings : Settings) (p q : Parents) :
    Outcome.Rel (fun a b => b.metrics = a.metrics) (n.analyze settings p : Traced (Analysis Nat σ Num)).outcome
      (n.analyze settings q).outcome := by
  rw [outcome_analyze, outcome_analyze]
  refine (rel_units h hwhole p q _ _).bind fun units others hnamed => ?_
  have hlines := hnamed.map_startLine
  have hlength : others.length = units.length := by simpa using congrArg List.length hlines
  refine (Outcome.Rel.refl n.complexity).bind ?_
  rintro complexity _ rfl
  refine (Outcome.Rel.refl n.volume).bind ?_
  rintro volume _ rfl
  refine (Outcome.Rel.refl (n.inheritance settings.cyclePolicy).outcome).bind ?_
  rintro ⟨classes, depth⟩ _ rfl
  simp only [hlength]
  exact Analysis.rel_of _ hlines

theorem outcome_ownMetrics (settings : Settings) (parents : Parents) :
    (n.ownMetrics settings : Traced (Metrics Nat σ)).outcome
      = (n.analyze settings parents).outcome.map Analysis.metrics := by
  rw [ownMetrics, Traced.outcome_bind]
  rcases (@rel_analyze σ _ _ h hwhole settings parents (Parents.of n)).error_or_ok with
    ⟨e, hp, hq⟩ | ⟨a, b, hp, hq, hmetrics⟩
  · rw [hp, hq]
    rfl
  · rw [hp, hq]
    exact congrArg Except.ok hmetrics

end WholeLines

end Parents

/-! ## Parts of a tree -/

/-- A unit is called the same by the parents in a part of the tree, unless it is that of the topmost node. -/
theorem Node.unitName_of_mem_preorder {root s m : Node} (h : root.IsDistinct) (hs : s ∈ root.preorder)
    (hm : m ∈ s.preorder) (hne : m ≠ s) : m.unitName (Parents.of s) = m.unitName (Parents.of root) := by
  rw [unitName_eq, unitName_eq, Parents.find?_of_mem_preorder h hs hm hne]

/-- Lists of the units of a part of a tree, in the same order, with the parents of the tree and with those in the part.
They are the same but for the name of the unit of the part's topmost node, if that is one. -/
def SameUnitsBut {σ : Type} [Scalar σ] (root s : Node) (units own : List (CodeUnit Nat σ Num)) : Prop :=
  ∃ (nodes : List Node) (unit : Node → CodeUnit Nat σ Num), nodes.Perm (s.reported false) ∧
    (∀ m ∈ nodes, MeasuredAs (Parents.of root) m (unit m)) ∧ units = nodes.map unit ∧
    own = nodes.map fun m => if m.id = s.id then { unit m with name := s.unitName (Parents.of s) } else unit m

theorem NamedBy.sameUnitsBut {σ : Type} [Scalar σ] {root s : Node} (h : root.IsDistinct) (hs : s ∈ root.preorder)
    {units own : List (CodeUnit Nat σ Num)} (hnamed : NamedBy s (Parents.of root) (Parents.of s) units own) :
    SameUnitsBut root s units own := by
  obtain ⟨nodes, unit, hperm, hunit, rfl, rfl⟩ := hnamed
  refine ⟨nodes, unit, hperm, hunit, rfl, List.map_congr_left fun m hm => ?_⟩
  have hmem : m ∈ s.preorder := (sublist_reported s false).subset (hperm.subset hm)
  split
  · next hid => rw [(h.below hs).eq_of_id hmem (mem_preorder_self s) hid]
  · next hid => rw [unitName_of_mem_preorder h hs hmem fun hms => hid (congrArg Node.id hms), ← (hunit m hm).name]

/-- **The parents of a loaded tree, and of each part of it.** Nodes have numbers of their own; every node but the root has
the one node that it is a child of as its parent, and the root has none. The parents in a part of the tree are those in
the whole tree for all nodes below the topmost one. So the units of a part by itself are those that it has in the tree,
but for the name of the topmost one, or both fail for the same reason; and the metrics do not depend on the parents. -/
theorem parents_of_loaded_tree {σ : Type} [Scalar σ] {document : Value} {root : Node}
    (hkeys : document.hasDistinctKeys) (hload : (load document).outcome = .ok root) :
    (root.preorder.map Node.id).Nodup ∧
    ((∀ m ∈ root.preorder, m ≠ root → ∃ p ∈ root.preorder, (Parents.of root).find? m.id = some p ∧ m ∈ p.children ∧
        ∀ q ∈ root.preorder, m ∈ q.children → q = p) ∧
      (Parents.of root).find? root.id = none ∧ (Parents.of root).size + 1 = root.preorder.length) ∧
    (∀ s ∈ root.preorder,
      (∀ m ∈ s.preorder, m ≠ s → (Parents.of s).find? m.id = (Parents.of root).find? m.id) ∧
      (∀ workers, Outcome.Rel (SameUnitsBut root s)
        (s.units (Parents.of root) workers : Traced (List (CodeUnit Nat σ Num))).outcome (s.ownUnits workers).outcome) ∧
      ∀ settings parents, (s.ownMetrics settings : Traced (Metrics Nat σ)).outcome
        = (s.analyze settings parents).outcome.map Analysis.metrics) ∧
    ∀ settings, (root.ownMetrics settings : Traced (Metrics Nat σ)).outcome
      = (analyzeDocument document settings).outcome.map Analysis.metrics := by
  have hdistinct := isDistinct_of_load hkeys hload
  have hwhole : ∀ m ∈ root.preorder, ∀ span, m.span = some span → span.start.IsWhole := fun m hm span hspan =>
    (isWhole_of_load hkeys hload hm hspan).1
  refine ⟨hdistinct.ids, ⟨fun m => Parents.exists_parent hdistinct, Parents.find?_root hdistinct,
    Parents.size_of hdistinct.ids⟩, fun s hs => ?_, fun settings => ?_⟩
  · have hbelow := hdistinct.below hs
    have hlines : ∀ m ∈ s.preorder, ∀ span, m.span = some span → span.start.IsWhole := fun m hm =>
      hwhole m (mem_preorder_trans hs hm)
    refine ⟨fun m => Parents.find?_of_mem_preorder hdistinct hs, fun workers => ?_, outcome_ownMetrics hbelow hlines⟩
    exact (rel_units hbelow hlines _ _ workers workers).imp fun units own hnamed => hnamed.sameUnitsBut hdistinct hs
  · rw [analyzeDocument_eq hload]
    exact outcome_ownMetrics hdistinct hwhole settings _

/-- The function that holds the body of a method: its parent is the method, which is not in the part below it. -/
theorem parents_of_classTree :
    (Parents.of classTree).size = 10 ∧
    ∃ s ∈ classTree.preorder, s.kind = .functionExpression ∧
      (∃ p ∈ classTree.preorder, (Parents.of classTree).find? s.id = some p ∧ s ∈ p.children) ∧
      Outcome.Rel (SameUnitsBut classTree s)
        (s.units (Parents.of classTree) none : Traced (List (CodeUnit Nat Float Num))).outcome
        (s.ownUnits none).outcome := by
  obtain ⟨-, ⟨hparent, -, hsize⟩, hparts, -⟩ := @parents_of_loaded_tree Float _ _ _ (by decide) load_classDocument
  obtain ⟨s, hs, hkind⟩ : ∃ s ∈ classTree.preorder, s.kind = .functionExpression := by decide
  have hne : s ≠ classTree := fun hroot => absurd (hroot ▸ hkind) (by decide)
  obtain ⟨p, hp, hfind, hchild, -⟩ := hparent s hs hne
  exact ⟨Nat.succ.inj hsize, s, hs, hkind, ⟨p, hp, hfind, hchild⟩, (hparts s hs).2.1 none⟩

end CodeMetrics
