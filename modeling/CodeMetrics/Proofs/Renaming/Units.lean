import CodeMetrics.Proofs.Renaming.Tokens
import CodeMetrics.Proofs.Units.Discovery

/-!
# Units under other names

A unit is measured on its body, and nothing that is measured there depends on names. So the units of a renamed tree are
the units of the tree, in the same order and with the same lines and metrics; a unit that has its name from an identifier
has the new one, and a unit without keeps its placeholder.

* `complexity_renamed`, `logicalLines_renamed`, `bodyMetrics_renamed` — what is measured
* `unitName_renamed` — what a unit is called
* `units_renamed` — the list of units
-/

namespace CodeMetrics

namespace Node

variable {r : String → String}

/-! ## Paths and lines -/

theorem isBranchPoint_renamed (n : Node) : (n.renamed r).isBranchPoint = n.isBranchPoint := by
  unfold isBranchPoint
  rw [kind_renamed, child_renamed, Option.isSome_map, get?_attrs_renamed_of_ne n (by decide)]

@[simp] theorem complexity_renamed (n : Node) : (n.renamed r).complexity = n.complexity := by
  rw [complexity, complexity, walk_eq, walk_eq, preorder_renamed, List.mapM_map]
  simp only [Function.comp_def, isBranchPoint_renamed]

@[simp] theorem logicalLines_renamed (n : Node) : (n.renamed r).logicalLines = n.logicalLines := by
  have hvisit : ∀ (count : LineCount) (m : Node), count.visit (m.renamed r) = count.visit m := by
    intro count m
    rw [LineCount.visit, LineCount.visit, id_renamed, kind_renamed]
  rw [logicalLines, logicalLines, countLines, countLines, walk_eq, walk_eq, preorder_renamed, List.foldl_map]
  simp only [hvisit]

theorem classCount_renamed (n : Node) : (n.renamed r).classCount = n.classCount := by
  rw [classCount, classCount, walk_eq, walk_eq, preorder_renamed, List.countP_map]
  simp only [Function.comp_def, kind_renamed]

/-! ## Which nodes are units -/

theorem isUnit_renamed (n : Node) : (n.renamed r).isUnit = n.isUnit := by
  rw [isUnit, isUnit, span_renamed, kind_renamed]

theorem offspring_renamed (method : Bool) (n : Node) : offspring method (n.renamed r).fields
    = (offspring method n.fields).map fun child => (child.1, child.2.renamed r) := by
  have hslot : ∀ (taken : Bool) (slot : Slot Node), slotOffspring taken (slot.map (renamed r))
      = (slotOffspring taken slot).map fun child => (child.1, child.2.renamed r) := by
    intro taken slot
    cases slot with
    | absent => rfl
    | one c => rfl
    | many items =>
      show ((Slot.many items).map (renamed r)).nodes.map _ = ((Slot.many items).nodes.map _).map _
      rw [Slot.nodes_map, List.map_map, List.map_map]
      rfl
  rw [fields_renamed, offspring, offspring, List.flatMap_map, List.map_flatMap]
  exact List.flatMap_congr fun field _ => hslot _ _

theorem reported_renamed (n : Node) : ∀ taken, (n.renamed r).reported taken = (n.reported taken).map (renamed r) := by
  induction n using Node.induction with
  | step n ih =>
    intro taken
    have htakes : (n.renamed r).takes taken = n.takes taken := by
      rw [takes, takes, isUnit_renamed, isMethod, isMethod, kind_renamed]
    rw [reported_eq, reported_eq taken n, htakes, isUnit_renamed, offspring_renamed, List.map_append, List.flatMap_map,
      List.map_flatMap]
    refine congrArg₂ _ ?_ (List.flatMap_congr fun child hchild => ih child.2 (mem_children_of_mem_offspring hchild) child.1)
    split <;> rfl

theorem isDistinct_renamed {n : Node} (h : n.IsDistinct) : (n.renamed r).IsDistinct := by
  constructor
  · rw [preorder_renamed, List.map_map]
    simpa only [Function.comp_def, id_renamed] using h.ids
  · intro m hm
    rw [preorder_renamed] at hm
    obtain ⟨k, hk, rfl⟩ := List.mem_map.mp hm
    have hkeys : Fields.keys (k.renamed r).fields = Fields.keys k.fields := by
      rw [fields_renamed, Fields.keys, Fields.keys, List.map_map]
      rfl
    rw [hkeys]
    exact h.keys k hk

theorem unitFunction_renamed (n : Node) : (n.renamed r).unitFunction = n.unitFunction.map (renamed r) := by
  rw [unitFunction, unitFunction, kind_renamed]
  split
  · exact child_renamed n "value"
  · rfl

theorem unitBody_renamed (n : Node) : (n.renamed r).unitBody = n.unitBody.map (renamed r) := by
  rw [unitBody, unitBody, unitFunction_renamed]
  cases n.unitFunction with
  | none => rfl
  | some f => exact child_renamed f "body"

/-! ## What units are called -/

/-- The name that a unit has from an identifier: its own, or that of the variable or method it belongs to. -/
def givenName? (n : Node) (parents : Parents) : Option Value :=
  if n.kind = .functionDeclaration then identifierName? (n.child "id")
  else if n.kind = .methodDefinition then identifierName? (n.child "key")
  else (parents.find? n.id).bind fun p =>
    if p.kind = .variableDeclarator then identifierName? (p.child "id")
    else if p.kind = .methodDefinition then identifierName? (p.child "key") else none

/-- The name of a unit before and after, given the one it has from an identifier: without one it has a placeholder. -/
def RenamedName (r : String → String) : Option Value → Value → Value → Prop
  | some given, name, name' => ∃ s, given = .str s ∧ name = .str s ∧ name' = .str (r s)
  | none, name, name' => name' = name ∧ (name = anonymousName ∨ name = arrowName ∨ name = computedName)

theorem renamedName_placeholder (n : Node) :
    RenamedName r none n.placeholderName (n.renamed r).placeholderName := by
  unfold placeholderName
  rw [kind_renamed]
  split
  · exact ⟨rfl, .inr (.inl rfl)⟩
  · exact ⟨rfl, .inl rfl⟩

section Names

variable (hne : ∀ s, s ≠ "" → r s ≠ "") {root : Node} (h : root.Renamable r)

include hne h

/-- A name or, without one, a placeholder. -/
theorem renamedName_orElse {n : Node} (hn : n ∈ root.preorder) (key : String) {fallback : Value}
    (hfallback : fallback = anonymousName ∨ fallback = arrowName ∨ fallback = computedName) :
    RenamedName r (identifierName? (n.child key)) (Value.orElse (identifierName? (n.child key)) fallback)
      (Value.orElse (identifierName? ((n.renamed r).child key)) fallback) := by
  rw [child_renamed, identifierName?_renamed]
  rcases h.identifierName? hn key with hnone | ⟨s, hs, -, hsome⟩
  · rw [hnone]
    exact ⟨rfl, hfallback⟩
  · rw [hsome]
    exact ⟨s, rfl, by simp [Value.orElse, Value.truthy, hs], by simp [Value.orElse, Value.truthy, hne s hs]⟩

/-- A unit that has its name from an identifier has the new one, and any other keeps its placeholder. -/
theorem unitName_renamed (hids : (root.preorder.map Node.id).Nodup) {n : Node} (hn : n ∈ root.preorder) :
    RenamedName r (n.givenName? (Parents.of root)) (n.unitName (Parents.of root))
      ((n.renamed r).unitName (Parents.of (root.renamed r))) := by
  rw [givenName?, unitName_eq, unitName_eq, kind_renamed, id_renamed, Parents.find?_renamed]
  split_ifs
  · exact renamedName_orElse hne h hn "id" (.inl rfl)
  · exact renamedName_orElse hne h hn "key" (.inr (.inr rfl))
  · cases hparent : (Parents.of root).find? n.id with
    | none => exact renamedName_placeholder n
    | some p =>
      have hp := ((Parents.find?_eq_some hids).mp hparent).1
      simp only [Option.map_some, Option.elim_some, Option.bind_some, kind_renamed]
      split_ifs
      · rw [child_renamed, identifierName?_renamed]
        rcases h.identifierName? hp "id" with hnone | ⟨s, -, -, hsome⟩
        · rw [hnone]
          exact renamedName_placeholder n
        · rw [hsome]
          exact ⟨s, rfl, rfl, rfl⟩
      · exact renamedName_orElse hne h hp "key" (.inr (.inr rfl))
      · exact renamedName_placeholder n

end Names

end Node

/-! ## The list of units -/

open Node

section Units

variable {r : String → String} {σ : Type} [Scalar σ]

/-- The unit of a node before and after: only its name is another one. -/
structure RenamedUnit (r : String → String) (parents : Parents) (n : Node) (u u' : CodeUnit Nat σ Num) : Prop where
  measured : MeasuredAs parents n u
  kind : u'.kind = u.kind
  startLine : u'.startLine = u.startLine
  endLine : u'.endLine = u.endLine
  metrics : u'.metrics = u.metrics
  name : RenamedName r (n.givenName? parents) u.name u'.name

/-- Lists of units before and after, in the same order: each is the unit of a node, and these are the nodes that are
reported. -/
def RenamedUnits (r : String → String) (root : Node) (units units' : List (CodeUnit Nat σ Num)) : Prop :=
  ∃ entries : List (Node × CodeUnit Nat σ Num × CodeUnit Nat σ Num),
    (entries.map (·.1)).Perm (root.reported false) ∧ units = entries.map (·.2.1) ∧ units' = entries.map (·.2.2) ∧
    ∀ entry ∈ entries, RenamedUnit r (Parents.of root) entry.1 entry.2.1 entry.2.2

variable (hr : Function.Injective r) (hne : ∀ s, s ≠ "" → r s ≠ "") {root : Node} (h : root.Renamable r)

include hr hne h

theorem bodyMetrics_renamed {body : Option Node} (hbody : ∀ b, body = some b → b ∈ root.preorder) :
    (bodyMetrics (body.map (renamed r)) : Except Error (Metrics Nat σ)) = bodyMetrics body := by
  cases body with
  | none => rfl
  | some b =>
    simp only [Option.map_some, bodyMetrics, complexity_renamed, volume_renamed hne hr h (hbody b rfl), kind_renamed,
      logicalLines_renamed]

variable (hids : (root.preorder.map Node.id).Nodup)

include hids

/-- A unit is measured under either name, or fails for the same reason. -/
theorem measure_renamed {n : Node} (hn : n ∈ root.preorder) {c c' : Candidate}
    (hc : Candidate.ofNode? (Parents.of root) n = some c)
    (hc' : Candidate.ofNode? (Parents.of (root.renamed r)) (n.renamed r) = some c') :
    Outcome.Rel (RenamedUnit r (Parents.of root) n) (c.measure : Except Error (CodeUnit Nat σ Num)) c'.measure := by
  obtain ⟨span, hspan, rfl⟩ := Option.map_eq_some_iff.mp hc
  obtain ⟨span', hspan', rfl⟩ := Option.map_eq_some_iff.mp hc'
  rw [span_renamed, hspan] at hspan'
  cases hspan'
  have hbody : (bodyMetrics (n.renamed r).unitBody : Except Error (Metrics Nat σ)) = bodyMetrics n.unitBody := by
    rw [unitBody_renamed]
    exact bodyMetrics_renamed hr hne h fun b hb => mem_preorder_trans hn (mem_preorder_unitBody hb)
  have hkind : (n.renamed r).unitKind = n.unitKind := by rw [unitKind_eq, unitKind_eq, kind_renamed]
  show Outcome.Rel _ (bodyMetrics n.unitBody >>= _) (bodyMetrics (n.renamed r).unitBody >>= _)
  rw [hbody]
  cases hmetrics : (bodyMetrics n.unitBody : Except Error (Metrics Nat σ)) with
  | error e => exact .error e
  | ok metrics =>
    exact .ok ⟨⟨unitKind_eq n, ⟨span, hspan, rfl, rfl⟩, rfl, hmetrics⟩, hkind, rfl, rfl, rfl,
      unitName_renamed hne h hids hn⟩

/-- Several units, in the order of their nodes. -/
theorem mapM_measure_renamed {nodes : List Node} (hnodes : ∀ n ∈ nodes, n ∈ root.preorder ∧ n.span.isSome) :
    Outcome.Rel
      (fun units units' => ∃ entries : List (Node × CodeUnit Nat σ Num × CodeUnit Nat σ Num),
        entries.map (·.1) = nodes ∧ units = entries.map (·.2.1) ∧ units' = entries.map (·.2.2) ∧
        ∀ entry ∈ entries, RenamedUnit r (Parents.of root) entry.1 entry.2.1 entry.2.2)
      ((nodes.filterMap (Candidate.ofNode? (Parents.of root))).mapM Candidate.measure)
      (((nodes.map (renamed r)).filterMap (Candidate.ofNode? (Parents.of (root.renamed r)))).mapM Candidate.measure) := by
  induction nodes with
  | nil =>
    rw [List.map_nil, List.filterMap_nil, List.filterMap_nil, List.mapM_nil]
    exact .ok ⟨[], rfl, rfl, rfl, fun _ hentry => absurd hentry List.not_mem_nil⟩
  | cons n rest ih =>
    obtain ⟨hn, hlines⟩ := hnodes n List.mem_cons_self
    obtain ⟨span, hspan⟩ := Option.isSome_iff_exists.mp hlines
    obtain ⟨c, hc⟩ : ∃ c, Candidate.ofNode? (Parents.of root) n = some c := ⟨_, by rw [Candidate.ofNode?, hspan]; rfl⟩
    obtain ⟨c', hc'⟩ : ∃ c', Candidate.ofNode? (Parents.of (root.renamed r)) (n.renamed r) = some c' :=
      ⟨_, by rw [Candidate.ofNode?, span_renamed, hspan]; rfl⟩
    rw [List.map_cons, List.filterMap_cons_some hc, List.filterMap_cons_some hc', List.mapM_cons, List.mapM_cons]
    refine (measure_renamed hr hne h hids hn hc hc').bind fun u u' hu => ?_
    refine (ih fun m hm => hnodes m (List.mem_cons_of_mem _ hm)).bind ?_
    rintro _ _ ⟨entries, rfl, rfl, rfl, hentries⟩
    exact .ok ⟨(n, u, u') :: entries, rfl, rfl, rfl, List.forall_mem_cons.mpr ⟨hu, hentries⟩⟩

end Units

/-- Sorting by first line moves a unit and the same unit under another name alike. -/
theorem sortUnits_renamed {r : String → String} {σ : Type} [Scalar σ] {parents : Parents}
    {entries : List (Node × CodeUnit Nat σ Num × CodeUnit Nat σ Num)}
    (h : ∀ entry ∈ entries, RenamedUnit r parents entry.1 entry.2.1 entry.2.2)
    (hwhole : ∀ entry ∈ entries, entry.2.1.startLine.IsWhole) :
    ∃ sorted : List (Node × CodeUnit Nat σ Num × CodeUnit Nat σ Num), sorted.Perm entries ∧
      sortUnits (entries.map (·.2.1)) = sorted.map (·.2.1) ∧ sortUnits (entries.map (·.2.2)) = sorted.map (·.2.2) := by
  refine ⟨_, List.mergeSort_perm entries fun a b => decide (a.2.1.startLine.whole ≤ b.2.1.startLine.whole),
    sortUnits_map hwhole fun _ _ => rfl, sortUnits_map ?_ ?_⟩
  · intro entry hentry
    rw [(h entry hentry).startLine]
    exact hwhole entry hentry
  · intro entry hentry
    rw [(h entry hentry).startLine]

/-- **The units of a renamed tree are the units of the tree**, in the same order and under the new names. -/
theorem units_renamed {r : String → String} {σ : Type} [Scalar σ] (hr : Function.Injective r)
    (hne : ∀ s, s ≠ "" → r s ≠ "") {root : Node} (h : root.Renamable r) (hdistinct : root.IsDistinct)
    (hwhole : ∀ n ∈ root.preorder, ∀ span, n.span = some span → span.start.IsWhole) (workers : Option Num) :
    Outcome.Rel (RenamedUnits r root) (root.units (Parents.of root) workers : Traced (List (CodeUnit Nat σ Num))).outcome
      ((root.renamed r).units (Parents.of (root.renamed r)) workers).outcome := by
  have hnodes : ∀ n ∈ root.reported false, n ∈ root.preorder ∧ n.span.isSome := by
    intro n hn
    obtain ⟨hmem, hunit, -⟩ := (mem_reported_iff hdistinct).mp hn
    exact ⟨hmem, (Bool.and_eq_true_iff.mp hunit).1⟩
  rw [outcome_units, outcome_units, candidates_eq hdistinct, candidates_eq (isDistinct_renamed hdistinct),
    reported_renamed]
  refine (mapM_measure_renamed hr hne h hdistinct.ids hnodes).bind ?_
  rintro _ _ ⟨entries, hreported, rfl, rfl, hentries⟩
  have hlines : ∀ entry ∈ entries, entry.2.1.startLine.IsWhole := by
    intro entry hentry
    obtain ⟨span, hspan, hstart, -⟩ := (hentries entry hentry).measured.lines
    have hmem : entry.1 ∈ root.reported false := hreported ▸ List.mem_map_of_mem hentry
    rw [hstart]
    exact hwhole entry.1 (hnodes _ hmem).1 span hspan
  obtain ⟨sorted, hperm, hsorted, hsorted'⟩ := sortUnits_renamed hentries hlines
  exact .ok ⟨sorted, hreported ▸ hperm.map _, hsorted, hsorted', fun entry hentry => hentries entry (hperm.subset hentry)⟩

end CodeMetrics
