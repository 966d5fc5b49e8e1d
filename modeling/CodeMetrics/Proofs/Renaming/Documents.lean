import CodeMetrics.Proofs.Analysis.Documents
import CodeMetrics.Proofs.Renaming.Loading
import CodeMetrics.Proofs.Renaming.Units
import Mathlib.Logic.Equiv.Basic

/-!
# Analyses under other names

The types of a renamed tree are declared under the new names, with the same edges between them, so that chains and cycles
are the same although edges are gone over in another order. With the units and the counts this makes the two analyses
the same but for the names of units.

* `declarations_renamed` — the types of a renamed tree
* `analysis_of_renamed_document` — the analysis of a renamed document
-/

namespace CodeMetrics

open Node Inheritance

variable {r : String → String}

/-! ## Types -/

namespace Node

theorem textName?_renamed (o : Option Node) : textName? (o.map (renamed r)) = (textName? o).map r := by
  rw [textName?, textName?, identifierName?_renamed]
  cases identifierName? o with
  | none => rfl
  | some v => cases v <;> rfl

theorem heritageTexts_renamed (items : List (Option Node)) :
    heritageTexts (items.map (Option.map (renamed r))) = (heritageTexts items).map r := by
  rw [heritageTexts, heritageTexts, List.filterMap_map, List.map_filterMap]
  refine congrArg (fun f => items.filterMap f) (funext fun item => ?_)
  cases item with
  | none => rfl
  | some clause =>
    show textName? ((clause.renamed r).child "expression") = (textName? (clause.child "expression")).map r
    rw [child_renamed, textName?_renamed]

theorem parentTexts_renamed (n : Node) : (n.renamed r).parentTexts = n.parentTexts.map r := by
  unfold parentTexts
  rw [kind_renamed, child_renamed, childList_renamed, childList_renamed, textName?_renamed, heritageTexts_renamed,
    heritageTexts_renamed]
  split
  · rw [List.map_append, Option.toList_map]
  · rfl

theorem declaration?_renamed (hr : Function.Injective r) (n : Node) :
    (n.renamed r).declaration? = n.declaration?.map (TypeDecl.map r) := by
  unfold declaration?
  rw [kind_renamed, child_renamed, textName?_renamed, parentTexts_renamed, distinct_map hr]
  split
  · rw [Option.map_map, Option.map_map]
    rfl
  · rfl

/-- Types are declared under the new names. -/
theorem declarations_renamed (hr : Function.Injective r) (n : Node) :
    (n.renamed r).declarations = n.declarations.map (TypeDecl.map r) := by
  rw [declarations, declarations, preorder_renamed, List.filterMap_map, List.map_filterMap]
  exact congrArg (fun f => n.preorder.filterMap f) (funext fun m => declaration?_renamed hr m)

theorem get?_of_nameText? {n : Node} {s : String} (h : n.nameText? = some s) :
    Fields.get? n.attrs "name" = some (.str s) := get?_of_attr? (name?_of_nameText? h)

theorem Renamable.hasTextName {root n : Node} (h : root.Renamable r) (hn : n ∈ root.preorder) : n.HasTextName := by
  intro hkind
  obtain ⟨s, hname, -⟩ := h.names n hn hkind
  rw [get?_of_nameText? hname]
  rfl

end Node

section Loaded

variable {document : Value} {root : Node} (hkeys : document.hasDistinctKeys)
  (hload : (load document).outcome = .ok root) (hr : Function.Injective r) (h : root.Renamable r)

include hkeys hload

theorem load_renamed_of_load : (load (document.renamed r)).outcome = .ok (root.renamed r) := by
  rw [outcome_load_renamed hkeys, hload]
  rfl

include hr h

/-- The types of a tree under the old and the new names. -/
theorem typeDecls_of_renamable : root.typeDecls = .ok (root.declarations.map (TypeDecl.map Value.str)) ∧
    (root.renamed r).typeDecls = .ok ((root.declarations.map (TypeDecl.map r)).map (TypeDecl.map Value.str)) := by
  refine ⟨typeDecls_eq (fun n hn => isClosed_of_load hkeys hload hn) fun n hn => h.hasTextName hn, ?_⟩
  rw [← declarations_renamed hr]
  refine typeDecls_eq (fun n hn => ?_) fun n hn => ?_
  · exact isClosed_of_load (Value.hasDistinctKeys_renamed document hkeys) (load_renamed_of_load hkeys hload) hn
  · rw [preorder_renamed] at hn
    obtain ⟨m, hm, rfl⟩ := List.mem_map.mp hn
    intro hkind
    rw [kind_renamed] at hkind
    obtain ⟨s, hname, -⟩ := h.names m hm hkind
    rw [get?_attrs_renamed, get?_of_nameText? hname, hkind]
    rfl

/-- A cycle is a cycle under other names; without one the depth is the same. -/
theorem sameInheritance_renamed (policy : CyclePolicy) : SameInheritance policy root (root.renamed r) := by
  obtain ⟨hdecls, hdecls'⟩ := typeDecls_of_renamable hkeys hload hr h
  exact sameInheritance_of_isDepth hdecls hdecls' (cyclic_map hr) (fun _ hdepth => hdepth.map hr) policy

/-- The analysis of a tree under the old and the new names. -/
theorem analyze_renamed {σ : Type} [Scalar σ] (hne : ∀ s, s ≠ "" → r s ≠ "") (settings : Settings) :
    let before := (root.analyze settings (Parents.of root) : Traced (Analysis Nat σ Num)).outcome
    let after := ((root.renamed r).analyze settings (Parents.of (root.renamed r)) : Traced (Analysis Nat σ Num)).outcome
    (∃ analysis analysis', before = .ok analysis ∧ after = .ok analysis' ∧
      analysis'.metrics = analysis.metrics ∧ RenamedUnits r root analysis.units analysis'.units) ∨
    (settings.cyclePolicy = .fail ∧ (∃ names passes, before = .error (.problem (.inheritanceCycle names passes))) ∧
      ∃ names passes, after = .error (.problem (.inheritanceCycle names passes))) ∨
    ∃ e, before = .error e ∧ after = .error e := by
  intro before after
  have hunits := @units_renamed r σ _ hr hne root h (isDistinct_of_load hkeys hload)
    (fun n hn span hspan => (isWhole_of_load hkeys hload hn hspan).1) settings.workers
  have hvolume := @volume_renamed r hne σ _ hr root root h (mem_preorder_self root)
  have hkeys' := @Value.hasDistinctKeys_renamed r document hkeys
  have hload' := @load_renamed_of_load r document root hkeys hload
  have hmetrics : ∀ units units' : List (CodeUnit Nat σ Num), RenamedUnits r root units units' →
      ∀ (complexity : Nat) (volume : σ) (depth : Nat),
      (root.renamed r).metricsOf complexity volume depth units'.length
        = root.metricsOf complexity volume depth units.length := by
    rintro _ _ ⟨entries, -, rfl, rfl, -⟩ complexity volume depth
    simp only [metricsOf, logicalLines_renamed, classCount_renamed, List.length_map]
  rcases analyze_both hunits (complexity_renamed root) hvolume
      (sameInheritance_renamed hkeys hload hr h settings.cyclePolicy) hmetrics
      (fun _ hown => (units_consistent hkeys hload hown).2) (fun _ hown => (units_consistent hkeys' hload' hown).2)
    with hok | hcycle | ⟨e, -, herror⟩
  · exact .inl hok
  · exact .inr (.inl hcycle)
  · exact .inr (.inr ⟨e, herror⟩)

end Loaded

/-! ## Analyses -/

/-- **Renaming identifiers changes nothing but the names of units.** A document whose identifiers all have names, none
of them the text of a literal and no operator looking like a call, has the same analysis under other names: the same
metrics and the same units in the same order, with the new name where a unit has its name from an identifier. An analysis
fails over a cycle under either names or under none, and for any other reason under both. -/
theorem analysis_of_renamed_document {σ : Type} [Scalar σ] {document : Value} (hkeys : document.hasDistinctKeys)
    (hr : Function.Injective r) (hne : ∀ s, s ≠ "" → r s ≠ "")
    (h : ∀ root, (load document).outcome = .ok root → root.Renamable r) (settings : Settings) :
    let before := (analyzeDocument document settings : Traced (Analysis Nat σ Num)).outcome
    let after := (analyzeDocument (document.renamed r) settings : Traced (Analysis Nat σ Num)).outcome
    (∃ root analysis analysis', (load document).outcome = .ok root ∧ before = .ok analysis ∧ after = .ok analysis' ∧
      analysis'.metrics = analysis.metrics ∧ RenamedUnits r root analysis.units analysis'.units) ∨
    (settings.cyclePolicy = .fail ∧ (∃ names passes, before = .error (.problem (.inheritanceCycle names passes))) ∧
      ∃ names passes, after = .error (.problem (.inheritanceCycle names passes))) ∨
    ∃ e, before = .error e ∧ after = .error e := by
  intro before after
  cases hload : (load document).outcome with
  | error e =>
    have hload' : (load (document.renamed r)).outcome = .error e := by
      rw [outcome_load_renamed hkeys, hload]
      rfl
    refine .inr (.inr ⟨e, ?_, ?_⟩)
    · simp only [before, analyzeDocument, Traced.outcome_bind, hload]
      rfl
    · simp only [after, analyzeDocument, Traced.outcome_bind, hload']
      rfl
  | ok root =>
    have hbefore : before = (root.analyze settings (Parents.of root)).outcome := analyzeDocument_eq hload settings
    have hafter : after = ((root.renamed r).analyze settings (Parents.of (root.renamed r))).outcome :=
      analyzeDocument_eq (load_renamed_of_load hkeys hload) settings
    rw [hbefore, hafter]
    rcases @analyze_renamed r document root hkeys hload hr (h root hload) σ _ hne settings with
      ⟨analysis, analysis', hok⟩ | hfail
    · exact .inl ⟨root, analysis, analysis', rfl, hok⟩
    · exact .inr hfail

/-- Names can be exchanged in the class that extends itself. -/
theorem renamable_classTree : classTree.Renamable (Equiv.swap "A" "make") := by
  refine ⟨by decide, ?_, by decide⟩
  rintro s t ⟨m, hm, hkind, hs⟩ ⟨l, hl, hliteral, ht⟩
  have hall : ∀ m ∈ classTree.preorder, m.kind = .identifier → ∀ s, m.nameText? = some s →
      ∀ l ∈ classTree.preorder, l.kind = .literal → ∀ t, l.literalText? = some t →
        s ≠ t ∧ Equiv.swap "A" "make" s ≠ t := by decide
  exact hall m hm hkind s hs l hl hliteral t ht

/-- Exchanging the names of the class and of its method leaves the analysis as it is, cycle and all. -/
theorem analysis_of_renamed_classDocument :
    (∃ analysis analysis' : Measured, (analyzeDocument classDocument Settings.default).outcome = .ok analysis ∧
      (analyzeDocument (classDocument.renamed (Equiv.swap "A" "make")) Settings.default).outcome = .ok analysis' ∧
      analysis'.metrics = analysis.metrics ∧
      RenamedUnits (Equiv.swap "A" "make") classTree analysis.units analysis'.units) ∧
    ∃ names passes, (analyzeDocument (classDocument.renamed (Equiv.swap "A" "make"))
      { Settings.default with cyclePolicy := .fail } : Traced Measured).outcome
        = .error (.problem (.inheritanceCycle names passes)) := by
  have hne : ∀ s, s ≠ "" → Equiv.swap "A" "make" s ≠ "" := by
    intro s hs
    rw [Equiv.swap_apply_def]
    split_ifs
    · decide
    · decide
    · exact hs
  have hrenamable : ∀ root, (load classDocument).outcome = .ok root → root.Renamable (Equiv.swap "A" "make") := by
    intro root hload
    cases load_classDocument.symm.trans hload
    exact renamable_classTree
  have hresult := @analysis_of_renamed_document _ Float _ classDocument (by decide) (Equiv.swap "A" "make").injective hne
    hrenamable
  constructor
  · obtain ⟨analysis, hanalysis⟩ := exists_analyze_classDocument
    rcases hresult Settings.default with ⟨root, own, other, hload, hown, hother, hsame⟩ | ⟨hpolicy, -⟩ | ⟨e, herror, -⟩
    · cases load_classDocument.symm.trans hload
      exact ⟨own, other, hown, hother, hsame⟩
    · cases hpolicy
    · cases hanalysis.symm.trans herror
  · obtain ⟨names, passes, hcycle⟩ := analyze_classDocument_fail
    rcases hresult { Settings.default with cyclePolicy := .fail } with
      ⟨root, own, other, hload, hown, hother, hsame⟩ | ⟨-, -, herror⟩ | ⟨e, herror, herror'⟩
    · cases hcycle.symm.trans hown
    · exact herror
    · cases hcycle.symm.trans herror
      exact ⟨names, passes, herror'⟩

end CodeMetrics
