import CodeMetrics.Proofs.Analysis.Documents

/-!
# Analysis under other settings

Of all settings only the policy for cycles can be seen in an analysis, and only where the types are in a cycle. All other
settings, the number of workers among them, change nothing; and a cycle changes nothing but the depth.

* `hasTexts_of_load` — the literals of a document can be written out
* `exists_analysis` — one analysis for all settings that do not refuse the types
-/

namespace CodeMetrics

/-! ## Attributes of a document -/

namespace Loader

open Json

/-- The objects in a member are those of its value, or of the items of a list. -/
theorem mem_slotObjects {key : String} {v : Value} {members : List (String × Value)}
    (h : members ∈ slotObjects key v) :
    members ∈ nodeObjects v ∨ ∃ items, v = .list items ∧ ∃ w ∈ items, members ∈ nodeObjects w := by
  unfold slotObjects at h
  split at h
  · split at h
    · rw [itemObjects_eq, List.mem_flatMap] at h
      obtain ⟨w, hw, h⟩ := h
      split at h
      · exact .inr ⟨_, rfl, w, hw, h⟩
      · cases h
    · exact .inl h
  · cases h

/-- The members of all nodes of a document are values. -/
theorem isValue_of_nodeObjects {document : Value} (h : IsValue document) :
    ∀ members ∈ nodeObjects document, ∀ m ∈ members, IsValue m.2 := by
  -- a list is no node, but the nodes among its items are those of the member that holds it
  suffices hboth : (∀ members ∈ nodeObjects document, ∀ m ∈ members, IsValue m.2) ∧
      ∀ items, document = .list items → ∀ v ∈ items, ∀ members ∈ nodeObjects v, ∀ m ∈ members, IsValue m.2 from hboth.1
  induction h with
  | object hkeys hmembers ih =>
    constructor
    · intro members h
      rw [nodeObjects, memberObjects_eq] at h
      rcases List.mem_cons.mp h with rfl | h
      · exact hmembers
      · obtain ⟨m, hm, h⟩ := List.mem_flatMap.mp h
        rcases mem_slotObjects h with h | ⟨items, hitems, v, hv, h⟩
        · exact (ih m hm).1 members h
        · exact (ih m hm).2 items hitems v hv members h
    · intro items hitems
      cases hitems
  | list _ ih =>
    constructor
    · intro members h
      cases h
    · intro items hitems v hv
      cases hitems
      exact (ih v hv).1
  | null | bool | int | float | str =>
    constructor
    · intro members h
      cases h
    · intro items hitems
      cases hitems

end Loader

open Node

section Settings

open Inheritance

variable {σ : Type} [Scalar σ] {document : Value} {root : Node} (hdocument : Json.IsValue document)
  (hload : (load document).outcome = .ok root) (hattrs : ∀ n ∈ root.preorder, n.HasTextAttrs)

include hdocument hload hattrs

/-- Names and operators that are texts are all that is asked of a document, as its literals can be written out. -/
theorem hasTexts_of_load : ∀ n ∈ root.preorder, n.hasTexts = true := by
  intro n hn
  obtain ⟨members, hmembers, hrenders⟩ := exists_renders_of_load hdocument.hasDistinctKeys hload hn
  refine hasTexts_iff.mpr ⟨(hattrs n hn).name, (hattrs n hn).operator, fun _ v hv => ?_⟩
  have hmem := Fields.mem_of_get? hv
  rw [hrenders.attrs] at hmem
  exact (Loader.isValue_of_nodeObjects hdocument members hmembers _ (List.mem_of_mem_filter hmem)).isWritable

theorem typeDecls_of_load : root.typeDecls = .ok (root.declarations.map (TypeDecl.map Value.str)) :=
  typeDecls_eq (fun _ hn => isClosed_of_load hdocument.hasDistinctKeys hload hn) fun n hn _ => (hattrs n hn).name

/-! ## Settings -/

/-- Settings whose policy is to fail refuse types in a cycle. -/
theorem exists_refusal {settings : Settings} (hpolicy : settings.cyclePolicy = .fail)
    (hcyclic : Cyclic root.declarations) :
    ∃ names passes, (analyzeDocument document settings : Traced (Analysis Nat σ Num)).outcome
      = .error (.problem (.inheritanceCycle names passes)) :=
  analyzeDocument_error hdocument.hasDistinctKeys hload (hasTexts_of_load hdocument hload hattrs)
    (typeDecls_of_load hdocument hload hattrs) hpolicy hcyclic

/-- One analysis for all settings that do not refuse the types of a document: its depth is that of their graph. -/
theorem exists_analysis : ∃ analysis : Analysis Nat σ Num,
    analysis.metrics.classCount = root.classCount ∧
    IsDepth root.declarations analysis.metrics.depthOfInheritance ∧
    ∀ settings : Settings, ¬(settings.cyclePolicy = .fail ∧ Cyclic root.declarations) →
      (analyzeDocument document settings).outcome = .ok analysis := by
  have hkeys := hdocument.hasDistinctKeys
  have htexts := hasTexts_of_load hdocument hload hattrs
  have hdecls := typeDecls_of_load hdocument hload hattrs
  obtain ⟨units, hunits⟩ := @exists_units σ _ _ _ hkeys hload htexts (Parents.of root) none
  obtain ⟨complexity, hcomplexity⟩ := exists_complexity hattrs
  obtain ⟨volume, hvolume⟩ := @exists_volume σ _ _ htexts
  obtain ⟨depth, -, hdepth⟩ := @inheritance_ok _ _ hdecls .zero nofun
  refine ⟨⟨root.metricsOf complexity volume depth units.length, units⟩, rfl, hdepth, fun settings hpolicy => ?_⟩
  -- the units are the same for any number of workers, and the depth for either policy
  have hunits' : (root.units (Parents.of root) settings.workers).outcome = .ok units := by
    rw [← hunits, outcome_units, outcome_units]
  obtain ⟨depth', hinheritance, hdepth'⟩ := inheritance_ok hdecls hpolicy
  rw [hdepth'.unique hdepth] at hinheritance
  rw [analyzeDocument_eq hload]
  exact analyze_eq_ok hunits' (units_consistent hkeys hload hunits).2 hcomplexity hvolume hinheritance

end Settings

/-- **Settings are seen in an analysis only as far as they refuse types in a cycle.** Without a cycle there is one
analysis for all settings. With one, settings whose policy is to fail end the analysis over it, and all others give one
and the same. In each analysis that is returned, classes are counted as they stand in the tree, and the depth is that of
the longest chain of declared types, or zero if there is a cycle. -/
theorem analysis_under_settings {σ : Type} [Scalar σ] {document : Value} {root : Node}
    (hdocument : Json.IsValue document) (hload : (load document).outcome = .ok root)
    (hattrs : ∀ n ∈ root.preorder, n.HasTextAttrs) :
    let outcome := fun settings => (analyzeDocument document settings : Traced (Analysis Nat σ Num)).outcome
    (¬Inheritance.Cyclic root.declarations → ∃ analysis, ∀ settings, outcome settings = .ok analysis) ∧
    (Inheritance.Cyclic root.declarations →
      (∃ analysis, ∀ settings, settings.cyclePolicy = .zero → outcome settings = .ok analysis) ∧
      ∀ settings, settings.cyclePolicy = .fail →
        ∃ names passes, outcome settings = .error (.problem (.inheritanceCycle names passes))) ∧
    ∀ settings analysis, outcome settings = .ok analysis →
      analysis.metrics.classCount = root.preorder.countP (fun n => n.kind = .classDeclaration) ∧
      Inheritance.IsDepth root.declarations analysis.metrics.depthOfInheritance := by
  intro outcome
  obtain ⟨analysis, hclasses, hdepth, hall⟩ := @exists_analysis σ _ _ _ hdocument hload hattrs
  refine ⟨fun hacyclic => ?_, fun hcyclic => ⟨?_, fun settings hpolicy => ?_⟩, fun settings other hother => ?_⟩
  · exact ⟨analysis, fun settings => hall settings fun h => hacyclic h.2⟩
  · refine ⟨analysis, fun settings hzero => hall settings fun h => ?_⟩
    cases hzero.symm.trans h.1
  · exact exists_refusal hdocument hload hattrs hpolicy hcyclic
  · -- what is returned is the one analysis, for settings that refuse the types return none
    by_cases hpolicy : settings.cyclePolicy = .fail ∧ Inheritance.Cyclic root.declarations
    · obtain ⟨names, passes, herror⟩ := @exists_refusal σ _ _ _ hdocument hload hattrs _ hpolicy.1 hpolicy.2
      cases hother.symm.trans herror
    · cases hother.symm.trans (hall settings hpolicy)
      rw [hclasses, classCount, walk_eq]
      exact ⟨rfl, hdepth⟩

theorem isValue_classDocument : Json.IsValue classDocument := by
  unfold classDocument
  repeat' first
    | exact .str _
    | exact .null
    | exact .int (Json.lt_pow10 (by decide))
    | apply Json.IsValue.list
    | refine Json.IsValue.object (by decide) ?_
    | refine List.forall_mem_cons.mpr ⟨?_, ?_⟩
    | exact List.forall_mem_nil _

theorem cyclic_declarations_classTree : Inheritance.Cyclic classTree.declarations := cyclic_classTree

/-- The class that extends itself is refused by some settings, and measured alike under all others. -/
theorem classDocument_under_settings :
    (∃ analysis : Measured,
      (∀ settings, settings.cyclePolicy = .zero → (analyzeDocument classDocument settings).outcome = .ok analysis) ∧
      analysis.metrics.classCount = 1 ∧ analysis.metrics.depthOfInheritance = 0) ∧
    ∀ settings, settings.cyclePolicy = .fail → ∃ names passes,
      (analyzeDocument classDocument settings : Traced Measured).outcome
        = .error (.problem (.inheritanceCycle names passes)) := by
  obtain ⟨-, hcyclic, hreturned⟩ := @analysis_under_settings Float _ _ _ isValue_classDocument load_classDocument
    fun n hn => hasTextAttrs_of_hasTexts (hasTexts_classTree n hn)
  obtain ⟨⟨analysis, hall⟩, hrefused⟩ := hcyclic cyclic_declarations_classTree
  obtain ⟨hclasses, hdepth⟩ := hreturned Settings.default analysis (hall Settings.default rfl)
  exact ⟨⟨analysis, hall, hclasses, hdepth.of_cyclic cyclic_declarations_classTree⟩, hrefused⟩

end CodeMetrics
