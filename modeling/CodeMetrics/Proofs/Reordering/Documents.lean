import CodeMetrics.Proofs.Analysis.Documents
import CodeMetrics.Proofs.Reordering.Measures

/-!
# Analyses in another order

The types of a tree are declared in another order and with their parents in another order, which is the same graph. With
the units and the counts this makes the two analyses the same, up to the order of units on one line.

* `Node.Alike.declarations` — the types of a tree
* `Reordered.exists_load` — which documents are accepted
* `analysis_of_reordered_document` — the analysis of a reordered document
-/

namespace CodeMetrics

open Node Inheritance Loader

/-! ## Types -/

/-- Declarations of one name with the same parents. -/
def SameDecl (d d' : TypeDecl String) : Prop := d'.name = d.name ∧ ∀ p, p ∈ d'.parents ↔ p ∈ d.parents

namespace Node

variable {n n' : Node}

theorem textName?_of_rel {o o' : Option Node} (h : Option.Rel Alike o o') : textName? o' = textName? o := by
  rw [textName?, textName?, identifierName?_of_rel h]

theorem heritageTexts_perm {items items' : List (Option Node)} (h : Matched (Option.Rel Alike) items items') :
    (heritageTexts items).Perm (heritageTexts items') := by
  refine (h.filterMap fun item item' hitem => ?_).perm
  have hclause : Option.Rel Alike (item.bind fun clause => clause.child "expression")
      (item'.bind fun clause => clause.child "expression") := by
    cases hitem with
    | none => exact .none
    | some hc => exact hc.step.child "expression"
  rw [textName?_of_rel hclause]
  cases textName? (item.bind fun clause => clause.child "expression") with
  | none => exact .none
  | some s => exact .some rfl

theorem Alike.parentTexts_perm (h : Alike n n') : n.parentTexts.Perm n'.parentTexts := by
  rw [parentTexts, parentTexts, h.step.kind, textName?_of_rel (h.step.child "superClass")]
  split
  · exact (heritageTexts_perm (h.step.childList "implements")).append_left _
  · exact heritageTexts_perm (h.step.childList "extends")

theorem Alike.declaration? (h : Alike n n') : Option.Rel SameDecl n.declaration? n'.declaration? := by
  rw [Node.declaration?, Node.declaration?, h.step.kind, textName?_of_rel (h.step.child "id")]
  split
  · cases textName? (n.child "id") with
    | none => exact .none
    | some name =>
      refine .some ⟨rfl, fun p => ?_⟩
      rw [mem_distinct, mem_distinct, h.parentTexts_perm.mem_iff]
  · exact .none

/-- The same types are declared. -/
theorem Alike.declarations (h : Alike n n') : Matched SameDecl n.declarations n'.declarations :=
  h.preorder.filterMap fun _ _ hm => hm.declaration?

end Node

/-- Edges go from a name to its parents, whatever the order. -/
theorem extends_of_matched {decls decls' : List (TypeDecl String)} (h : Matched SameDecl decls decls') (a b : String) :
    Extends decls a b ↔ Extends decls' a b := by
  constructor
  · rintro ⟨d, hd, hname, hparent⟩
    obtain ⟨d', hd', hsame⟩ := h.exists_left hd
    exact ⟨d', hd', hsame.1.trans hname, (hsame.2 b).mpr hparent⟩
  · rintro ⟨d', hd', hname, hparent⟩
    obtain ⟨d, hd, hsame⟩ := h.exists_right hd'
    exact ⟨d, hd, hsame.1.symm.trans hname, (hsame.2 b).mp hparent⟩

theorem exists_name_of_matched {decls decls' : List (TypeDecl String)} (h : Matched SameDecl decls decls') (t : String) :
    (∃ d ∈ decls, d.name = t) ↔ ∃ d ∈ decls', d.name = t := by
  constructor
  · rintro ⟨d, hd, hname⟩
    obtain ⟨d', hd', hsame⟩ := h.exists_left hd
    exact ⟨d', hd', hsame.1.trans hname⟩
  · rintro ⟨d', hd', hname⟩
    obtain ⟨d, hd, hsame⟩ := h.exists_right hd'
    exact ⟨d, hd, hsame.1.symm.trans hname⟩

/-! ## Loading -/

/-- A document is loaded if it can be converted. -/
theorem exists_load_iff {document : Value} (hkeys : document.hasDistinctKeys) :
    (∃ root, (load document).outcome = .ok root) ↔ ∃ plain, convert [] document = .ok plain := by
  constructor
  · rintro ⟨root, hload⟩
    obtain ⟨plain, hconvert, -⟩ := exists_convert_of_load hkeys hload
    exact ⟨plain, hconvert⟩
  · rintro ⟨plain, hconvert⟩
    rw [load_eq hkeys, hconvert]
    exact ⟨_, rfl⟩

/-- A document is accepted in any order, or in none. -/
theorem Reordered.exists_load {document document' : Value} (h : Reordered document document')
    (hkeys : document.hasDistinctKeys) :
    (∃ root, (load document).outcome = .ok root) ↔ ∃ root', (load document').outcome = .ok root' := by
  rw [exists_load_iff hkeys, exists_load_iff (h.hasDistinctKeys hkeys)]
  exact h.exists_convert hkeys [] []

theorem Reordered.alike_of_load {document document' : Value} {root root' : Node} (h : Reordered document document')
    (hkeys : document.hasDistinctKeys) (hload : (load document).outcome = .ok root)
    (hload' : (load document').outcome = .ok root') : Alike root root' := by
  obtain ⟨plain, hconvert, rfl⟩ := exists_convert_of_load hkeys hload
  obtain ⟨plain', hconvert', rfl⟩ := exists_convert_of_load (h.hasDistinctKeys hkeys) hload'
  exact ⟨document, document', h, hkeys, ⟨_, plain, 1, hconvert, rfl⟩, _, plain', 1, hconvert', rfl⟩

/-! ## Analyses -/

section Loaded

variable {document document' : Value} {root root' : Node} (h : Reordered document document')
  (hkeys : document.hasDistinctKeys) (hload : (load document).outcome = .ok root)
  (hload' : (load document').outcome = .ok root') (htexts : ∀ n ∈ root.preorder, n.HasTextAttrs)

include h hkeys hload hload' htexts

/-- A cycle is a cycle in any order; without one the depth is the same. -/
theorem sameInheritance_reordered (policy : CyclePolicy) : SameInheritance policy root root' := by
  have hsame := h.alike_of_load hkeys hload hload'
  have hkeys' := h.hasDistinctKeys hkeys
  have hdecls := typeDecls_eq (fun n hn => isClosed_of_load hkeys hload hn) fun n hn _ => (htexts n hn).name
  have hdecls' := typeDecls_eq (fun n hn => isClosed_of_load hkeys' hload' hn) fun n hn _ => (hsame.texts htexts n hn).name
  have hedges := extends_of_matched hsame.declarations
  exact sameInheritance_of_isDepth hdecls hdecls' (cyclic_congr hedges).symm
    (fun _ hdepth => hdepth.congr hedges (exists_name_of_matched hsame.declarations)) policy

/-- The units are the same up to their lines, or there are none in either order. -/
theorem rel_units_reordered {σ : Type} [Scalar σ] (workers : Option Num) : Outcome.Rel SameUpToLines
    (root.units (Parents.of root) workers : Traced (List (CodeUnit Nat σ Num))).outcome
    (root'.units (Parents.of root') workers).outcome := by
  have hsame := h.alike_of_load hkeys hload hload'
  have hkeys' := h.hasDistinctKeys hkeys
  rcases @units_of_alike _ _ hsame (isDistinct_of_load hkeys hload) (isDistinct_of_load hkeys' hload') htexts σ _ workers
    with ⟨units, units', hunits, hunits', hperm⟩ | ⟨herror, herror'⟩
  · obtain ⟨hconsistent, horder⟩ := units_consistent hkeys hload hunits
    have horder' := (units_consistent hkeys' hload' hunits').2
    rw [hunits, hunits']
    exact .ok (sameUpToLines_of_perm hperm (fun u hu => (hconsistent u hu).1) horder horder')
  · rw [herror, herror']
    exact .error _

/-- The analysis of a tree in either order. -/
theorem analyze_reordered {σ : Type} [Scalar σ] (settings : Settings) :
    let before := (root.analyze settings (Parents.of root) : Traced (Analysis Nat σ Num)).outcome
    let after := (root'.analyze settings (Parents.of root') : Traced (Analysis Nat σ Num)).outcome
    (∃ analysis analysis', before = .ok analysis ∧ after = .ok analysis' ∧
      analysis'.metrics = analysis.metrics ∧ SameUpToLines analysis.units analysis'.units) ∨
    (settings.cyclePolicy = .fail ∧ (∃ names passes, before = .error (.problem (.inheritanceCycle names passes))) ∧
      ∃ names passes, after = .error (.problem (.inheritanceCycle names passes))) ∨
    ((∃ n ∈ root.preorder, n.hasTexts = false) ∧ before = .error (.rejected .unwritable) ∧
      after = .error (.rejected .unwritable)) := by
  intro before after
  have hsame := h.alike_of_load hkeys hload hload'
  have hkeys' := h.hasDistinctKeys hkeys
  have hmetrics : ∀ units units' : List (CodeUnit Nat σ Num), SameUpToLines units units' →
      ∀ (complexity : Nat) (volume : σ) (depth : Nat), root'.metricsOf complexity volume depth units'.length
        = root.metricsOf complexity volume depth units.length := by
    intro units units' hunits complexity volume depth
    rw [metricsOf, metricsOf, hsame.logicalLines_eq (isDistinct_of_load hkeys hload) (isDistinct_of_load hkeys' hload'),
      hsame.classCount_eq, hunits.perm.length_eq]
  rcases analyze_both (rel_units_reordered h hkeys hload hload' htexts settings.workers) (hsame.complexity_eq htexts)
      (hsame.volume_eq htexts) (sameInheritance_reordered h hkeys hload hload' htexts settings.cyclePolicy) hmetrics
      (fun _ hown => (units_consistent hkeys hload hown).2) (fun _ hown => (units_consistent hkeys' hload' hown).2)
    with hok | hcycle | ⟨e, hpart, herror, herror'⟩
  · exact .inl hok
  · exact .inr (.inl hcycle)
  · obtain ⟨rfl, hliteral⟩ := unwritable_of_part hkeys hload htexts hpart
    exact .inr (.inr ⟨hliteral, herror, herror'⟩)

end Loaded

/-- **The order of members and of nodes in lists does not matter**, but for the order of units on one line. A document
whose names and operators are texts is accepted in any order, or in none. If it is, the analyses have the same metrics
and the same units, in an order that differs among units on one line only; or both fail over a cycle among the types, or
over a literal that cannot be written out. -/
theorem analysis_of_reordered_document {σ : Type} [Scalar σ] {document document' : Value}
    (h : Reordered document document') (hkeys : document.hasDistinctKeys)
    (htexts : ∀ root, (load document).outcome = .ok root → ∀ n ∈ root.preorder, n.HasTextAttrs) :
    ((∃ root, (load document).outcome = .ok root) ↔ ∃ root', (load document').outcome = .ok root') ∧
    ∀ root, (load document).outcome = .ok root → ∀ settings : Settings,
      let before := (analyzeDocument document settings : Traced (Analysis Nat σ Num)).outcome
      let after := (analyzeDocument document' settings : Traced (Analysis Nat σ Num)).outcome
      (∃ analysis analysis', before = .ok analysis ∧ after = .ok analysis' ∧
        analysis'.metrics = analysis.metrics ∧ SameUpToLines analysis.units analysis'.units) ∨
      (settings.cyclePolicy = .fail ∧ (∃ names passes, before = .error (.problem (.inheritanceCycle names passes))) ∧
        ∃ names passes, after = .error (.problem (.inheritanceCycle names passes))) ∨
      ((∃ n ∈ root.preorder, n.hasTexts = false) ∧ before = .error (.rejected .unwritable) ∧
        after = .error (.rejected .unwritable)) := by
  refine ⟨h.exists_load hkeys, fun root hload settings => ?_⟩
  obtain ⟨root', hload'⟩ := (h.exists_load hkeys).mp ⟨root, hload⟩
  intro before after
  have hbefore : before = (root.analyze settings (Parents.of root)).outcome := analyzeDocument_eq hload settings
  have hafter : after = (root'.analyze settings (Parents.of root')).outcome := analyzeDocument_eq hload' settings
  rw [hbefore, hafter]
  exact analyze_reordered h hkeys hload hload' (htexts root hload) settings

/-- The class that extends itself, after the function that stood behind it, with its members the other way round. -/
def reorderedClassDocument : Value :=
  match classDocument with
  | .object [tag, (key, .list [.object members, other])] =>
    .object [(key, .list [other, .object members.reverse]), tag]
  | other => other

theorem reordered_classDocument : Reordered classDocument reorderedClassDocument := by
  refine .object (.swap _ _ _) (.many (by decide) (.swap _ _ _) ?_ (.kept (by decide) .nil))
  refine .node (by decide) (.refl _) (.node (by decide) ?_ .nil)
  exact .object (List.reverse_perm _).symm (.refl _)

/-- The analysis of the class does not depend on the order of its parts, and is refused in either order. -/
theorem analysis_of_reordered_classDocument :
    (∃ analysis analysis' : Measured, (analyzeDocument classDocument Settings.default).outcome = .ok analysis ∧
      (analyzeDocument reorderedClassDocument Settings.default).outcome = .ok analysis' ∧
      analysis'.metrics = analysis.metrics ∧ SameUpToLines analysis.units analysis'.units) ∧
    ∃ names passes, (analyzeDocument reorderedClassDocument { Settings.default with cyclePolicy := .fail }
      : Traced Measured).outcome = .error (.problem (.inheritanceCycle names passes)) := by
  have htexts : ∀ root, (load classDocument).outcome = .ok root → ∀ n ∈ root.preorder, n.HasTextAttrs := by
    intro root hload n hn
    cases load_classDocument.symm.trans hload
    exact hasTextAttrs_of_hasTexts (hasTexts_classTree n hn)
  have hresult := (@analysis_of_reordered_document Float _ _ _ reordered_classDocument (by decide) htexts).2 classTree
    load_classDocument
  constructor
  · obtain ⟨analysis, hanalysis⟩ := exists_analyze_classDocument
    rcases hresult Settings.default with hsame | ⟨hpolicy, -⟩ | ⟨-, herror, -⟩
    · exact hsame
    · cases hpolicy
    · cases hanalysis.symm.trans herror
  · obtain ⟨names, passes, hcycle⟩ := analyze_classDocument_fail
    rcases hresult { Settings.default with cyclePolicy := .fail } with ⟨own, -, hown, -⟩ | ⟨-, -, herror⟩ | ⟨-, herror, -⟩
    · cases hcycle.symm.trans hown
    · exact herror
    · cases hcycle.symm.trans herror

end CodeMetrics
