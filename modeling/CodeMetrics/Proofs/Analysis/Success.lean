import CodeMetrics.Proofs.Analysis.Measuring
import CodeMetrics.Proofs.Inheritance.Trees
import CodeMetrics.Proofs.Units.Discovery

/-!
# Analysis of a loaded tree

The parts of an analysis one after the other: units, complexity, volume, inheritance, and the checks on the whole. With
texts for names all of them succeed, but for a cycle among the types where the policy is to fail; the checks on the whole
are then met.

* `Analysis.of_eq_ok` — units that are counted and in order pass the checks
* `exists_units` — the units of a loaded tree
* `analyzeDocument_ok`, `analyzeDocument_error` — how an analysis ends
-/

namespace CodeMetrics

/-! ## Checks on the whole -/

theorem Num.le_of_isWhole {a b : Num} (ha : a.IsWhole) (hb : b.IsWhole) (h : b.lt a = false) : a.le b = true := by
  rw [lt_of_isWhole hb ha, decide_eq_false_iff_not] at h
  rw [le, lt_of_isWhole ha hb, same_of_isWhole ha hb, Bool.or_eq_true, decide_eq_true_eq, decide_eq_true_eq]
  omega

namespace Value

theorem areAscending_ofNum {lines : List Num} (h : lines.Pairwise fun a b => b.lt a = false) :
    areAscending (lines.map ofNum) = true := by
  induction lines with
  | nil => rfl
  | cons a rest ih =>
    obtain ⟨ha, hrest⟩ := List.pairwise_cons.mp h
    cases rest with
    | nil => rfl
    | cons b rest =>
      rw [List.map_cons, List.map_cons, areAscending, below?_ofNum, ha b List.mem_cons_self]
      exact ih hrest

theorem same_countValue (n : Nat) : (countValue n).same (countValue n) = true := by
  simp [countValue, same, num?, Num.same, Num.exact, Exact.same]

end Value

section Checks

variable {σ : Type} {metrics : Metrics Nat σ} {units : List (CodeUnit Nat σ Num)}

/-- Units that are counted and in order pass the checks. -/
theorem Analysis.of_eq_ok (hcount : metrics.methodCount = units.length)
    (horder : units.Pairwise fun u v => v.startLine.lt u.startLine = false) :
    Analysis.of countValue Value.ofNum metrics units = .ok ⟨metrics, units⟩ := by
  have hlines : Value.inOrder? (units.map fun u => Value.ofNum u.startLine) = some true := by
    have hascending := Value.areAscending_ofNum (List.pairwise_map.mpr horder)
    rw [List.map_map] at hascending
    exact if_pos hascending
  unfold Analysis.of
  rw [hcount, Value.same_countValue, hlines]
  rfl

end Checks

/-! ## Units -/

namespace Node

/-- No place in a list of a loaded tree is open. -/
theorem isClosed_of_load {document : Value} {root n : Node} (hkeys : document.hasDistinctKeys)
    (h : (load document).outcome = .ok root) (hn : n ∈ root.preorder) : n.IsClosed := by
  obtain ⟨members, -, hrenders⟩ := exists_renders_of_load hkeys h hn
  exact fun _ _ hfield => hrenders.none_notMem hfield

end Node

open Node

variable {σ : Type} [Scalar σ]

/-- There are units, or a literal cannot be written out. -/
theorem endsIn_units_of_hasTextAttrs {root : Node} (hdistinct : root.IsDistinct)
    (htexts : ∀ n ∈ root.preorder, n.HasTextAttrs) (parents : Parents) (workers : Option Num) :
    Outcome.EndsIn (.rejected .unwritable)
      (root.units parents workers : Traced (List (CodeUnit Nat σ Num))).outcome := by
  refine endsIn_units hdistinct fun n hn => endsIn_bodyMetrics fun b hb m hm => ?_
  have hbody := mem_preorder_trans ((sublist_reported root false).subset hn) (mem_preorder_unitBody hb)
  exact htexts m (mem_preorder_trans hbody hm)

/-- What holds of every unit: its lines are a range, and its metrics are those of one method. -/
structure CodeUnit.IsConsistent (u : CodeUnit Nat σ Num) : Prop where
  one_le_start : (Num.int 1).le u.startLine = true
  start_le_end : u.startLine.le u.endLine = true
  metrics : IsUnitMetrics u.metrics

section Loaded

variable {document : Value} {root : Node} (hkeys : document.hasDistinctKeys)
  (hload : (load document).outcome = .ok root)

include hkeys hload

theorem MeasuredAs.isConsistent {parents : Parents} {n : Node} {u : CodeUnit Nat σ Num} (hn : n ∈ root.preorder)
    (h : MeasuredAs parents n u) : u.startLine.IsWhole ∧ u.IsConsistent := by
  obtain ⟨span, hspan, hstart, hstop⟩ := h.lines
  obtain ⟨hwhole, hwhole'⟩ := isWhole_of_load hkeys hload hn hspan
  rw [hstart]
  refine ⟨hwhole, ?_, ?_, bodyMetrics_spec h.metrics⟩
  · rw [hstart]
    exact Num.le_of_isWhole rfl hwhole span.one_le_start
  · rw [hstart, hstop]
    exact Num.le_of_isWhole hwhole hwhole' span.start_le_stop

/-- The units of a loaded tree are consistent and in order. -/
theorem units_consistent {parents : Parents} {workers : Option Num} {units : List (CodeUnit Nat σ Num)}
    (h : (root.units parents workers).outcome = .ok units) :
    (∀ u ∈ units, u.startLine.IsWhole ∧ u.IsConsistent) ∧
      units.Pairwise fun u v => v.startLine.lt u.startLine = false := by
  obtain ⟨measured, hforall, rfl⟩ := (units_eq_ok (isDistinct_of_load hkeys hload)).mp h
  have hconsistent : ∀ u ∈ measured, u.startLine.IsWhole ∧ u.IsConsistent := by
    intro u hu
    obtain ⟨n, hn, hnu⟩ := Outcome.exists_of_forall₂_right hforall hu
    exact MeasuredAs.isConsistent hkeys hload ((sublist_reported root false).subset hn) hnu
  have hsorted := stablySorted_sortUnits fun u hu => (hconsistent u hu).1
  exact ⟨fun u hu => hconsistent u (hsorted.perm.subset hu), hsorted.inOrder⟩

/-- There are units if names and operators are texts. -/
theorem exists_units (htexts : ∀ n ∈ root.preorder, n.hasTexts = true) (parents : Parents) (workers : Option Num) :
    ∃ units : List (CodeUnit Nat σ Num), (root.units parents workers).outcome = .ok units := by
  refine (exists_units_iff (isDistinct_of_load hkeys hload)).mpr fun n hn => exists_bodyMetrics fun b hb m hm => ?_
  have hbody := mem_preorder_trans ((sublist_reported root false).subset hn) (mem_preorder_unitBody hb)
  exact htexts m (mem_preorder_trans hbody hm)

section TextAttrs

variable (htexts : ∀ n ∈ root.preorder, n.HasTextAttrs)

include htexts

/-- A part of an analysis fails only over a literal that cannot be written out. -/
theorem unwritable_of_part {e : Error} {parents : Parents} {workers : Option Num}
    (h : (root.units parents workers : Traced (List (CodeUnit Nat σ Num))).outcome = .error e ∨
      root.complexity = .error e ∨ (root.volume : Except Error σ) = .error e) :
    e = .rejected .unwritable ∧ ∃ n ∈ root.preorder, n.hasTexts = false := by
  obtain ⟨complexity, hcomplexity⟩ := exists_complexity htexts
  constructor
  · rcases h with h | h | h
    · exact (endsIn_units_of_hasTextAttrs (isDistinct_of_load hkeys hload) htexts parents workers).eq_of_error h
    · cases hcomplexity.symm.trans h
    · exact (endsIn_volume htexts).eq_of_error h
  · -- With texts all over there would have been all parts.
    by_contra hnone
    have hall : ∀ n ∈ root.preorder, n.hasTexts = true := fun n hn =>
      (Bool.not_eq_false _).mp fun hfalse => hnone ⟨n, hn, hfalse⟩
    rcases h with h | h | h
    · obtain ⟨units, hunits⟩ := @exists_units σ _ _ _ hkeys hload hall parents workers
      cases hunits.symm.trans h
    · cases hcomplexity.symm.trans h
    · obtain ⟨volume, hvolume⟩ := @exists_volume σ _ _ hall
      cases hvolume.symm.trans h

end TextAttrs

end Loaded

/-! ## The whole -/

/-- What holds of every analysis: its units are counted, consistent and in order, and its average is over them. -/
structure Analysis.IsConsistent (a : Analysis Nat σ Num) : Prop where
  methodCount : a.metrics.methodCount = a.units.length
  inOrder : a.units.Pairwise fun u v => u.startLine.le v.startLine = true
  units : ∀ u ∈ a.units, u.IsConsistent
  complexity : 1 ≤ a.metrics.cyclomaticComplexity
  average : a.units ≠ [] → a.metrics.averageMethodComplexity
    = Scalar.finiteOrZero (Scalar.ratio a.metrics.cyclomaticComplexity a.units.length)
  average_none : a.units = [] → a.metrics.averageMethodComplexity = Scalar.zero

/-- Metrics of counted units make a consistent analysis. -/
theorem Analysis.isConsistent_ofCounts {units : List (CodeUnit Nat σ Num)} {complexity : Nat}
    (hunits : ∀ u ∈ units, u.startLine.IsWhole ∧ u.IsConsistent)
    (horder : units.Pairwise fun u v => v.startLine.lt u.startLine = false) (hcomplexity : 1 ≤ complexity)
    (lines : Nat) (index : σ) (depth classes : Nat) :
    Analysis.IsConsistent ⟨Metrics.ofCounts lines complexity index depth classes units.length, units⟩ where
  methodCount := rfl
  inOrder := horder.imp_of_mem fun {u v} hu hv h => Num.le_of_isWhole (hunits u hu).1 (hunits v hv).1 h
  units u hu := (hunits u hu).2
  complexity := hcomplexity
  average h := congrArg Scalar.finiteOrZero (if_pos (List.length_pos_of_ne_nil h))
  average_none h := by
    subst h
    exact ite_self _

/-- The parts of an analysis, one after the other. -/
theorem Node.outcome_analyze (n : Node) (settings : Settings) (parents : Parents) :
    (n.analyze settings parents : Traced (Analysis Nat σ Num)).outcome = (do
      let units ← (n.units parents settings.workers).outcome
      let complexity ← n.complexity
      let volume : σ ← n.volume
      let (classes, depth) ← (n.inheritance settings.cyclePolicy).outcome
      Analysis.of countValue Value.ofNum (Metrics.ofCounts n.logicalLines complexity
        (Maintainability.index volume complexity n.logicalLines) depth classes units.length) units) := by
  simp only [Node.analyze, Traced.outcome_bind, Traced.outcome_lift]

/-- The metrics of a tree from its parts. -/
def Node.metricsOf (n : Node) (complexity : Nat) (volume : σ) (depth units : Nat) : Metrics Nat σ :=
  Metrics.ofCounts n.logicalLines complexity (Maintainability.index volume complexity n.logicalLines) depth n.classCount
    units

/-- Parts that are all there and units in order make an analysis. -/
theorem Node.analyze_eq_ok {n : Node} {settings : Settings} {parents : Parents} {units : List (CodeUnit Nat σ Num)}
    {complexity depth : Nat} {volume : σ} (hunits : (n.units parents settings.workers).outcome = .ok units)
    (horder : units.Pairwise fun u v => v.startLine.lt u.startLine = false) (hcomplexity : n.complexity = .ok complexity)
    (hvolume : n.volume = .ok volume)
    (hdepth : (n.inheritance settings.cyclePolicy).outcome = .ok (n.classCount, depth)) :
    (n.analyze settings parents).outcome = .ok ⟨n.metricsOf complexity volume depth units.length, units⟩ := by
  rw [outcome_analyze, hunits, hcomplexity, hvolume, hdepth]
  exact Analysis.of_eq_ok rfl horder

/-- How the analyses of two trees end that are measured alike. -/
theorem Node.analyze_both {R : List (CodeUnit Nat σ Num) → List (CodeUnit Nat σ Num) → Prop} {n n' : Node}
    {settings : Settings} {parents parents' : Parents}
    (hunits : Outcome.Rel R (n.units parents settings.workers).outcome (n'.units parents' settings.workers).outcome)
    (hcomplexity : n'.complexity = n.complexity) (hvolume : (n'.volume : Except Error σ) = n.volume)
    (hsame : SameInheritance settings.cyclePolicy n n')
    (hmetrics : ∀ units units', R units units' → ∀ (complexity : Nat) (volume : σ) (depth : Nat),
      n'.metricsOf complexity volume depth units'.length = n.metricsOf complexity volume depth units.length)
    (horder : ∀ units : List (CodeUnit Nat σ Num), (n.units parents settings.workers).outcome = .ok units →
      units.Pairwise fun u v => v.startLine.lt u.startLine = false)
    (horder' : ∀ units : List (CodeUnit Nat σ Num), (n'.units parents' settings.workers).outcome = .ok units →
      units.Pairwise fun u v => v.startLine.lt u.startLine = false) :
    let before := (n.analyze settings parents : Traced (Analysis Nat σ Num)).outcome
    let after := (n'.analyze settings parents' : Traced (Analysis Nat σ Num)).outcome
    (∃ analysis analysis', before = .ok analysis ∧ after = .ok analysis' ∧
      analysis'.metrics = analysis.metrics ∧ R analysis.units analysis'.units) ∨
    (settings.cyclePolicy = .fail ∧ (∃ names passes, before = .error (.problem (.inheritanceCycle names passes))) ∧
      ∃ names passes, after = .error (.problem (.inheritanceCycle names passes))) ∨
    ∃ e, ((n.units parents settings.workers : Traced (List (CodeUnit Nat σ Num))).outcome = .error e ∨
      n.complexity = .error e ∨ (n.volume : Except Error σ) = .error e) ∧ before = .error e ∧ after = .error e := by
  intro before after
  have hbefore : before = _ := outcome_analyze n settings parents
  have hafter : after = _ := outcome_analyze n' settings parents'
  rw [hcomplexity, hvolume] at hafter
  -- Up to the types both go the same way, one part after the other.
  rcases hunits.error_or_ok with ⟨e, hunits, hunits'⟩ | ⟨units, units', hunits, hunits', hrelated⟩
  · rw [hunits] at hbefore
    rw [hunits'] at hafter
    exact .inr (.inr ⟨e, .inl hunits, hbefore, hafter⟩)
  rw [hunits] at hbefore
  rw [hunits'] at hafter
  cases hown : n.complexity with
  | error e =>
    rw [hown] at hbefore hafter
    exact .inr (.inr ⟨e, .inr (.inl rfl), hbefore, hafter⟩)
  | ok complexity =>
    rw [hown] at hbefore hafter
    cases hown' : (n.volume : Except Error σ) with
    | error e =>
      rw [hown'] at hbefore hafter
      exact .inr (.inr ⟨e, .inr (.inr rfl), hbefore, hafter⟩)
    | ok volume =>
      rw [hown'] at hbefore hafter
      rcases hsame with ⟨hpolicy, ⟨names, passes, herror⟩, names', passes', herror'⟩ | ⟨depth, hdepth, hdepth'⟩
      · rw [herror] at hbefore
        rw [herror'] at hafter
        exact .inr (.inl ⟨hpolicy, ⟨names, passes, hbefore⟩, names', passes', hafter⟩)
      · exact .inl ⟨_, _, analyze_eq_ok hunits (horder units hunits) hown hown' hdepth,
          analyze_eq_ok hunits' (horder' units' hunits') (hcomplexity.trans hown) (hvolume.trans hown') hdepth',
          hmetrics units units' hrelated complexity volume depth, hrelated⟩

section Documents

open Inheritance

variable {document : Value} {root : Node} {decls : List (TypeDecl String)} {settings : Settings}
  (hkeys : document.hasDistinctKeys) (hload : (load document).outcome = .ok root)
  (htexts : ∀ n ∈ root.preorder, n.hasTexts = true)
  (hdecls : root.typeDecls = .ok (decls.map (TypeDecl.map Value.str)))

include hkeys hload htexts

theorem exists_typeDecls_of_load : ∃ decls : List (TypeDecl String),
    root.typeDecls = .ok (decls.map (TypeDecl.map Value.str)) :=
  ⟨_, typeDecls_eq (fun _ hn => isClosed_of_load hkeys hload hn) fun n hn _ => (hasTexts_iff.mp (htexts n hn)).1⟩

include hdecls

/-- A cycle ends the analysis if the policy is to fail. -/
theorem analyzeDocument_error (hpolicy : settings.cyclePolicy = .fail) (hcyclic : Cyclic decls) :
    ∃ names passes, (analyzeDocument document settings : Traced (Analysis Nat σ Num)).outcome
      = .error (.problem (.inheritanceCycle names passes)) := by
  obtain ⟨units, hunits⟩ := @exists_units σ _ _ _ hkeys hload htexts (Parents.of root) settings.workers
  obtain ⟨complexity, hcomplexity⟩ := exists_complexity fun n hn => hasTextAttrs_of_hasTexts (htexts n hn)
  obtain ⟨volume, hvolume⟩ := @exists_volume σ _ _ htexts
  obtain ⟨names, passes, herror⟩ := inheritance_error hdecls hcyclic
  refine ⟨names, passes, ?_⟩
  rw [analyzeDocument_eq hload, outcome_analyze, hunits, hcomplexity, hvolume, hpolicy, herror]
  rfl

/-- Otherwise there is an analysis, and it is consistent. -/
theorem analyzeDocument_ok (hpolicy : ¬(settings.cyclePolicy = .fail ∧ Cyclic decls)) :
    ∃ analysis : Analysis Nat σ Num, (analyzeDocument document settings).outcome = .ok analysis ∧
      analysis.IsConsistent := by
  obtain ⟨units, hunits⟩ := @exists_units σ _ _ _ hkeys hload htexts (Parents.of root) settings.workers
  obtain ⟨hconsistent, horder⟩ := units_consistent hkeys hload hunits
  obtain ⟨complexity, hcomplexity⟩ := exists_complexity fun n hn => hasTextAttrs_of_hasTexts (htexts n hn)
  obtain ⟨volume, hvolume⟩ := @exists_volume σ _ _ htexts
  obtain ⟨depth, hdepth, -⟩ := inheritance_ok hdecls hpolicy
  rw [analyzeDocument_eq hload]
  exact ⟨_, analyze_eq_ok hunits horder hcomplexity hvolume hdepth,
    Analysis.isConsistent_ofCounts hconsistent horder (one_le_complexity hcomplexity) root.logicalLines
      (Maintainability.index volume complexity root.logicalLines) depth root.classCount⟩

end Documents

end CodeMetrics
