import CodeMetrics.Proofs.Analysis.Success
import CodeMetrics.Proofs.Number.Doubles

/-!
# Analysis of a document

What there is to say about the analysis of a document as a whole: which units it lists, when it fails, and what holds of
every analysis that is returned. A document has each of its keys once, as all documents do that are read
(`Json.read_hasDistinctKeys`).

* `units_of_loaded_tree` — the units and their order
* `analysis_of_loaded_tree` — failures, and results without
-/

namespace CodeMetrics

open Node Number

/-! ## Units -/

/-- **The units of a loaded tree are the nodes that are reported, measured on their bodies and sorted stably by first
line**, whatever the parents and however many workers there are. A node is reported if it has lines and is of a unit's
kind, unless it is the value of a method that is reported. -/
theorem units_of_loaded_tree {σ : Type} [Scalar σ] {document : Value} {root : Node} {settings : Settings}
    {analysis : Analysis Nat σ Num} (hkeys : document.hasDistinctKeys) (hload : (load document).outcome = .ok root)
    (hanalysis : (analyzeDocument document settings).outcome = .ok analysis) (parents : Parents)
    (workers : Option Num) :
    (root.reported false).Sublist root.preorder ∧
    (∀ n, n ∈ root.reported false ↔ n ∈ root.preorder ∧ n.span.isSome ∧
      (n.kind = .methodDefinition ∨ n.kind = .functionDeclaration ∨ n.kind = .functionExpression ∨
        n.kind = .arrowFunctionExpression) ∧
      ¬∃ m ∈ root.reported false, m.kind = .methodDefinition ∧ m.child "value" = some n) ∧
    ∃ measured result : List (CodeUnit Nat σ Num),
      List.Forall₂ (MeasuredAs parents) (root.reported false) measured ∧
      (root.units parents workers).outcome = .ok result ∧ StablySorted CodeUnit.startLine measured result := by
  have hdistinct := isDistinct_of_load hkeys hload
  refine ⟨sublist_reported root false, fun n => ?_, ?_⟩
  · rw [mem_reported_iff hdistinct, isUnit_iff]
    simp only [Bool.false_eq_true, false_and, not_false_eq_true, true_and, and_assoc]
  · rw [analyzeDocument_eq hload, analyze, Traced.outcome_bind] at hanalysis
    obtain ⟨units, hunits, -⟩ := Outcome.bind_eq_ok.mp hanalysis
    obtain ⟨own, hown, -⟩ := (units_eq_ok hdistinct).mp hunits
    obtain ⟨measured, hmeasured⟩ := @exists_measuredAs_of_other _ _ _ parents _ _ hown
    have hwhole : ∀ u ∈ measured, u.startLine.IsWhole := by
      intro u hu
      obtain ⟨n, hn, hnu⟩ := Outcome.exists_of_forall₂_right hmeasured hu
      obtain ⟨span, hspan, hstart, -⟩ := hnu.lines
      rw [hstart]
      exact (isWhole_of_load hkeys hload ((sublist_reported root false).subset hn) hspan).1
    exact ⟨measured, sortUnits measured, hmeasured, (units_eq_ok hdistinct).mpr ⟨measured, hmeasured, rfl⟩,
      stablySorted_sortUnits hwhole⟩

/-- A class that extends itself, with a method that makes an arrow function, and a function that stands above it. -/
def classDocument : Value :=
  let lines (start stop : Int) : String × Value :=
    ("loc", .object [("start", .object [("line", .int start)]), ("end", .object [("line", .int stop)])])
  let named (name : String) : Value := .object [("type", .str "Identifier"), ("name", .str name)]
  let arrow : Value :=
    .object
      [ ("type", .str "ArrowFunctionExpression"), lines 3 3,
        ("body", .object [("type", .str "Literal"), ("value", .str "x")]) ]
  let method : Value :=
    .object
      [ ("type", .str "MethodDefinition"), lines 3 4, ("key", named "make"),
        ("value", .object [("type", .str "FunctionExpression"), lines 3 4, ("body", arrow)]) ]
  .object
    [ ("type", .str "Program"),
      ("body", .list
        [ .object [("type", .str "ClassDeclaration"), ("id", named "A"), ("superClass", named "A"), ("body", method)],
          .object [("type", .str "FunctionDeclaration"), lines 1 1, ("id", named "f"), ("body", .null)] ]) ]

def classTree : Node :=
  let named (id : Nat) (name : String) : Slot Node :=
    .one ⟨id, .identifier, "Identifier", none, [], [("name", .str name)]⟩
  let arrow : Node :=
    ⟨7, .arrowFunctionExpression, "ArrowFunctionExpression", Span.of? (.int 3) (.int 3),
      [("body", .one ⟨8, .literal, "Literal", none, [], [("value", .str "x")]⟩)], []⟩
  let method : Node :=
    ⟨5, .methodDefinition, "MethodDefinition", Span.of? (.int 3) (.int 4),
      [ ("key", named 9 "make"),
        ("value", .one ⟨6, .functionExpression, "FunctionExpression", Span.of? (.int 3) (.int 4),
          [("body", .one arrow)], []⟩) ], []⟩
  ⟨1, .program, "Program", none,
    [ ("body", .many
      [ some ⟨4, .classDeclaration, "ClassDeclaration", none,
          [("id", named 11 "A"), ("superClass", named 10 "A"), ("body", .one method)], []⟩,
        some ⟨2, .functionDeclaration, "FunctionDeclaration", Span.of? (.int 1) (.int 1),
          [("id", named 3 "f"), ("body", .absent)], []⟩ ]) ], []⟩

theorem load_classDocument : (load classDocument).outcome = .ok classTree := by
  rw [load_eq (by decide)]
  rfl

theorem hasTexts_classTree : ∀ n ∈ classTree.preorder, n.hasTexts = true := by decide

theorem typeDecls_classTree : classTree.typeDecls = .ok ([⟨"A", ["A"]⟩].map (TypeDecl.map Value.str)) := by
  rw [typeDecls, walk_eq]
  rfl

theorem exists_analyze_classDocument : ∃ analysis : Measured,
    (analyzeDocument classDocument Settings.default).outcome = .ok analysis := by
  obtain ⟨analysis, hanalysis, -⟩ := @analyzeDocument_ok Float _ _ _ _ Settings.default (by decide) load_classDocument
    hasTexts_classTree typeDecls_classTree nofun
  exact ⟨analysis, hanalysis⟩

theorem cyclic_classTree : Inheritance.Cyclic [(⟨"A", ["A"]⟩ : TypeDecl String)] :=
  ⟨"A", .single ⟨_, List.mem_singleton_self _, rfl, List.mem_singleton_self _⟩⟩

theorem analyze_classDocument_fail : ∃ names passes,
    (analyzeDocument classDocument { Settings.default with cyclePolicy := .fail } : Traced Measured).outcome
      = .error (.problem (.inheritanceCycle names passes)) :=
  analyzeDocument_error (by decide) load_classDocument hasTexts_classTree typeDecls_classTree rfl cyclic_classTree

theorem units_of_classTree : (classTree.reported false).map Node.id = [5, 7, 2] ∧
    ∃ measured result : List (CodeUnit Nat Float Num),
      List.Forall₂ (MeasuredAs (Parents.of classTree)) (classTree.reported false) measured ∧
      (classTree.units (Parents.of classTree) (some (.int 4))).outcome = .ok result ∧
      StablySorted CodeUnit.startLine measured result := by
  obtain ⟨analysis, hanalysis, -⟩ := @analyzeDocument_ok Float _ _ _ _ Settings.default (by decide) load_classDocument
    hasTexts_classTree typeDecls_classTree nofun
  exact ⟨rfl, (units_of_loaded_tree (by decide) load_classDocument hanalysis _ _).2.2⟩

/-! ## Averages -/

theorem Scalar.finiteOrZero_ratio {c m : Nat} (hc : c < 2 ^ 53) (hm : 0 < m) :
    Scalar.finiteOrZero (Scalar.ratio c m : Float) = nearest false c m := by
  refine if_pos (isFinite_nearest ?_ hm)
  rcases Nat.eq_zero_or_pos c with rfl | hpos
  · decide
  · exact ((Nat.log2_lt hpos.ne').mpr hc).trans (by decide)

theorem Num.same_nearest {c : Nat} (h : c < 2 ^ 53) : (Num.float (nearest false c 1)).same (.int c) = true := by
  simp [Num.same, Num.exact, exact_nearest h, Exact.same]

/-- Averages in doubles, which hold all counts below `2^53`. -/
structure Measured.HasExactAverages (a : Measured) : Prop where
  /-- The average of a file is its quotient, rounded once. -/
  file : a.units ≠ [] → a.metrics.cyclomaticComplexity < 2 ^ 53 →
    a.metrics.averageMethodComplexity = nearest false a.metrics.cyclomaticComplexity a.metrics.methodCount
  file_none : a.units = [] → (Num.float a.metrics.averageMethodComplexity).same (.int 0) = true
  /-- The average of a unit is its complexity. -/
  units : ∀ u ∈ a.units, u.metrics.cyclomaticComplexity < 2 ^ 53 →
    (Num.float u.metrics.averageMethodComplexity).same (.int u.metrics.cyclomaticComplexity) = true

theorem Measured.hasExactAverages {a : Measured} (h : a.IsConsistent) : a.HasExactAverages where
  file hunits hlt := by
    rw [h.average hunits, h.methodCount]
    exact Scalar.finiteOrZero_ratio hlt (List.length_pos_of_ne_nil hunits)
  file_none hunits := by
    rw [h.average_none hunits]
    exact Num.same_nearest (Nat.pow_pos two_pos)
  units u hu hlt := by
    rw [(h.units u hu).metrics.average, Scalar.ofNat, Scalar.finiteOrZero_ratio hlt one_pos]
    exact Num.same_nearest hlt

/-! ## Results and failures -/

/-- The types of a tree are in a cycle. Their names are texts. -/
def Node.HasCyclicTypes (n : Node) : Prop :=
  ∃ decls : List (TypeDecl String), n.typeDecls = .ok (decls.map (TypeDecl.map Value.str)) ∧ Inheritance.Cyclic decls

/-- **An analysis fails only over a cycle among the types, and only if that is the policy.** In all other cases there is
an analysis, whatever the settings: its method count is that of its units, which are in order of their first lines, and
its units are ranges of lines with the metrics of one method each. Counts are natural numbers throughout. -/
theorem analysis_of_loaded_tree {document : Value} {root : Node} (hkeys : document.hasDistinctKeys)
    (hload : (load document).outcome = .ok root) (htexts : ∀ n ∈ root.preorder, n.hasTexts = true)
    (settings : Settings) :
    ((settings.cyclePolicy = .fail ∧ root.HasCyclicTypes) ∧
      ∃ names passes, (analyzeDocument document settings : Traced Measured).outcome
        = .error (.problem (.inheritanceCycle names passes))) ∨
    (¬(settings.cyclePolicy = .fail ∧ root.HasCyclicTypes) ∧
      ∃ analysis : Measured, (analyzeDocument document settings).outcome = .ok analysis ∧
        analysis.IsConsistent ∧ analysis.HasExactAverages) := by
  obtain ⟨decls, hdecls⟩ := exists_typeDecls_of_load hkeys hload htexts
  by_cases hcycle : settings.cyclePolicy = .fail ∧ root.HasCyclicTypes
  · obtain ⟨hpolicy, others, hothers, hcyclic⟩ := hcycle
    exact .inl ⟨⟨hpolicy, others, hothers, hcyclic⟩, analyzeDocument_error hkeys hload htexts hothers hpolicy hcyclic⟩
  · refine .inr ⟨hcycle, ?_⟩
    obtain ⟨analysis, hanalysis, hconsistent⟩ := @analyzeDocument_ok Float _ _ _ _ settings hkeys hload htexts hdecls
      fun h => hcycle ⟨h.1, decls, hdecls, h.2⟩
    exact ⟨analysis, hanalysis, hconsistent, Measured.hasExactAverages hconsistent⟩

/-- The class that extends itself is refused under one policy and measured under the other. -/
theorem analysis_of_classTree :
    (∃ names passes, (analyzeDocument classDocument { Settings.default with cyclePolicy := .fail }
      : Traced Measured).outcome = .error (.problem (.inheritanceCycle names passes))) ∧
    ∃ analysis : Measured, (analyzeDocument classDocument Settings.default).outcome = .ok analysis ∧
      analysis.IsConsistent ∧ analysis.HasExactAverages := by
  have hcyclic : classTree.HasCyclicTypes :=
    ⟨_, typeDecls_classTree, "A", .single ⟨_, List.mem_singleton_self _, rfl, List.mem_singleton_self _⟩⟩
  have hresult := analysis_of_loaded_tree (by decide) load_classDocument hasTexts_classTree
  constructor
  · rcases hresult { Settings.default with cyclePolicy := .fail } with ⟨-, herror⟩ | ⟨hnot, -⟩
    · exact herror
    · exact absurd ⟨rfl, hcyclic⟩ hnot
  · rcases hresult Settings.default with ⟨⟨hpolicy, -⟩, -⟩ | ⟨-, hanalysis⟩
    · cases hpolicy
    · exact hanalysis

end CodeMetrics
