import CodeMetrics.Metrics.Analysis
import CodeMetrics.Proofs.Loading.Tree
import CodeMetrics.Proofs.Outcome
import CodeMetrics.Proofs.Units.Order
import CodeMetrics.Proofs.Units.Reported

/-!
# The units of a loaded tree

There is one unit for each node that is reported, measured on the body of its function, and the list of them is sorted
stably by first line. Neither the parents, which only give names, nor the number of workers has a part in which units
there are and how they measure.

* `Node.isWhole_of_load` — lines of a loaded tree are whole numbers
* `units_eq_ok` — the units of a tree of distinct nodes
* `exists_measuredAs_of_other` — units under other parents
-/

namespace CodeMetrics

open Node

/-! ## Lines -/

theorem Loader.isWhole_of_line? {v : Option Value} {a : Num} (h : v.bind Loader.line? = some a) : a.IsWhole := by
  obtain ⟨w, -, hline⟩ := Option.bind_eq_some_iff.mp h
  cases w with
  | int n =>
    cases hline
    rfl
  | bool b =>
    cases hline
    rfl
  | _ => cases hline

/-- Lines of a loaded tree are whole numbers. -/
theorem Node.isWhole_of_load {document : Value} {root n : Node} {span : Span} (hkeys : document.hasDistinctKeys)
    (h : (load document).outcome = .ok root) (hn : n ∈ root.preorder) (hspan : n.span = some span) :
    span.start.IsWhole ∧ span.stop.IsWhole := by
  obtain ⟨members, -, hrenders⟩ := exists_renders_of_load hkeys h hn
  have hgives := hrenders.span
  rw [hspan] at hgives
  obtain ⟨loc, -, -, hstart, hstop⟩ := hgives
  exact ⟨Loader.isWhole_of_line? hstart, Loader.isWhole_of_line? hstop⟩

/-! ## Measuring -/

section Measuring

variable {σ : Type} [Scalar σ]

/-- A unit is that of a node: it has its kind, its lines and its name, and the metrics of its body. -/
structure MeasuredAs (parents : Parents) (n : Node) (u : CodeUnit Nat σ Num) : Prop where
  kind : u.kind = if n.kind = .methodDefinition then .method
    else if n.kind = .arrowFunctionExpression then .arrow else .function
  lines : ∃ span, n.span = some span ∧ u.startLine = span.start ∧ u.endLine = span.stop
  name : u.name = n.unitName parents
  metrics : bodyMetrics n.unitBody = .ok u.metrics

/-- Several workers measure what one does. -/
theorem measureAll_eq (workers : Option Num) (found : List Candidate) :
    (measureAll workers found : Except Error (List (CodeUnit Nat σ Num))) = found.mapM Candidate.measure := by
  unfold measureAll
  split
  · rw [List.mapM_map]
    rfl
  · rfl

theorem outcome_units (n : Node) (parents : Parents) (workers : Option Num) :
    (n.units parents workers : Traced (List (CodeUnit Nat σ Num))).outcome
      = (n.candidates parents).mapM Candidate.measure >>= fun measured => .ok (sortUnits measured) := by
  simp only [Node.units, Traced.outcome_bind, Traced.outcome_note, Traced.outcome_lift, Traced.outcome_pure,
    measureAll_eq]
  rfl

theorem unitKind_eq (n : Node) : n.unitKind = if n.kind = .methodDefinition then .method
    else if n.kind = .arrowFunctionExpression then .arrow else .function := by
  unfold unitKind
  split
  · next h => rw [if_pos h]
  · next h => rw [h]; rfl
  · next h h' => rw [if_neg h, if_neg h']

theorem unitName_eq (n : Node) (parents : Parents) : n.unitName parents =
    if n.kind = .functionDeclaration then Value.orElse (identifierName? (n.child "id")) anonymousName
    else if n.kind = .methodDefinition then n.methodName
    else (parents.find? n.id).elim n.placeholderName fun p =>
      if p.kind = .variableDeclarator then (identifierName? (p.child "id")).getD n.placeholderName
      else if p.kind = .methodDefinition then p.methodName else n.placeholderName := by
  unfold unitName
  split
  · next h => rw [if_pos h]
  · next h => rw [h]; rfl
  · next h h' =>
    rw [if_neg h, if_neg h']
    split
    · next hparent => rw [hparent]; rfl
    · next p hparent =>
      rw [hparent, Option.elim_some]
      split
      · next hp => rw [if_pos hp]
      · next hp => rw [hp]; rfl
      · next hp hp' => rw [if_neg hp, if_neg hp']

theorem measure_ofNode {parents : Parents} {n : Node} {c : Candidate} (hnode : Candidate.ofNode? parents n = some c)
    {u : CodeUnit Nat σ Num} : c.measure = .ok u ↔ MeasuredAs parents n u := by
  obtain ⟨span, hspan, rfl⟩ := Option.map_eq_some_iff.mp hnode
  rw [Candidate.measure, Outcome.bind_eq_ok]
  constructor
  · rintro ⟨metrics, hmetrics, hu⟩
    cases hu
    exact ⟨unitKind_eq n, ⟨span, hspan, rfl, rfl⟩, rfl, hmetrics⟩
  · rintro ⟨hkind, ⟨span', hspan', hstart, hstop⟩, hname, hmetrics⟩
    refine ⟨u.metrics, hmetrics, ?_⟩
    rw [hspan] at hspan'
    cases hspan'
    rw [unitKind_eq, ← hkind, ← hname, ← hstart, ← hstop]
    rfl

/-- Nodes with lines are measured one by one. -/
theorem mapM_measure {parents : Parents} {nodes : List Node} {measured : List (CodeUnit Nat σ Num)}
    (hspans : ∀ n ∈ nodes, n.span.isSome) :
    (nodes.filterMap (Candidate.ofNode? parents)).mapM Candidate.measure = .ok measured
      ↔ List.Forall₂ (MeasuredAs parents) nodes measured := by
  rw [Outcome.mapM_eq_ok]
  induction nodes generalizing measured with
  | nil => simp
  | cons n rest ih =>
    obtain ⟨span, hspan⟩ := Option.isSome_iff_exists.mp (hspans n List.mem_cons_self)
    have hnode : Candidate.ofNode? parents n = some ⟨n.unitName parents, n.unitKind, span, n.unitFunction⟩ := by
      rw [Candidate.ofNode?, hspan]
      rfl
    have hrest := fun {us : List (CodeUnit Nat σ Num)} =>
      @ih us fun m hm => hspans m (List.mem_cons_of_mem _ hm)
    rw [List.filterMap_cons_some hnode]
    constructor
    · rintro (_ | ⟨hu, hus⟩)
      exact .cons ((measure_ofNode hnode).mp hu) (hrest.mp hus)
    · rintro (_ | ⟨hu, hus⟩)
      exact .cons ((measure_ofNode hnode).mpr hu) (hrest.mpr hus)

theorem isSome_span_of_reported {n : Node} (h : n.IsDistinct) : ∀ m ∈ n.reported false, m.span.isSome := by
  intro m hm
  obtain ⟨-, hunit, -⟩ := (mem_reported_iff h).mp hm
  exact (Bool.and_eq_true_iff.mp hunit).1

theorem units_eq_ok {n : Node} (h : n.IsDistinct) {parents : Parents} {workers : Option Num}
    {result : List (CodeUnit Nat σ Num)} :
    (n.units parents workers).outcome = .ok result
      ↔ ∃ measured, List.Forall₂ (MeasuredAs parents) (n.reported false) measured ∧ sortUnits measured = result := by
  rw [outcome_units, candidates_eq h, Outcome.bind_eq_ok]
  simp only [mapM_measure (isSome_span_of_reported h), Except.ok.injEq]

/-- Nodes with lines make units if their bodies can be measured. -/
theorem exists_measuredAs {parents : Parents} {nodes : List Node} (hspans : ∀ n ∈ nodes, n.span.isSome) :
    (∃ measured : List (CodeUnit Nat σ Num), List.Forall₂ (MeasuredAs parents) nodes measured)
      ↔ ∀ n ∈ nodes, ∃ metrics : Metrics Nat σ, bodyMetrics n.unitBody = .ok metrics := by
  constructor
  · rintro ⟨measured, hforall⟩ n hn
    obtain ⟨u, -, hu⟩ := Outcome.exists_of_forall₂_left hforall hn
    exact ⟨u.metrics, hu.metrics⟩
  · intro hall
    induction nodes with
    | nil => exact ⟨[], .nil⟩
    | cons n rest ih =>
      obtain ⟨measured, hrest⟩ := ih (fun m hm => hspans m (List.mem_cons_of_mem _ hm))
        fun m hm => hall m (List.mem_cons_of_mem _ hm)
      obtain ⟨span, hspan⟩ := Option.isSome_iff_exists.mp (hspans n List.mem_cons_self)
      obtain ⟨metrics, hmetrics⟩ := hall n List.mem_cons_self
      exact ⟨⟨n.unitName parents, n.unitKind, span.start, span.stop, metrics⟩ :: measured,
        .cons ⟨unitKind_eq n, ⟨span, hspan, rfl, rfl⟩, rfl, hmetrics⟩ hrest⟩

/-- There are units if all bodies can be measured. -/
theorem exists_units_iff {n : Node} (h : n.IsDistinct) {parents : Parents} {workers : Option Num} :
    (∃ units : List (CodeUnit Nat σ Num), (n.units parents workers).outcome = .ok units)
      ↔ ∀ m ∈ n.reported false, ∃ metrics : Metrics Nat σ, bodyMetrics m.unitBody = .ok metrics := by
  refine Iff.trans ?_ (@exists_measuredAs _ _ parents _ (isSome_span_of_reported h))
  simp only [units_eq_ok h]
  exact ⟨fun ⟨_, measured, hforall, _⟩ => ⟨measured, hforall⟩, fun ⟨measured, hforall⟩ => ⟨_, measured, hforall, rfl⟩⟩

/-- Bodies that fail for one reason make the units fail for that reason. -/
theorem endsIn_units {n : Node} (h : n.IsDistinct) {e : Error} {parents : Parents} {workers : Option Num}
    (hbodies : ∀ m ∈ n.reported false, Outcome.EndsIn e (bodyMetrics m.unitBody : Except Error (Metrics Nat σ))) :
    Outcome.EndsIn e (n.units parents workers : Traced (List (CodeUnit Nat σ Num))).outcome := by
  rw [outcome_units, candidates_eq h]
  refine (Outcome.EndsIn.mapM fun c hc => ?_).bind fun measured => .inl ⟨_, rfl⟩
  obtain ⟨m, hm, hnode⟩ := List.mem_filterMap.mp hc
  obtain ⟨span, -, rfl⟩ := Option.map_eq_some_iff.mp hnode
  exact (hbodies m hm).bind fun metrics => .inl ⟨_, rfl⟩

/-- Other parents give a unit another name and nothing else. -/
theorem MeasuredAs.named {p : Parents} {n : Node} {u : CodeUnit Nat σ Num} (h : MeasuredAs p n u) (q : Parents) :
    MeasuredAs q n { u with name := n.unitName q } := ⟨h.kind, h.lines, rfl, h.metrics⟩

theorem exists_measuredAs_of_other {p q : Parents} {nodes : List Node} {measured : List (CodeUnit Nat σ Num)}
    (h : List.Forall₂ (MeasuredAs p) nodes measured) :
    ∃ others : List (CodeUnit Nat σ Num), List.Forall₂ (MeasuredAs q) nodes others := by
  induction h with
  | nil => exact ⟨[], .nil⟩
  | @cons n u _ _ hu _ ih =>
    obtain ⟨others, hothers⟩ := ih
    exact ⟨{ u with name := n.unitName q } :: others, .cons (hu.named q) hothers⟩

end Measuring

/-! ## Loaded trees -/

theorem Node.isUnit_iff (n : Node) : n.isUnit = true ↔ n.span.isSome ∧ (n.kind = .methodDefinition ∨
    n.kind = .functionDeclaration ∨ n.kind = .functionExpression ∨ n.kind = .arrowFunctionExpression) := by
  unfold isUnit
  cases n.kind <;> simp [Kind.isFunction]

theorem analyzeDocument_eq {σ : Type} [Scalar σ] {document : Value} {root : Node}
    (h : (load document).outcome = .ok root) (settings : Settings) :
    (analyzeDocument document settings : Traced (Analysis Nat σ Num)).outcome
      = (root.analyze settings (Parents.of root)).outcome := by
  rw [analyzeDocument, Traced.outcome_bind, h]
  rfl

end CodeMetrics
