import CodeMetrics.Proofs.Analysis.Success
import CodeMetrics.Proofs.Calculators.Counts
import CodeMetrics.Proofs.Calculators.Tokens
import CodeMetrics.Proofs.Parents

/-!
# What metrics come from

The metrics of a file come from its tree and those of a unit from its body, by the same calculators: lines and complexity
are counted, and the index is that of these and of the tokens. Bodies are parts of the tree, so no unit counts more than
the file, but for the line of a body that is an expression.

* `Node.parts_of_analyze`, `Node.counts_of_bodyMetrics` — metrics and counts
* `exists_counts_of_analyzeDocument` — the metrics of a document
* `Node.isWithin_of_mem` — a unit and the file
* `Node.unitBody_unique` — units have bodies of their own
* `Node.sum_complexity_le` — units side by side
* `exists_unitsWithin` — all units and the file
-/

namespace CodeMetrics

open Node

variable {σ : Type} [Scalar σ]

/-- The index of metrics is that of their complexity and lines and of some tokens. -/
def Metrics.IsIndexedBy (metrics : Metrics Nat σ) (counts : Halstead) : Prop :=
  metrics.maintainabilityIndex
    = Scalar.finiteOrZero (Maintainability.index counts.volume metrics.cyclomaticComplexity metrics.linesOfCode)

/-! ## Files -/

omit [Scalar σ] in
theorem Analysis.eq_of_of {metrics : Metrics Nat σ} {units : List (CodeUnit Nat σ Num)} {analysis : Analysis Nat σ Num}
    (h : Analysis.of countValue Value.ofNum metrics units = .ok analysis) : analysis = ⟨metrics, units⟩ := by
  unfold Analysis.of at h
  split at h
  · cases h
  · split at h
    · cases h
      rfl
    · cases h
    · cases h

theorem Node.exists_halstead_of_volume {n : Node} {v : σ} (h : n.volume = .ok v) :
    ∃ counts : Halstead, n.halstead = .ok counts ∧ counts.volume = v := by
  obtain ⟨counts, hcounts, hv⟩ := Outcome.bind_eq_ok.mp h
  exact ⟨counts, hcounts, Except.ok.inj hv⟩

/-- What the metrics of a file come from. -/
theorem Node.parts_of_analyze {n : Node} {settings : Settings} {parents : Parents} {analysis : Analysis Nat σ Num}
    (h : (n.analyze settings parents).outcome = .ok analysis) :
    (n.units parents settings.workers).outcome = .ok analysis.units ∧
    n.complexity = .ok analysis.metrics.cyclomaticComplexity ∧ analysis.metrics.linesOfCode = n.logicalLines ∧
    ∃ counts, n.halstead = .ok counts ∧ analysis.metrics.IsIndexedBy counts := by
  rw [outcome_analyze] at h
  obtain ⟨units, hunits, h⟩ := Outcome.bind_eq_ok.mp h
  obtain ⟨complexity, hcomplexity, h⟩ := Outcome.bind_eq_ok.mp h
  obtain ⟨volume, hvolume, h⟩ := Outcome.bind_eq_ok.mp h
  obtain ⟨⟨classes, depth⟩, -, h⟩ := Outcome.bind_eq_ok.mp h
  obtain ⟨counts, hcounts, rfl⟩ := exists_halstead_of_volume hvolume
  cases Analysis.eq_of_of h
  exact ⟨hunits, hcomplexity, rfl, counts, hcounts, rfl⟩

/-! ## Units -/

/-- The lines of a body: an expression counts as a line of its own. -/
def Node.bodyLines (b : Node) : Nat := if b.kind = .blockStatement then b.logicalLines else b.logicalLines + 1

/-- What the metrics of a unit come from. -/
theorem Node.counts_of_bodyMetrics {body : Option Node} {metrics : Metrics Nat σ} (h : bodyMetrics body = .ok metrics) :
    ∃ counts, metrics.IsIndexedBy counts ∧
      ((body = none ∧ counts = .empty ∧ metrics.cyclomaticComplexity = 1 ∧ metrics.linesOfCode = 0) ∨
        ∃ b, body = some b ∧ b.halstead = .ok counts ∧ b.complexity = .ok metrics.cyclomaticComplexity ∧
          metrics.linesOfCode = b.bodyLines) := by
  cases body with
  | none =>
    cases h
    exact ⟨.empty, rfl, .inl ⟨rfl, rfl, rfl, rfl⟩⟩
  | some b =>
    obtain ⟨complexity, hcomplexity, h⟩ := Outcome.bind_eq_ok.mp h
    obtain ⟨volume, hvolume, h⟩ := Outcome.bind_eq_ok.mp h
    obtain ⟨counts, hcounts, rfl⟩ := exists_halstead_of_volume hvolume
    cases h
    exact ⟨counts, rfl, .inr ⟨b, rfl, hcounts, hcomplexity, rfl⟩⟩

/-- Every unit of a tree is measured on some body. -/
theorem exists_bodyMetrics_of_mem_units {n : Node} {parents : Parents} {workers : Option Num}
    {units : List (CodeUnit Nat σ Num)} (h : (n.units parents workers).outcome = .ok units) {u : CodeUnit Nat σ Num}
    (hu : u ∈ units) : ∃ body, bodyMetrics body = .ok u.metrics := by
  rw [outcome_units, Outcome.bind_eq_ok] at h
  obtain ⟨measured, hmeasured, hsorted⟩ := h
  cases hsorted
  obtain ⟨c, -, hc⟩ := Outcome.exists_of_forall₂_right (Outcome.mapM_eq_ok.mp hmeasured) ((sortUnits_perm _).subset hu)
  obtain ⟨metrics, hmetrics, hunit⟩ := Outcome.bind_eq_ok.mp hc
  cases hunit
  exact ⟨_, hmetrics⟩

/-- An analysis that is returned is that of a tree. -/
theorem exists_load_of_analyzeDocument {document : Value} {settings : Settings}
    {analysis : Analysis Nat σ Num} (h : (analyzeDocument document settings).outcome = .ok analysis) :
    ∃ root, (load document).outcome = .ok root ∧ (root.analyze settings (Parents.of root)).outcome = .ok analysis := by
  rw [analyzeDocument, Traced.outcome_bind] at h
  exact Outcome.bind_eq_ok.mp h

/-- All metrics of an analysis are indexed by some tokens, of which there are no more distinct ones than all. -/
theorem exists_counts_of_analyzeDocument {document : Value} {settings : Settings}
    {analysis : Analysis Nat σ Num} (h : (analyzeDocument document settings).outcome = .ok analysis)
    {metrics : Metrics Nat σ} (hmetrics : metrics ∈ analysis.metrics :: analysis.units.map CodeUnit.metrics) :
    ∃ counts, counts.vocabulary ≤ counts.length ∧ metrics.IsIndexedBy counts ∧ 1 ≤ metrics.cyclomaticComplexity := by
  obtain ⟨root, -, hroot⟩ := exists_load_of_analyzeDocument h
  obtain ⟨hunits, hcomplexity, -, counts, hcounts, hindex⟩ := parts_of_analyze hroot
  rcases List.mem_cons.mp hmetrics with rfl | hmem
  · exact ⟨counts, vocabulary_le_length hcounts, hindex, one_le_complexity hcomplexity⟩
  · obtain ⟨u, hu, rfl⟩ := List.mem_map.mp hmem
    obtain ⟨body, hbody⟩ := exists_bodyMetrics_of_mem_units hunits hu
    have hone := (bodyMetrics_spec hbody).complexity
    obtain ⟨own, hindex', ⟨-, rfl, -⟩ | ⟨b, -, hown, -⟩⟩ := counts_of_bodyMetrics hbody
    · exact ⟨.empty, Nat.le_refl 0, hindex', hone⟩
    · exact ⟨own, vocabulary_le_length hown, hindex', hone⟩

/-! ## Units in a file -/

/-- A unit counts no more than the file it is in, given the tokens of the file. -/
structure IsWithin (file : Metrics Nat σ) (counts : Halstead) (body : Option Node) (unit : Metrics Nat σ) : Prop where
  one_le_complexity : 1 ≤ unit.cyclomaticComplexity
  complexity : unit.cyclomaticComplexity ≤ file.cyclomaticComplexity
  lines : (∀ b ∈ body, b.kind = .blockStatement) → unit.linesOfCode ≤ file.linesOfCode
  lines_succ : unit.linesOfCode ≤ file.linesOfCode + 1
  tokens : ∀ b ∈ body, ∃ own, b.halstead = .ok own ∧ own.AtMost counts

namespace Node

variable {root : Node} (hdistinct : root.IsDistinct)

include hdistinct

section Measured

variable {file : Metrics Nat σ} {counts : Halstead} (hcomplexity : root.complexity = .ok file.cyclomaticComplexity)
  (hlines : file.linesOfCode = root.logicalLines) (hcounts : root.halstead = .ok counts)

include hcomplexity hlines hcounts

/-- A body that is part of a tree counts no more than the tree. -/
theorem isWithin_of_mem {body : Option Node} {unit : Metrics Nat σ} (hbody : ∀ b ∈ body, b ∈ root.preorder)
    (h : bodyMetrics body = .ok unit) : IsWithin file counts body unit := by
  have hpos := (bodyMetrics_spec h).complexity
  obtain ⟨own, -, ⟨rfl, -, hone, hnone⟩ | ⟨b, rfl, hown, hunit, hunitLines⟩⟩ := counts_of_bodyMetrics h
  · refine ⟨hpos, ?_, fun _ => ?_, ?_, nofun⟩
    · rw [hone]
      exact one_le_complexity hcomplexity
    · rw [hnone]
      exact Nat.zero_le _
    · rw [hnone]
      exact Nat.zero_le _
  · have hb := hbody b rfl
    have hle := logicalLines_le_of_mem hdistinct hb
    refine ⟨hpos, ?_, fun hblock => ?_, ?_, ?_⟩
    · rw [(complexity_eq_ok.mp hunit).2, (complexity_eq_ok.mp hcomplexity).2]
      exact Nat.add_le_add_left (paths_le_of_mem hb) 1
    · rw [hunitLines, hlines, bodyLines, if_pos (hblock b rfl)]
      exact hle
    · rw [hunitLines, hlines, bodyLines]
      split <;> omega
    · rintro _ ⟨⟩
      exact ⟨own, hown, halstead_atMost hb hown hcounts⟩

end Measured

/-! ## Bodies -/

/-- A node has one parent. -/
theorem parent_unique {p q c d : Node} (hp : p ∈ root.preorder) (hq : q ∈ root.preorder) (hc : c ∈ p.children)
    (hd : d ∈ q.children) (hid : c.id = d.id) : p = q := by
  have hfind := (Parents.find?_eq_some hdistinct.ids).mpr ⟨hp, c, hc, rfl⟩
  have hfind' := (Parents.find?_eq_some hdistinct.ids).mpr ⟨hq, d, hd, rfl⟩
  rw [hid] at hfind
  exact Option.some.inj (hfind.symm.trans hfind')

/-- A function is that of one unit: a method takes its value. -/
theorem unitFunction_unique {m n f : Node} (hm : m ∈ root.reported false) (hn : n ∈ root.reported false)
    (hfm : m.unitFunction = some f) (hfn : n.unitFunction = some f) : m = n := by
  obtain ⟨hmroot, -, -, hmfree⟩ := (mem_reported_iff hdistinct).mp hm
  obtain ⟨hnroot, -, -, hnfree⟩ := (mem_reported_iff hdistinct).mp hn
  unfold unitFunction at hfm hfn
  split at hfm
  · next hmethod =>
    split at hfn
    · exact parent_unique hdistinct hmroot hnroot (mem_children_of_child hfm) (mem_children_of_child hfn) rfl
    · cases hfn
      -- The other unit would be the value of a method that is reported.
      exact absurd ⟨m, hm, hmethod, hfm⟩ hnfree
  · cases hfm
    split at hfn
    · next hmethod => exact absurd ⟨n, hn, hmethod, hfn⟩ hmfree
    · cases hfn
      rfl

/-- A body is that of one unit. -/
theorem unitBody_unique {m n a b : Node} (hm : m ∈ root.reported false) (hn : n ∈ root.reported false)
    (ha : m.unitBody = some a) (hb : n.unitBody = some b) (hid : a.id = b.id) : m = n := by
  obtain ⟨f, hf, hchild⟩ := Option.bind_eq_some_iff.mp ha
  obtain ⟨g, hg, hchild'⟩ := Option.bind_eq_some_iff.mp hb
  have hfunction : ∀ {k f : Node}, k ∈ root.reported false → k.unitFunction = some f → f ∈ root.preorder := by
    intro k f hk hf
    exact mem_preorder_trans ((sublist_reported root false).subset hk) (mem_preorder_unitFunction hf)
  have hsame : f = g := parent_unique hdistinct (hfunction hm hf) (hfunction hn hg) (mem_children_of_child hchild)
    (mem_children_of_child hchild') hid
  subst hsame
  exact unitFunction_unique hdistinct hm hn hf hg

/-! ## Units side by side -/

/-- Neither of two units has its body inside that of the other. -/
def AreApart (m n : Node) : Prop := ∀ a ∈ m.unitBody, ∀ b ∈ n.unitBody, a ∉ b.preorder ∧ b ∉ a.preorder

omit hdistinct in
theorem sum_complexity_eq {part : List (Node × CodeUnit Nat σ Num)}
    (h : ∀ p ∈ part, bodyMetrics p.1.unitBody = .ok p.2.metrics) :
    (part.map fun p => p.2.metrics.cyclomaticComplexity - 1).sum
      = ((part.filterMap fun p => p.1.unitBody).map paths).sum := by
  induction part with
  | nil => rfl
  | cons p rest ih =>
    have hrest := ih fun q hq => h q (List.mem_cons_of_mem _ hq)
    rw [List.map_cons, List.sum_cons, hrest]
    obtain ⟨own, -, ⟨hnone, -, hone, -⟩ | ⟨b, hsome, -, hb, -⟩⟩ := counts_of_bodyMetrics (h p List.mem_cons_self)
    · simp only [List.filterMap_cons, hnone, hone, Nat.sub_self, Nat.zero_add]
    · simp only [List.filterMap_cons, hsome, List.map_cons, List.sum_cons, (complexity_eq_ok.mp hb).2,
        Nat.add_sub_cancel_left]

/-- Units side by side open no more paths than the tree they are in. -/
theorem sum_complexity_le {k : Nat} (hk : root.complexity = .ok k) {part : List (Node × CodeUnit Nat σ Num)}
    (hroot : ∀ p ∈ part, p.1 ∈ root.preorder) (h : ∀ p ∈ part, bodyMetrics p.1.unitBody = .ok p.2.metrics)
    (hapart : part.Pairwise fun p q => AreApart p.1 q.1) :
    (part.map fun p => p.2.metrics.cyclomaticComplexity - 1).sum ≤ k - 1 := by
  rw [sum_complexity_eq h, (complexity_eq_ok.mp hk).2, Nat.add_sub_cancel_left]
  refine sum_paths_le hdistinct ?_ ?_
  · intro b hb
    obtain ⟨p, hp, hbody⟩ := List.mem_filterMap.mp hb
    exact mem_preorder_trans (hroot p hp) (mem_preorder_unitBody hbody)
  · rw [List.pairwise_filterMap]
    exact hapart.imp fun {p q} hpq a ha b hb => hpq a ha b hb

end Node

/-- The units of an analysis and the file, given the nodes that they are the units of. -/
structure UnitsWithin (root : Node) (nodes : List Node) (analysis : Analysis Nat σ Num) : Prop where
  perm : nodes.Perm (root.reported false)
  /-- No unit counts more than the file, but for the line of an expression. -/
  units : ∃ counts, root.halstead = .ok counts ∧ List.Forall₂ (fun n u => MeasuredAs (Parents.of root) n u ∧
    IsWithin analysis.metrics counts n.unitBody u.metrics) nodes analysis.units
  /-- Units have bodies of their own. -/
  bodies : nodes.Pairwise fun m n => ∀ a ∈ m.unitBody, ∀ b ∈ n.unitBody, a.id ≠ b.id
  /-- Units side by side open no more paths than the file. -/
  apart : ∀ part : List (Node × CodeUnit Nat σ Num), part.Sublist (nodes.zip analysis.units) →
    part.Pairwise (fun p q => AreApart p.1 q.1) →
    (part.map fun p => p.2.metrics.cyclomaticComplexity - 1).sum ≤ analysis.metrics.cyclomaticComplexity - 1

/-- Units of a tree of distinct nodes are within the file. -/
theorem exists_unitsWithin {root : Node} (hdistinct : root.IsDistinct) {settings : Settings}
    {analysis : Analysis Nat σ Num} (h : (root.analyze settings (Parents.of root)).outcome = .ok analysis) :
    ∃ nodes, UnitsWithin root nodes analysis := by
  obtain ⟨hunits, hcomplexity, hlines, counts, hcounts, -⟩ := parts_of_analyze h
  obtain ⟨found, hfound, hsorted⟩ := (units_eq_ok hdistinct).mp hunits
  -- Sorting the units sorts the nodes along with them.
  obtain ⟨nodes, hperm, hmeasured⟩ : ∃ nodes, nodes.Perm (root.reported false) ∧
      List.Forall₂ (MeasuredAs (Parents.of root)) nodes analysis.units := by
    have hcomp : Relation.Comp (List.Forall₂ (MeasuredAs (Parents.of root))) List.Perm (root.reported false) analysis.units :=
      ⟨found, hfound, hsorted ▸ (sortUnits_perm found).symm⟩
    rw [List.forall₂_comp_perm_eq_perm_comp_forall₂] at hcomp
    obtain ⟨nodes, hperm, hmeasured⟩ := hcomp
    exact ⟨nodes, hperm.symm, hmeasured⟩
  have hroot : ∀ n ∈ nodes, n ∈ root.preorder := fun n hn => (sublist_reported root false).subset (hperm.subset hn)
  refine ⟨nodes, hperm, ⟨counts, hcounts, ?_⟩, ?_, fun part hpart hapart => ?_⟩
  · refine Outcome.forall₂_imp_of_mem hmeasured fun n hn u _ hu => ⟨hu, ?_⟩
    exact isWithin_of_mem hdistinct hcomplexity hlines hcounts
      (fun b hb => mem_preorder_trans (hroot n hn) (mem_preorder_unitBody hb)) hu.metrics
  · have hnodup : nodes.Nodup := hperm.nodup_iff.mpr (hdistinct.nodup.sublist (sublist_reported root false))
    refine hnodup.imp_of_mem fun {m n} hm hn hne a ha b hb hid => hne ?_
    exact unitBody_unique hdistinct (hperm.subset hm) (hperm.subset hn) ha hb hid
  · have hpairs : ∀ p ∈ part, p.1 ∈ nodes ∧ MeasuredAs (Parents.of root) p.1 p.2 := fun p hp =>
      ⟨(List.of_mem_zip (hpart.subset hp)).1, (List.forall₂_iff_zip.mp hmeasured).2 (hpart.subset hp)⟩
    exact sum_complexity_le hdistinct hcomplexity (fun p hp => hroot p.1 (hpairs p hp).1)
      (fun p hp => (hpairs p hp).2.metrics) hapart

end CodeMetrics
