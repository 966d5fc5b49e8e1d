import CodeMetrics.Proofs.Analysis.Documents
import CodeMetrics.Proofs.Analysis.Parts
import CodeMetrics.Proofs.Calculators.Maintainability

/-!
# Bounds on an analysis

Numbers of an analysis that is returned, on doubles with given logarithms (`Scalar.doubles`). Every index lies between 0
and 100, though the formula does not see to that from above, and no unit measures more than the file it is in.

* `maintainability_between` — indices
* `units_within_file` — units and the file
-/

namespace CodeMetrics

open Node Number

variable {ln log2 : Float → Float}

/-! ## Indices -/

/-- The index of metrics is the score of their counts. -/
theorem index_eq_pointsOf (hlogs : MonotoneLogs ln log2) {metrics : Metrics Nat Float} {counts : Halstead}
    (hle : counts.vocabulary ≤ counts.length) (h : @Metrics.IsIndexedBy Float (.doubles ln log2) metrics counts) :
    metrics.maintainabilityIndex = Maintainability.pointsOf ln log2 counts.vocabulary counts.length
      metrics.cyclomaticComplexity metrics.linesOfCode := by
  rw [h, Maintainability.index_volume hlogs hle]
  exact Maintainability.finiteOrZero_of_between (Maintainability.pointsOf_between hlogs hle _ _)

/-- **Maintainability indices lie between 0 and 100**, those of files and those of units. The formula by itself does not
see to that: a volume below 1 can have an index over 100. But there is no volume between 0 and 2, there is no complexity
below 1, and there are no lines or one at least. More than `2^1023` tokens are more than doubles can count. -/
theorem maintainability_between (hlogs : MonotoneLogs ln log2) :
    (∀ (document : Value) (settings : Settings) (analysis : Measured),
      (@analyzeDocument Float (.doubles ln log2) document settings).outcome = .ok analysis →
      ∀ metrics ∈ analysis.metrics :: analysis.units.map CodeUnit.metrics,
        0 ≤ metrics.maintainabilityIndex ∧ metrics.maintainabilityIndex ≤ 100 ∧ 1 ≤ metrics.cyclomaticComplexity) ∧
    (∀ (n : Node) (counts : Halstead), n.halstead = .ok counts →
      let volume := @Halstead.volume Float (.doubles ln log2) counts
      (0 < volume → 2 ≤ volume) ∧ (counts.length ≤ 2 ^ 1023 → volume = 0 ∨ 2 ≤ volume)) ∧
    (∀ (n : Node) (k : Nat), n.complexity = .ok k → 1 ≤ k) ∧
    (∀ n : Node, let lines : Float := Scalar.ofNat n.logicalLines; lines = 0 ∨ 1 ≤ lines) ∧
    ∀ volume : Float, 0 < volume → -1000 ≤ ln volume → ln volume ≤ -1 →
      volume < 1 ∧ 100 < @Maintainability.index Float (.doubles ln log2) volume 1 1 := by
  refine ⟨fun document settings analysis hanalysis metrics hmetrics => ?_, fun n counts hcounts => ?_,
    fun n k => one_le_complexity, fun n => ?_, fun volume hpos hlow hhigh => ⟨?_, ?_⟩⟩
  · let := Scalar.doubles ln log2
    obtain ⟨counts, hle, hindex, hcomplexity⟩ := exists_counts_of_analyzeDocument hanalysis hmetrics
    obtain ⟨hlow, hhigh⟩ := Maintainability.pointsOf_between hlogs hle metrics.cyclomaticComplexity metrics.linesOfCode
    rw [index_eq_pointsOf hlogs hle hindex]
    exact ⟨hlow, hhigh, hcomplexity⟩
  · have hle := vocabulary_le_length hcounts
    intro volume
    have hvolume : volume = Halstead.volumeOf log2 counts.vocabulary counts.length := Halstead.volume_eq ln log2 counts
    rw [hvolume]
    -- One distinct token makes no volume, and two make 2 at least.
    rcases Halstead.volumeOf_cases hlogs hle with ⟨-, hnot, hzero⟩ | ⟨-, htwo⟩
    · exact ⟨fun hpos => absurd hpos hnot, fun hlength => .inl (hzero hlength)⟩
    · exact ⟨fun _ => htwo, fun _ => .inr htwo⟩
  · rcases Nat.eq_zero_or_pos n.logicalLines with hzero | hpos
    · rw [hzero]
      exact .inl zero_eq.symm
    · exact .inr (one_le_ofNat hpos)
  · exact hlogs.lt_one_of_ln_neg hpos hhigh
  · exact Maintainability.lt_index hlogs hpos hlow hhigh

/-! ## Sampled logarithms -/

/-- A function that goes up in steps: it has each value below its bound, and the last one beyond all bounds. -/
def stepped : List (Float × Float) → Float → Float → Float
  | [], top, _ => top
  | (bound, y) :: rest, top, x => if x < bound then y else stepped rest top x

theorem le_stepped {a top : Float} {steps : List (Float × Float)} (h : ∀ y ∈ steps.map (·.2) ++ [top], a ≤ y) (x : Float) :
    a ≤ stepped steps top x := by
  induction steps with
  | nil => exact h top List.mem_cons_self
  | cons step rest ih =>
    rw [stepped]
    split
    · exact h step.2 List.mem_cons_self
    · exact ih fun y hy => h y (List.mem_cons_of_mem _ hy)

/-- Steps that go up make a function that does. -/
theorem stepped_mono {top : Float} {steps : List (Float × Float)} (h : (steps.map (·.2) ++ [top]).Pairwise (· ≤ ·))
    (hself : ∀ y ∈ steps.map (·.2) ++ [top], y ≤ y) {x x' : Float} (hx : x ≤ x') :
    stepped steps top x ≤ stepped steps top x' := by
  induction steps with
  | nil => exact hself top List.mem_cons_self
  | cons step rest ih =>
    obtain ⟨hfirst, hrest⟩ := List.pairwise_cons.mp h
    have hself' := hself step.2 List.mem_cons_self
    rw [stepped, stepped]
    by_cases hlt : x < step.1
    · rw [if_pos hlt]
      split
      · exact hself'
      · exact le_stepped hfirst x'
    · have hlt' : ¬ x' < step.1 := fun hlt' => hlt (double_lt_of_le_of_lt hx hlt')
      rw [if_neg hlt, if_neg hlt']
      exact ih hrest fun y hy => hself y (List.mem_cons_of_mem _ hy)

/-- The natural logarithms of 1/4, 1, 2 and 10, with steps between. -/
def sampledLn : Float → Float :=
  stepped [(1, -1.3862943611198906), (2, 0), (10, 0.6931471805599453)] 2.302585092994046

/-- The logarithms of 1, 2 and 4 to base two, with steps between. -/
def sampledLog2 : Float → Float := stepped [(2, 0), (4, 1)] 2

theorem monotoneLogs_sampled : MonotoneLogs sampledLn sampledLog2 where
  ln_mono _ _ _ h := stepped_mono (by decide) (by decide) h
  ln_one := by decide
  log2_mono _ _ _ h := stepped_mono (by decide) (by decide) h
  log2_one := by decide
  log2_two := by decide

theorem exists_analyze_sampled : ∃ analysis : Measured,
    (@analyzeDocument Float (.doubles sampledLn sampledLog2) classDocument Settings.default).outcome = .ok analysis := by
  obtain ⟨analysis, hanalysis, -⟩ := @analyzeDocument_ok Float (.doubles sampledLn sampledLog2) _ _ _ Settings.default
    (by decide) load_classDocument hasTexts_classTree typeDecls_classTree nofun
  exact ⟨analysis, hanalysis⟩

/-- The class and its units, and a volume of 1/4. -/
theorem maintainability_of_classDocument :
    (∃ analysis : Measured,
      (@analyzeDocument Float (.doubles sampledLn sampledLog2) classDocument Settings.default).outcome = .ok analysis ∧
      ∀ metrics ∈ analysis.metrics :: analysis.units.map CodeUnit.metrics,
        0 ≤ metrics.maintainabilityIndex ∧ metrics.maintainabilityIndex ≤ 100) ∧
    100 < @Maintainability.index Float (.doubles sampledLn sampledLog2) 0.25 1 1 := by
  obtain ⟨hbetween, -, -, -, hover⟩ := maintainability_between monotoneLogs_sampled
  obtain ⟨analysis, hanalysis⟩ := exists_analyze_sampled
  refine ⟨⟨analysis, hanalysis, fun metrics hmetrics => ?_⟩, (hover 0.25 (by decide) (by decide) (by decide)).2⟩
  obtain ⟨hlow, hhigh, -⟩ := hbetween _ _ analysis hanalysis metrics hmetrics
  exact ⟨hlow, hhigh⟩

/-! ## Units and the file -/

/-- A unit that counts no more than the file has no smaller index. -/
theorem index_le_of_isWithin (hlogs : MonotoneLogs ln log2) {file unit : Metrics Nat Float} {counts : Halstead}
    {body : Option Node} (hle : counts.vocabulary ≤ counts.length)
    (hfile : @Metrics.IsIndexedBy Float (.doubles ln log2) file counts)
    (hwithin : @IsWithin Float file counts body unit) (hunit : @bodyMetrics Float (.doubles ln log2) body = .ok unit)
    (hblock : ∀ b ∈ body, b.kind = .blockStatement) : file.maintainabilityIndex ≤ unit.maintainabilityIndex := by
  let := Scalar.doubles ln log2
  obtain ⟨own, hindex, hown⟩ := counts_of_bodyMetrics hunit
  have hcounts : own.vocabulary ≤ own.length ∧ own.vocabulary ≤ counts.vocabulary ∧ own.length ≤ counts.length := by
    -- A missing body has no tokens.
    rcases hown with ⟨-, rfl, -⟩ | ⟨b, rfl, hown, -⟩
    · exact ⟨Nat.le_refl 0, Nat.zero_le _, Nat.zero_le _⟩
    · obtain ⟨own', hown', hmost⟩ := hwithin.tokens b rfl
      cases hown.symm.trans hown'
      exact ⟨vocabulary_le_length hown, hmost.vocabulary_le, hmost.length_le⟩
  obtain ⟨hdistinct, hvocabulary, hlength⟩ := hcounts
  rw [index_eq_pointsOf hlogs hle hfile, index_eq_pointsOf hlogs hdistinct hindex]
  exact Maintainability.pointsOf_anti hlogs hdistinct hle hvocabulary hlength hwithin.complexity (hwithin.lines hblock)

/-- **No unit measures more than the file it is in.** Its complexity and the tokens of its body are at most those of the
file, each number of them by itself, and so are its lines, but for the one that a body counts as if it is an expression.
Units have bodies of their own, and if none of some bodies is inside another the branches in them add up to no more than
those of the file (`UnitsWithin`). Where the body is a block or missing the index is at least that of the file; this alone
rests on the logarithms. -/
theorem units_within_file {document : Value} {settings : Settings} {analysis : Measured} (hkeys : document.hasDistinctKeys)
    (hanalysis : (@analyzeDocument Float (.doubles ln log2) document settings).outcome = .ok analysis) :
    ∃ root nodes, (load document).outcome = .ok root ∧ @UnitsWithin Float (.doubles ln log2) root nodes analysis ∧
      (MonotoneLogs ln log2 → List.Forall₂ (fun n u => (∀ b ∈ n.unitBody, b.kind = .blockStatement) →
        analysis.metrics.maintainabilityIndex ≤ u.metrics.maintainabilityIndex) nodes analysis.units) := by
  let := Scalar.doubles ln log2
  obtain ⟨root, hload, hroot⟩ := exists_load_of_analyzeDocument hanalysis
  obtain ⟨-, -, -, counts, hcounts, hindex⟩ := parts_of_analyze hroot
  obtain ⟨nodes, hunits⟩ := exists_unitsWithin (isDistinct_of_load hkeys hload) hroot
  refine ⟨root, nodes, hload, hunits, fun hlogs => ?_⟩
  obtain ⟨counts', hcounts', hwithin⟩ := hunits.units
  cases hcounts.symm.trans hcounts'
  refine hwithin.imp fun n u hu => ?_
  exact index_le_of_isWithin hlogs (vocabulary_le_length hcounts) hindex hu.2 hu.1.metrics

/-- The class and its three units: a method, the arrow function in it and a function without a body. -/
theorem units_within_classDocument : ∃ (analysis : Measured) (root : Node) (nodes : List Node),
    (@analyzeDocument Float (.doubles sampledLn sampledLog2) classDocument Settings.default).outcome = .ok analysis ∧
    (load classDocument).outcome = .ok root ∧
    @UnitsWithin Float (.doubles sampledLn sampledLog2) root nodes analysis ∧
    List.Forall₂ (fun n u => (∀ b ∈ n.unitBody, b.kind = .blockStatement) →
      analysis.metrics.maintainabilityIndex ≤ u.metrics.maintainabilityIndex) nodes analysis.units := by
  obtain ⟨analysis, hanalysis⟩ := exists_analyze_sampled
  obtain ⟨root, nodes, hload, hunits, hindex⟩ := units_within_file (by decide) hanalysis
  exact ⟨analysis, root, nodes, hanalysis, hload, hunits, hindex monotoneLogs_sampled⟩

end CodeMetrics
