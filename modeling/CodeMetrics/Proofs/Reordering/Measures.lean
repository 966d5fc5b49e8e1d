import CodeMetrics.Proofs.Analysis.Success
import CodeMetrics.Proofs.Calculators.Counts
import CodeMetrics.Proofs.Calculators.Tokens
import CodeMetrics.Proofs.Reordering.Trees

/-!
# Measures in another order

Alike nodes open a path, count as a line and contribute a token alike, so that what is counted over a whole tree is the
same in any order. The units of the tree are then the same units, up to their order; sorting leaves that open only among
units on one line.

* `Node.Alike.complexity_eq`, `Node.Alike.volume_eq`, `Node.bodyMetrics_of_rel` — what is measured
* `units_of_alike` — the list of units
-/

namespace CodeMetrics

namespace Node

variable {n n' : Node}

/-! ## One node -/

theorem Alike.attr?_eq (h : Alike n n') (name : String) : n'.attr? name = n.attr? name := by
  rw [attr?, attr?, h.step.attrs]

theorem identifierName?_of_rel {o o' : Option Node} (h : Option.Rel Alike o o') :
    identifierName? o' = identifierName? o := by
  cases h with
  | none => rfl
  | some h => simp only [identifierName?, h.step.kind, name?, h.attr?_eq]

theorem Alike.identifierName?_eq (h : Alike n n') (key : String) :
    identifierName? (n'.child key) = identifierName? (n.child key) := identifierName?_of_rel (h.step.child key)

theorem Alike.isBranchPoint_eq (h : Alike n n') : n'.isBranchPoint = n.isBranchPoint := by
  have htest : (n'.child "test").isSome = (n.child "test").isSome := by
    have hrel := h.step.child "test"
    generalize n.child "test" = o at hrel
    generalize n'.child "test" = o' at hrel
    cases hrel <;> rfl
  rw [isBranchPoint, isBranchPoint, h.step.kind, htest, h.step.attrs]

theorem Alike.token?_eq (h : Alike n n') : n'.token? = n.token? := by
  rw [token?, token?, h.step.kind, operator?, operator?, h.attr?_eq, name?, name?, h.attr?_eq, h.step.attrs,
    h.identifierName?_eq, h.identifierName?_eq]

theorem Alike.hasTextAttrs (h : Alike n n') (htexts : n.HasTextAttrs) : n'.HasTextAttrs :=
  ⟨by rw [h.step.attrs]; exact htexts.name, by rw [h.step.attrs]; exact htexts.operator⟩

/-! ## Whole trees -/

theorem Alike.paths_eq (h : Alike n n') : n'.paths = n.paths := by
  refine (h.preorder.countP_eq fun m m' hm => ?_).symm
  rw [opensPath, opensPath, hm.isBranchPoint_eq]

theorem Alike.tokens_perm (h : Alike n n') : n.tokens.Perm n'.tokens := by
  refine (h.preorder.filterMap fun m m' hm => ?_).perm
  rw [hm.token?_eq]
  cases m.token?.toOption.join with
  | none => exact .none
  | some t => exact .some rfl

theorem Alike.logicalLines_eq (h : Alike n n') (hdistinct : n.IsDistinct) (hdistinct' : n'.IsDistinct) :
    n'.logicalLines = n.logicalLines := by
  rw [Node.logicalLines_eq hdistinct, Node.logicalLines_eq hdistinct']
  refine (h.preorder.countP_eq fun m m' hm => ?_).symm
  rw [hm.step.kind]

theorem Alike.classCount_eq (h : Alike n n') : n'.classCount = n.classCount := by
  rw [classCount, classCount, walk_eq, walk_eq]
  refine (h.preorder.countP_eq fun m m' hm => ?_).symm
  rw [hm.step.kind]

section Texts

variable (h : Alike n n') (htexts : ∀ m ∈ n.preorder, m.HasTextAttrs)

include h htexts

theorem Alike.texts : ∀ m' ∈ n'.preorder, m'.HasTextAttrs := by
  intro m' hm'
  obtain ⟨m, hm, hsame⟩ := h.preorder.exists_right hm'
  exact hsame.hasTextAttrs (htexts m hm)

theorem Alike.complexity_eq : n'.complexity = n.complexity := by
  obtain ⟨k, hk⟩ := exists_complexity htexts
  obtain ⟨k', hk'⟩ := exists_complexity (h.texts htexts)
  rw [hk, hk', (complexity_eq_ok.mp hk).2, (complexity_eq_ok.mp hk').2, h.paths_eq]

/-- A tree is counted in any order, or in none. -/
theorem Alike.exists_halstead : (∃ counts, n.halstead = .ok counts) ↔ ∃ counts, n'.halstead = .ok counts := by
  rw [exists_halstead_iff htexts, exists_halstead_iff (h.texts htexts)]
  refine h.preorder.forall_iff fun m m' hm => ?_
  rw [hm.token?_eq]

/-- Either order gives the same volume, or none. -/
theorem Alike.volume_eq {σ : Type} [Scalar σ] : (n'.volume : Except Error σ) = n.volume := by
  have hexists : (∃ v, (n.volume : Except Error σ) = .ok v) ↔ ∃ v', (n'.volume : Except Error σ) = .ok v' :=
    exists_volume_iff.trans ((h.exists_halstead htexts).trans exists_volume_iff.symm)
  rcases (endsIn_volume htexts).both (endsIn_volume (h.texts htexts)) hexists with
    ⟨v, v', hv, hv'⟩ | ⟨herror, herror'⟩
  · obtain ⟨counts, hcounts, hsame⟩ := Outcome.bind_eq_ok.mp hv
    obtain ⟨counts', hcounts', hsame'⟩ := Outcome.bind_eq_ok.mp hv'
    cases hsame
    cases hsame'
    have hvolume : (counts'.volume : σ) = counts.volume :=
      (counts_of_halstead hcounts').volume_eq_of_perm (counts_of_halstead hcounts) h.tokens_perm.symm
    exact hv'.trans ((congrArg Except.ok hvolume).trans hv.symm)
  · exact herror'.trans herror.symm

end Texts

/-! ## Units -/

theorem Alike.unitFunction (h : Alike n n') : Option.Rel Alike n.unitFunction n'.unitFunction := by
  rw [Node.unitFunction, Node.unitFunction, h.step.kind]
  split
  · exact h.step.child "value"
  · exact .some h

theorem Alike.unitBody (h : Alike n n') : Option.Rel Alike n.unitBody n'.unitBody := by
  have hfunction := h.unitFunction
  rw [Node.unitBody, Node.unitBody]
  generalize n.unitFunction = f at hfunction
  generalize n'.unitFunction = f' at hfunction
  cases hfunction with
  | none => exact .none
  | some hf => exact hf.step.child "body"

/-- A body is measured alike in any order. -/
theorem bodyMetrics_of_rel {σ : Type} [Scalar σ] {body body' : Option Node} (h : Option.Rel Alike body body')
    (htexts : ∀ b, body = some b → ∀ m ∈ b.preorder, m.HasTextAttrs)
    (hdistinct : ∀ b, body = some b → b.IsDistinct) (hdistinct' : ∀ b, body' = some b → b.IsDistinct) :
    (bodyMetrics body' : Except Error (Metrics Nat σ)) = bodyMetrics body := by
  cases h with
  | none => rfl
  | @some b b' hb =>
    simp only [bodyMetrics, hb.complexity_eq (htexts b rfl), hb.volume_eq (htexts b rfl), hb.step.kind,
      hb.logicalLines_eq (hdistinct b rfl) (hdistinct' b' rfl)]

theorem Alike.methodName_eq (h : Alike n n') : n'.methodName = n.methodName := by
  rw [methodName, methodName, h.identifierName?_eq]

/-- A unit is called the same in any order. -/
theorem Placed.unitName_eq {root root' : Node} (h : Placed root root' n n') :
    n'.unitName (Parents.of root') = n.unitName (Parents.of root) := by
  obtain ⟨hsame, hparents⟩ := h
  have hplaceholder : n'.placeholderName = n.placeholderName := by
    rw [placeholderName, placeholderName, hsame.step.kind]
  rw [CodeMetrics.unitName_eq, CodeMetrics.unitName_eq, hsame.step.kind, hsame.identifierName?_eq,
    hsame.methodName_eq, hplaceholder]
  generalize (Parents.of root).find? n.id = p at hparents
  generalize (Parents.of root').find? n'.id = p' at hparents
  cases hparents with
  | none => rfl
  | some hp => simp only [Option.elim_some, hp.step.kind, hp.identifierName?_eq, hp.methodName_eq]

end Node

open Node

/-! ## The list of units -/

/-- The same units, in an order that differs among units on one line only. -/
structure SameUpToLines {σ : Type} (units units' : List (CodeUnit Nat σ Num)) : Prop where
  perm : units.Perm units'
  lines : List.Forall₂ (fun u u' => u.startLine.same u'.startLine = true) units units'

/-- The same units, each list in order of first lines. -/
theorem sameUpToLines_of_perm {σ : Type} {units units' : List (CodeUnit Nat σ Num)} (hperm : units.Perm units')
    (hwhole : ∀ u ∈ units, u.startLine.IsWhole)
    (horder : units.Pairwise fun u v => v.startLine.lt u.startLine = false)
    (horder' : units'.Pairwise fun u v => v.startLine.lt u.startLine = false) : SameUpToLines units units' := by
  have hwhole' : ∀ u ∈ units', u.startLine.IsWhole := fun u hu => hwhole u (hperm.mem_iff.mpr hu)
  have hsorted : ∀ {us : List (CodeUnit Nat σ Num)}, (∀ u ∈ us, u.startLine.IsWhole) →
      us.Pairwise (fun u v => v.startLine.lt u.startLine = false) →
      (us.map fun u => u.startLine.whole).Pairwise (· ≤ ·) := by
    intro us hw ho
    refine List.pairwise_map.mpr (ho.imp_of_mem fun {u v} hu hv huv => ?_)
    rw [Num.lt_of_isWhole (hw v hv) (hw u hu), decide_eq_false_iff_not] at huv
    omega
  -- Sorted lists of the same integers are the same.
  have hlines : (units.map fun u => u.startLine.whole) = units'.map fun u => u.startLine.whole :=
    (hperm.map _).eq_of_pairwise (fun _ _ _ _ => Int.le_antisymm) (hsorted hwhole horder) (hsorted hwhole' horder')
  refine ⟨hperm, ?_⟩
  have hforall : List.Forall₂ (fun u u' : CodeUnit Nat σ Num => u.startLine.whole = u'.startLine.whole) units units' := by
    rw [← List.forall₂_eq_eq_eq, List.forall₂_map_left_iff, List.forall₂_map_right_iff] at hlines
    exact hlines
  refine Outcome.forall₂_imp_of_mem hforall fun u hu u' hu' hsame => ?_
  rw [Num.same_of_isWhole (hwhole u hu) (hwhole' u' hu'), decide_eq_true_eq]
  exact hsame

section Units

variable {root root' : Node} (h : Alike root root') (hdistinct : root.IsDistinct) (hdistinct' : root'.IsDistinct)
  (htexts : ∀ m ∈ root.preorder, m.HasTextAttrs) {σ : Type} [Scalar σ]

include h hdistinct hdistinct' in
theorem reported_of_alike : Matched (Placed root root') (root.reported false) (root'.reported false) := by
  refine Placed.reported hdistinct.ids hdistinct'.ids (mem_preorder_self root) (mem_preorder_self root') ⟨h, ?_⟩ false
  rw [find?_root hdistinct.ids, find?_root hdistinct'.ids]
  exact .none

include hdistinct hdistinct' htexts

/-- The body of a unit is measured alike in any order. -/
theorem bodyMetrics_of_placed {n n' : Node} (hplaced : Placed root root' n n') (hn : n ∈ root.preorder)
    (hn' : n' ∈ root'.preorder) :
    (bodyMetrics n'.unitBody : Except Error (Metrics Nat σ)) = bodyMetrics n.unitBody := by
  refine bodyMetrics_of_rel hplaced.1.unitBody (fun b hb m hm => ?_) (fun b hb => ?_) fun b hb => ?_
  · exact htexts m (mem_preorder_trans (mem_preorder_trans hn (mem_preorder_unitBody hb)) hm)
  · exact hdistinct.below (mem_preorder_trans hn (mem_preorder_unitBody hb))
  · exact hdistinct'.below (mem_preorder_trans hn' (mem_preorder_unitBody hb))

/-- The units of alike nodes below alike parents are the same. -/
theorem MeasuredAs.eq_of_placed {n n' : Node} (hplaced : Placed root root' n n') (hn : n ∈ root.preorder)
    (hn' : n' ∈ root'.preorder) {u u' : CodeUnit Nat σ Num} (hu : MeasuredAs (Parents.of root) n u)
    (hu' : MeasuredAs (Parents.of root') n' u') : u = u' := by
  obtain ⟨hkind, ⟨span, hspan, hstart, hstop⟩, hname, hmetrics⟩ := hu
  obtain ⟨hkind', ⟨span', hspan', hstart', hstop'⟩, hname', hmetrics'⟩ := hu'
  rw [hplaced.1.step.span, hspan] at hspan'
  cases hspan'
  rw [bodyMetrics_of_placed hdistinct hdistinct' htexts hplaced hn hn', hmetrics] at hmetrics'
  rw [hplaced.1.step.kind, ← hkind] at hkind'
  rw [hplaced.unitName_eq, ← hname] at hname'
  rw [← hstart] at hstart'
  rw [← hstop] at hstop'
  cases u
  cases u'
  cases hmetrics'
  simp_all only

include h

/-- There are the same units in any order, or in none, because a literal cannot be written out. -/
theorem units_of_alike (workers : Option Num) :
    (∃ units units' : List (CodeUnit Nat σ Num), (root.units (Parents.of root) workers).outcome = .ok units ∧
      (root'.units (Parents.of root') workers).outcome = .ok units' ∧ units.Perm units') ∨
    ((root.units (Parents.of root) workers : Traced (List (CodeUnit Nat σ Num))).outcome = .error (.rejected .unwritable) ∧
      (root'.units (Parents.of root') workers : Traced (List (CodeUnit Nat σ Num))).outcome
        = .error (.rejected .unwritable)) := by
  have hnodes : Matched (fun n n' => Placed root root' n n' ∧ n ∈ root.preorder ∧ n' ∈ root'.preorder) _ _ :=
    (reported_of_alike h hdistinct hdistinct').imp fun n hn n' hn' hplaced =>
      ⟨hplaced, (sublist_reported root false).subset hn, (sublist_reported root' false).subset hn'⟩
  have hexists : (∃ units : List (CodeUnit Nat σ Num), (root.units (Parents.of root) workers).outcome = .ok units) ↔
      ∃ units' : List (CodeUnit Nat σ Num), (root'.units (Parents.of root') workers).outcome = .ok units' := by
    rw [exists_units_iff hdistinct, exists_units_iff hdistinct']
    refine hnodes.forall_iff fun n n' hrel => ?_
    rw [@bodyMetrics_of_placed root root' hdistinct hdistinct' htexts σ _ n n' hrel.1 hrel.2.1 hrel.2.2]
  rcases (endsIn_units_of_hasTextAttrs hdistinct htexts (Parents.of root) workers).both
      (endsIn_units_of_hasTextAttrs hdistinct' (h.texts htexts) (Parents.of root') workers) hexists with
    ⟨units, units', hunits, hunits'⟩ | herror
  · obtain ⟨measured, hmeasured, rfl⟩ := (units_eq_ok hdistinct).mp hunits
    obtain ⟨measured', hmeasured', rfl⟩ := (units_eq_ok hdistinct').mp hunits'
    have hsame : Matched Eq measured measured' := hnodes.of_forall₂_both hmeasured hmeasured'
      fun n n' u u' hn hu hu' => hu.eq_of_placed hdistinct hdistinct' htexts hn.1 hn.2.1 hn.2.2 hu'
    exact .inl ⟨_, _, hunits, hunits', (sortUnits_perm measured).trans (hsame.perm.trans (sortUnits_perm measured').symm)⟩
  · exact .inr herror

end Units

end CodeMetrics
