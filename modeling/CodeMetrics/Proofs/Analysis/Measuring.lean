import CodeMetrics.Metrics.Units
import CodeMetrics.Proofs.Distinct
import CodeMetrics.Proofs.Outcome

/-!
# Measuring does not fail

A tree can always be measured if its names and operators are texts and its literals can be written out. This is asked of
every node (`hasTexts`), and each calculator then succeeds on every node and so on the whole tree.

* `exists_complexity`, `exists_volume`, `exists_bodyMetrics` — the calculators succeed
* `bodyMetrics_spec` — what the metrics of a unit have in common
-/

namespace CodeMetrics

/-- Whether an attribute is missing, null or a text. -/
def Value.isTextOrNull : Option Value → Bool
  | none | some .null | some (.str _) => true
  | _ => false

theorem Value.isTextOrNull_iff {v : Option Value} :
    isTextOrNull v = true ↔ v = none ∨ v = some .null ∨ ∃ s, v = some (.str s) := by
  cases v with
  | none => simp [isTextOrNull]
  | some v => cases v <;> simp [isTextOrNull]

/-- Whether a token can be told apart from others. -/
def Token.hasKey : Token → Bool
  | .operator v | .operand v => v.key?.isSome

namespace Halstead

/-- A value that has a key can be inserted, and no other. -/
theorem insertToken_eq (kept : List Value) (v : Value) :
    (∃ key, v.key? = some key ∧ insertToken kept v
      = .ok (if some key ∈ kept.map Value.key? then kept else kept ++ [v])) ∨
    (v.key? = none ∧ insertToken kept v = .error (.mismatch .unhashable)) := by
  unfold insertToken
  cases hkey : v.key? with
  | none => exact .inr ⟨rfl, rfl⟩
  | some key =>
    refine .inl ⟨key, rfl, ?_⟩
    have hany : (kept.any fun t => t.key? == some key) = true ↔ some key ∈ kept.map Value.key? := by
      simp [List.any_eq_true, List.mem_map]
    simp only [hany]

/-- Whether a token can be counted is known from the token. -/
theorem exists_add_iff {h : Halstead} {token : Token} : (∃ h', h.add token = .ok h') ↔ token.hasKey = true := by
  cases token with
  | operator v =>
    rcases insertToken_eq h.operators v with ⟨key, hkey, hinsert⟩ | ⟨hkey, hinsert⟩ <;>
      simp [add, Token.hasKey, hkey, hinsert, bind, Except.bind, pure, Except.pure]
  | operand v =>
    rcases insertToken_eq h.operands v with ⟨key, hkey, hinsert⟩ | ⟨hkey, hinsert⟩ <;>
      simp [add, Token.hasKey, hkey, hinsert, bind, Except.bind, pure, Except.pure]

end Halstead

namespace Node

/-- Whether the name and the operator of a node are texts or missing, and a literal can be written out. -/
def hasTexts (n : Node) : Bool :=
  Value.isTextOrNull (Fields.get? n.attrs "name") && Value.isTextOrNull (Fields.get? n.attrs "operator")
    && (decide (n.kind ≠ .literal) || (Fields.get? n.attrs "value").all Value.isWritable)

theorem hasTexts_iff {n : Node} : n.hasTexts = true ↔ Value.isTextOrNull (Fields.get? n.attrs "name") = true ∧
    Value.isTextOrNull (Fields.get? n.attrs "operator") = true ∧
    (n.kind = .literal → ∀ v, Fields.get? n.attrs "value" = some v → v.isWritable = true) := by
  have hvalue : (Fields.get? n.attrs "value").all Value.isWritable = true
      ↔ ∀ v, Fields.get? n.attrs "value" = some v → v.isWritable = true := by
    cases Fields.get? n.attrs "value" <;> simp
  simp only [hasTexts, Bool.and_eq_true, Bool.or_eq_true, decide_eq_true_eq, and_assoc, ne_eq, ← imp_iff_not_or, hvalue]

/-- The name and the operator of a node are texts or missing. -/
structure HasTextAttrs (n : Node) : Prop where
  name : Value.isTextOrNull (Fields.get? n.attrs "name") = true
  operator : Value.isTextOrNull (Fields.get? n.attrs "operator") = true

theorem hasTextAttrs_of_hasTexts {n : Node} (h : n.hasTexts = true) : n.HasTextAttrs :=
  ⟨(hasTexts_iff.mp h).1, (hasTexts_iff.mp h).2.1⟩

/-! ## Names and operators -/

theorem attr?_text {n : Node} {name : String} (h : Value.isTextOrNull (Fields.get? n.attrs name) = true) :
    n.attr? name = none ∨ ∃ s, n.attr? name = some (.str s) := by
  unfold attr?
  rcases Value.isTextOrNull_iff.mp h with hget | hget | ⟨s, hget⟩
  · exact .inl (by rw [hget])
  · exact .inl (by rw [hget])
  · exact .inr ⟨s, by rw [hget]⟩

/-- An identifier has a text as its name, or none. -/
def HasTextName (n : Node) : Prop := n.kind = .identifier → Value.isTextOrNull (Fields.get? n.attrs "name") = true

/-- The name of a plain identifier, if it is a text. -/
def textName? (n : Option Node) : Option String := (identifierName? n).bind Value.str?

theorem identifierName?_eq {o : Option Node} (h : ∀ c, o = some c → c.HasTextName) :
    identifierName? o = (textName? o).map Value.str := by
  cases o with
  | none => rfl
  | some c =>
    unfold textName? identifierName?
    dsimp only
    split
    · next hkind =>
      rcases attr?_text (h c rfl hkind) with hname | ⟨s, hname⟩
      · rw [name?, hname]
        rfl
      · rw [name?, hname]
        rfl
    · rfl

theorem identifierName?_text {o : Option Node} (h : ∀ c, o = some c → c.HasTextAttrs) :
    identifierName? o = none ∨ ∃ s, identifierName? o = some (.str s) := by
  rw [identifierName?_eq fun c hc _ => (h c hc).name]
  cases textName? o with
  | none => exact .inl rfl
  | some s => exact .inr ⟨s, rfl⟩

/-- A missing text counts as the empty one. -/
theorem orElse_text {v : Option Value} (h : v = none ∨ ∃ s, v = some (.str s)) (t : String) :
    ∃ s, Value.orElse v (.str t) = .str s := by
  rcases h with rfl | ⟨s, rfl⟩
  · exact ⟨t, rfl⟩
  · unfold Value.orElse
    dsimp only
    split
    · exact ⟨s, rfl⟩
    · exact ⟨t, rfl⟩

/-! ## Complexity -/

theorem exists_isBranchPoint {n : Node} (h : n.HasTextAttrs) : ∃ b, n.isBranchPoint = .ok b := by
  unfold isBranchPoint
  split
  · exact ⟨true, rfl⟩
  · split
    · exact ⟨_, rfl⟩
    · rcases Value.isTextOrNull_iff.mp h.operator with hget | hget | ⟨s, hget⟩
      · exact ⟨false, by rw [hget]; rfl⟩
      · exact ⟨false, by rw [hget]; rfl⟩
      · exact ⟨_, by rw [hget]; rfl⟩
    · exact ⟨false, rfl⟩

theorem exists_complexity {n : Node} (h : ∀ m ∈ n.preorder, m.HasTextAttrs) : ∃ k, n.complexity = .ok k := by
  obtain ⟨branches, hbranches⟩ := Outcome.exists_mapM_eq_ok fun m hm => exists_isBranchPoint (h m hm)
  exact ⟨_, Outcome.bind_eq_ok.mpr ⟨branches, by rw [walk_eq]; exact hbranches, rfl⟩⟩

theorem one_le_complexity {n : Node} {k : Nat} (h : n.complexity = .ok k) : 1 ≤ k := by
  obtain ⟨branches, -, hk⟩ := Outcome.bind_eq_ok.mp h
  cases hk
  omega

/-! ## Halstead counts -/

theorem exists_literalText {v : Value} (h : v.isWritable = true) : ∃ s, v.literalText = .ok s := by
  cases v with
  | null | bool | int | float => exact ⟨_, rfl⟩
  | str | moment | list | object => exact ⟨_, by rw [Value.literalText.eq_def]; exact if_pos h⟩

/-- A literal has a text, or it cannot be written out. -/
theorem endsIn_literalText (v : Value) : Outcome.EndsIn (.rejected .unwritable) v.literalText := by
  have hwritten : Outcome.EndsIn (.rejected .unwritable) v.written := by
    unfold Value.written
    split
    · exact .inl ⟨_, rfl⟩
    · exact .inr rfl
  cases v with
  | null | bool | int | float => exact .inl ⟨_, rfl⟩
  | str | moment | list | object => exact hwritten

/-- The token of a node, if it has one, can be told apart from others; just a literal can keep a node from having one. -/
theorem token?_cases {n : Node} (h : n.HasTextAttrs) (hchild : ∀ c ∈ n.children, c.HasTextAttrs) :
    (∃ token, n.token? = .ok token ∧ ∀ t, token = some t → t.hasKey = true) ∨
      (n.kind = .literal ∧ n.token? = .error (.rejected .unwritable) ∧
        ((Fields.get? n.attrs "value").getD .null).literalText = .error (.rejected .unwritable)) := by
  have hidentifier : ∀ name, identifierName? (n.child name) = none ∨
      ∃ s, identifierName? (n.child name) = some (.str s) := fun name =>
    identifierName?_text fun c hc => hchild c (mem_children_of_child hc)
  unfold token?
  split
  · obtain ⟨s, hs⟩ := orElse_text (attr?_text h.operator) ""
    exact .inl ⟨_, rfl, by rintro _ ⟨⟩; rw [operator?, hs]; rfl⟩
  · split
    · obtain ⟨s, hs⟩ := orElse_text (attr?_text h.name) ""
      exact .inl ⟨_, rfl, by rintro _ ⟨⟩; rw [name?, hs]; rfl⟩
    · next hkind =>
      rcases endsIn_literalText ((Fields.get? n.attrs "value").getD .null) with ⟨s, hs⟩ | hnone
      · exact .inl ⟨_, by rw [hs]; rfl, by rintro _ ⟨⟩; rfl⟩
      · exact .inr ⟨hkind, by rw [hnone]; rfl, hnone⟩
    · rcases hidentifier "property" with hnone | ⟨s, hs⟩
      · exact .inl ⟨none, by rw [hnone, Option.map_none], by simp⟩
      · exact .inl ⟨_, by rw [hs, Option.map_some], by rintro _ ⟨⟩; rfl⟩
    · rcases hidentifier "callee" with hnone | ⟨s, hs⟩
      · exact .inl ⟨none, by rw [hnone], by simp⟩
      · exact .inl ⟨_, by rw [hs]; rfl, by rintro _ ⟨⟩; rfl⟩
    · exact .inl ⟨_, rfl, by rintro _ ⟨⟩; rfl⟩
    · exact .inl ⟨_, rfl, by rintro _ ⟨⟩; rfl⟩
    · exact .inl ⟨none, rfl, by simp⟩

/-- A node that has texts has a token, or none, that can be told apart from others. -/
theorem exists_token? {n : Node} (h : n.hasTexts = true) (hchild : ∀ c ∈ n.children, c.hasTexts = true) :
    ∃ token, n.token? = .ok token ∧ ∀ t, token = some t → t.hasKey = true := by
  rcases token?_cases (hasTextAttrs_of_hasTexts h) fun c hc => hasTextAttrs_of_hasTexts (hchild c hc) with
    htoken | ⟨hkind, -, hnone⟩
  · exact htoken
  · have hwritable : ((Fields.get? n.attrs "value").getD .null).isWritable = true := by
      cases hvalue : Fields.get? n.attrs "value" with
      | none => rfl
      | some v => exact (hasTexts_iff.mp h).2.2 hkind v hvalue
    obtain ⟨s, hs⟩ := exists_literalText hwritable
    cases hs.symm.trans hnone

/-- A node is recorded whatever came before if it has a token or none, and otherwise it cannot be written out. -/
theorem record_cases {n : Node} (h : n.HasTextAttrs) (hchild : ∀ c ∈ n.children, c.HasTextAttrs) :
    ((∃ token, n.token? = .ok token) ∧ ∀ counts, ∃ counts', record counts n = .ok counts') ∨
      (n.token? = .error (.rejected .unwritable) ∧ ∀ counts, record counts n = .error (.rejected .unwritable)) := by
  rcases token?_cases h hchild with ⟨token, htoken, hkey⟩ | ⟨-, herror, -⟩
  · refine .inl ⟨⟨token, htoken⟩, fun counts => ?_⟩
    unfold record
    rw [htoken]
    cases token with
    | none => exact ⟨counts, rfl⟩
    | some t => exact Halstead.exists_add_iff.mpr (hkey t rfl)
  · refine .inr ⟨herror, fun counts => ?_⟩
    unfold record
    rw [herror]
    rfl

section Halstead

variable {n : Node} (htexts : ∀ m ∈ n.preorder, m.HasTextAttrs)

include htexts

theorem record_cases_of_mem {m : Node} (hm : m ∈ n.preorder) :
    ((∃ token, m.token? = .ok token) ∧ ∀ counts, ∃ counts', record counts m = .ok counts') ∨
      (m.token? = .error (.rejected .unwritable) ∧ ∀ counts, record counts m = .error (.rejected .unwritable)) := by
  refine record_cases (htexts m hm) fun c hc => htexts c ?_
  exact mem_preorder_trans hm (mem_preorder_of_child hc (mem_preorder_self c))

/-- A tree is counted, or one of its literals cannot be written out. -/
theorem endsIn_halstead : Outcome.EndsIn (.rejected .unwritable) n.halstead := by
  rw [halstead, walk_eq]
  refine Outcome.EndsIn.foldlM (fun m hm counts => ?_) Halstead.empty
  rcases record_cases_of_mem htexts hm with ⟨-, hrecord⟩ | ⟨-, herror⟩
  · exact .inl (hrecord counts)
  · exact .inr (herror counts)

/-- A tree is counted if each of its nodes has a token or none. -/
theorem exists_halstead_iff : (∃ h, n.halstead = .ok h) ↔ ∀ m ∈ n.preorder, ∃ token, m.token? = .ok token := by
  rw [halstead, walk_eq]
  refine Outcome.exists_foldlM_iff (fun m hm counts => ?_) Halstead.empty
  rcases record_cases_of_mem htexts hm with ⟨htoken, hrecord⟩ | ⟨htoken, herror⟩
  · exact ⟨fun _ => htoken, fun _ => hrecord counts⟩
  · constructor
    · rintro ⟨counts', hok⟩
      cases (herror counts).symm.trans hok
    · rintro ⟨token, hok⟩
      cases htoken.symm.trans hok

end Halstead

variable {σ : Type} [Scalar σ]

theorem exists_volume_iff {n : Node} : (∃ v : σ, n.volume = .ok v) ↔ ∃ h, n.halstead = .ok h := by
  rw [volume, Outcome.exists_bind_eq_ok]
  exact ⟨fun ⟨h, hh, _⟩ => ⟨h, hh⟩, fun ⟨h, hh⟩ => ⟨h, hh, _, rfl⟩⟩

theorem exists_volume {n : Node} (h : ∀ m ∈ n.preorder, m.hasTexts = true) : ∃ v : σ, n.volume = .ok v := by
  refine exists_volume_iff.mpr ((exists_halstead_iff fun m hm => hasTextAttrs_of_hasTexts (h m hm)).mpr fun m hm => ?_)
  obtain ⟨token, htoken, -⟩ := exists_token? (h m hm) fun c hc =>
    h c (mem_preorder_trans hm (mem_preorder_of_child hc (mem_preorder_self c)))
  exact ⟨token, htoken⟩

theorem endsIn_volume {n : Node} (h : ∀ m ∈ n.preorder, m.HasTextAttrs) :
    Outcome.EndsIn (.rejected .unwritable) (n.volume : Except Error σ) :=
  (endsIn_halstead h).bind fun counts => .inl ⟨counts.volume, rfl⟩

/-! ## Units -/

/-- A body is measured, or one of its literals cannot be written out. -/
theorem endsIn_bodyMetrics {body : Option Node} (h : ∀ b, body = some b → ∀ m ∈ b.preorder, m.HasTextAttrs) :
    Outcome.EndsIn (.rejected .unwritable) (bodyMetrics body : Except Error (Metrics Nat σ)) := by
  cases body with
  | none => exact .inl ⟨_, rfl⟩
  | some b =>
    obtain ⟨complexity, hcomplexity⟩ := exists_complexity (h b rfl)
    rw [bodyMetrics, hcomplexity]
    exact (endsIn_volume (h b rfl)).bind fun volume => .inl ⟨_, rfl⟩

theorem exists_bodyMetrics {body : Option Node} (h : ∀ b, body = some b → ∀ m ∈ b.preorder, m.hasTexts = true) :
    ∃ metrics : Metrics Nat σ, bodyMetrics body = .ok metrics := by
  cases body with
  | none => exact ⟨_, rfl⟩
  | some b =>
    obtain ⟨complexity, hcomplexity⟩ := exists_complexity fun m hm => hasTextAttrs_of_hasTexts (h b rfl m hm)
    obtain ⟨volume, hvolume⟩ := @exists_volume σ _ b (h b rfl)
    exact ⟨_, Outcome.bind_eq_ok.mpr ⟨complexity, hcomplexity, Outcome.bind_eq_ok.mpr ⟨volume, hvolume, rfl⟩⟩⟩

/-- The metrics of one unit: a single method with at least one path, no classes, and an average of its own. -/
structure IsUnitMetrics (metrics : Metrics Nat σ) : Prop where
  complexity : 1 ≤ metrics.cyclomaticComplexity
  methodCount : metrics.methodCount = 1
  classCount : metrics.classCount = 0
  depth : metrics.depthOfInheritance = 0
  average : metrics.averageMethodComplexity = Scalar.finiteOrZero (Scalar.ofNat metrics.cyclomaticComplexity)

theorem isUnitMetrics_ofCounts {lines complexity : Nat} (h : 1 ≤ complexity) (maintainability : σ) :
    IsUnitMetrics (Metrics.ofCounts lines complexity maintainability 0 0 1) :=
  ⟨h, rfl, rfl, rfl, rfl⟩

theorem bodyMetrics_spec {body : Option Node} {metrics : Metrics Nat σ} (h : bodyMetrics body = .ok metrics) :
    IsUnitMetrics metrics := by
  cases body with
  | none =>
    cases h
    exact isUnitMetrics_ofCounts (Nat.le_refl 1) _
  | some b =>
    obtain ⟨complexity, hcomplexity, h⟩ := Outcome.bind_eq_ok.mp h
    obtain ⟨volume, -, h⟩ := Outcome.bind_eq_ok.mp h
    cases h
    exact isUnitMetrics_ofCounts (one_le_complexity hcomplexity) _

end Node

end CodeMetrics
