import CodeMetrics.Proofs.Inheritance.Limits
import Mathlib.Data.Finset.Card
import Mathlib.Data.List.Cycle
import Mathlib.Data.String.Basic

/-!
# Types whose depths do not settle

In a graph with a cycle the passes end at the limit, and the names that the last pass changed are reported. The default
limit is late enough for this to tell the cycles: a type from which no cycle is reached has short chains only, and all of
them have been counted before the last pass; and while all depths on a cycle stayed the same in a pass, each would be
above the next one, all the way around.

* `LastPass.reachesCycle` — a type that is changed reaches a cycle
* `LastPass.exists_changed` — every cycle has a type that is changed
* `types_of_cyclic_graph` — both, for names that are texts
-/

namespace CodeMetrics.Inheritance

/-! ## The last pass -/

section LastPass

variable {ν : Type} [DecidableEq ν] {decls : List (TypeDecl ν)} {edges : List (ν × ν)} {p : Nat} {d : Divergence ν}
  {last : Depths ν}

theorem LastPass.mem_changed_iff (h : LastPass decls edges p d last) {x : ν} :
    x ∈ d.changed ↔ last.find x < (onePass edges last).depths.find x := by
  rw [h.changed_eq]
  exact mem_changed_onePass_iff h.describes.covers

/-- A type that is still changed once all short chains have been counted reaches a cycle. -/
theorem LastPass.reachesCycle (h : LastPass decls edges p d last) (hp : max 1 (mentioned decls).length ≤ p) {x : ν}
    (hx : x ∈ d.changed) : ReachesCycle decls x := by
  by_contra hno
  have hraised := h.mem_changed_iff.mp hx
  -- The new depth is the length of a chain, and that chain had been counted before the pass.
  have hchain := h.sound.onePass h.describes x
  have hcounted := h.settled x _ ((hchain.le_of_not_reachesCycle hno).trans hp) hchain
  omega

/-- Depths fall along a chain of types that are not changed. -/
theorem LastPass.find_lt_of_isChain (h : LastPass decls edges p d last) {b : ν} : ∀ {rest : List ν} {a : ν},
    (a :: (rest ++ [b])).IsChain (Extends decls) → (∀ t ∈ a :: rest, t ∉ d.changed) → last.find b < last.find a := by
  have hedge : ∀ {a c}, Extends decls a c → a ∉ d.changed → last.find c < last.find a := by
    intro a c hac ha
    have hlift := succ_find_le_foldl_relax edges ⟨last, []⟩ h.describes.covers _ ((h.describes.mem_iff _ _).mpr hac)
    exact hlift.trans (not_lt.mp fun hlt => ha (h.mem_changed_iff.mpr hlt))
  intro rest
  induction rest with
  | nil =>
    intro a hchain hkept
    exact hedge (List.isChain_pair.mp hchain) (hkept a List.mem_cons_self)
  | cons c rest ih =>
    intro a hchain hkept
    obtain ⟨hac, hrest⟩ := List.isChain_cons_cons.mp hchain
    exact (ih hrest fun t ht => hkept t (List.mem_cons_of_mem _ ht)).trans (hedge hac (hkept a List.mem_cons_self))

/-- Every cycle has a type that is changed. -/
theorem LastPass.exists_changed (h : LastPass decls edges p d last) {s : Cycle ν} (hne : s ≠ Cycle.nil)
    (hs : s.Chain (Extends decls)) : ∃ t ∈ s, t ∈ d.changed := by
  induction s using Cycle.induction_on with
  | nil => exact absurd rfl hne
  | cons a rest _ =>
    by_contra hno
    have hkept : ∀ t ∈ a :: rest, t ∉ d.changed := fun t ht hchanged => hno ⟨t, ht, hchanged⟩
    exact Nat.lt_irrefl _ (h.find_lt_of_isChain ((Cycle.chain_coe_cons _ _ _).mp hs) hkept)

end LastPass

/-! ## Other names for the same graph -/

section Map

variable {ν μ : Type} {f : ν → μ} {decls : List (TypeDecl ν)}

theorem reachesCycle_map (hf : Function.Injective f) {t : ν} :
    ReachesCycle (decls.map (TypeDecl.map f)) (f t) ↔ ReachesCycle decls t := by
  constructor
  · rintro ⟨_, hreached, hcycle⟩
    obtain ⟨c, c', rfl, hc, hcycle⟩ := (transGen_map hf).mp hcycle
    obtain rfl := hf hc
    rcases Relation.reflTransGen_iff_eq_or_transGen.mp hreached with hsame | hreached
    · exact ⟨t, .refl, hf hsame ▸ hcycle⟩
    · obtain ⟨a, b, ha, hb, hab⟩ := (transGen_map hf).mp hreached
      obtain rfl := hf ha
      obtain rfl := hf hb
      exact ⟨b, hab.to_reflTransGen, hcycle⟩
  · rintro ⟨c, hreached, hcycle⟩
    have hedge : ∀ a b, Extends decls a b → Extends (decls.map (TypeDecl.map f)) (f a) (f b) :=
      fun a b hab => extends_map.mpr ⟨a, b, rfl, rfl, hab⟩
    exact ⟨f c, hreached.lift f hedge, hcycle.lift f hedge⟩

theorem mentioned_map [DecidableEq ν] [DecidableEq μ] (hf : Function.Injective f) (decls : List (TypeDecl ν)) :
    mentioned (decls.map (TypeDecl.map f)) = (mentioned decls).map f := by
  rw [mentioned, mentioned, ← distinct_map hf, List.map_flatMap, List.flatMap_map]
  rfl

theorem chain_extends_map {s : Cycle ν} (h : s.Chain (Extends decls)) :
    (s.map f).Chain (Extends (decls.map (TypeDecl.map f))) := by
  rw [Cycle.chain_map]
  exact h.imp fun a b hab => extends_map.mpr ⟨a, b, rfl, rfl, hab⟩

end Map

/-! ## Texts as names -/

/-- The names that are declared or inherited from, counted once each. -/
theorem length_mentioned (decls : List (TypeDecl String)) :
    (mentioned decls).length = (decls.flatMap fun d => d.name :: d.parents).toFinset.card := by
  rw [mentioned, ← List.toFinset_card_of_nodup (nodup_distinct _)]
  refine congrArg Finset.card ?_
  ext name
  rw [List.mem_toFinset, List.mem_toFinset, mem_distinct]

/-- Names in order, each once. -/
theorem pairwise_lt_mergeSort_distinct (names : List String) :
    ((distinct names).mergeSort fun s t => decide (s ≤ t)).Pairwise (· < ·) := by
  have hsorted : ((distinct names).mergeSort fun s t => decide (s ≤ t)).Pairwise fun s t => decide (s ≤ t) = true := by
    refine List.pairwise_mergeSort (fun a b c hab hbc => ?_) (fun a b => by simpa using le_total a b) _
    exact decide_eq_true ((of_decide_eq_true hab).trans (of_decide_eq_true hbc))
  have hnodup : ((distinct names).mergeSort fun s t => decide (s ≤ t)).Nodup :=
    (List.mergeSort_perm _ _).nodup_iff.mpr (nodup_distinct names)
  exact hsorted.imp₂ (fun a b hle hne => lt_of_le_of_ne (by simpa using hle) hne) hnodup

/-- **The types that are reported are those that keep the depths from settling.** With a cycle the default limit ends the
passes, one after as many as there are names. The report lists declared types in order, each once. Each of them lies on a
cycle or inherits from one, directly or not, and of every cycle it lists a type. -/
theorem types_of_cyclic_graph {decls : List (TypeDecl String)} (h : Cyclic decls) :
    ∃ names passes, (resolveDepths (decls.map (TypeDecl.map Value.str)) none).outcome
        = .error (.problem (.inheritanceCycle names passes)) ∧
      passes = (decls.flatMap fun d => d.name :: d.parents).toFinset.card + 1 ∧
      names ≠ [] ∧ names.Pairwise (· < ·) ∧
      (∀ t ∈ names, (∃ d ∈ decls, d.name = t) ∧ ReachesCycle decls t) ∧
      ∀ s : Cycle String, s ≠ Cycle.nil → s.Chain (Extends decls) → ∃ t ∈ s, t ∈ names := by
  cases hr : resolve Value.Key.le (decls.map (TypeDecl.map Value.Key.text)) none with
  | ok r => exact absurd ((cyclic_map text_injective).mpr h) (resolve_ok hr).1
  | error d =>
    obtain ⟨texts, htexts, hfail⟩ := resolveDepths_of_error hr
    rw [resolve_none, mentioned_map text_injective, List.length_map] at hr
    obtain ⟨hpasses, last, hlast⟩ := exists_lastPass_resolve hr
    have hmem : ∀ t, t ∈ (distinct texts).mergeSort (fun s t => decide (s ≤ t)) ↔ Value.Key.text t ∈ d.changed := by
      intro t
      rw [List.mem_mergeSort, mem_distinct, htexts, List.mem_map_of_injective text_injective]
    refine ⟨_, _, hfail, ?_, ?_, pairwise_lt_mergeSort_distinct texts, fun t ht => ⟨?_, ?_⟩, fun s hne hs => ?_⟩
    · rw [hpasses, ← length_mentioned]
      omega
    · obtain ⟨x, hx⟩ := List.exists_mem_of_ne_nil _ hlast.changed_ne
      rw [htexts] at hx
      obtain ⟨t, ht, rfl⟩ := List.mem_map.mp hx
      exact List.ne_nil_of_mem (List.mem_mergeSort.mpr ((mem_distinct _).mpr ht))
    · obtain ⟨e, he, hname⟩ := resolve_error hr _ ((hmem t).mp ht)
      obtain ⟨decl, hdecl, rfl⟩ := List.mem_map.mp he
      exact ⟨decl, hdecl, text_injective hname⟩
    · rw [← reachesCycle_map text_injective]
      refine hlast.reachesCycle ?_ ((hmem t).mp ht)
      rw [mentioned_map text_injective, List.length_map]
      omega
    · have hmapped : s.map Value.Key.text ≠ Cycle.nil := (Cycle.map_eq_nil _ _).not.mpr hne
      obtain ⟨x, hx, hchanged⟩ := hlast.exists_changed hmapped (chain_extends_map hs)
      obtain ⟨t, ht, rfl⟩ := Cycle.mem_map.mp hx
      exact ⟨t, ht, (hmem t).mpr hchanged⟩

/-- A type that extends itself, one below it, and one that only extends a type from elsewhere. -/
def selfExtension : List (TypeDecl String) := [⟨"Widget", ["Component"]⟩, ⟨"Loop", ["Loop"]⟩, ⟨"Below", ["Loop"]⟩]

/-- The type that extends itself is reported, and the one that has nothing to do with it is not. -/
theorem types_of_selfExtension : Cyclic selfExtension ∧ ∃ names,
    (resolveDepths (selfExtension.map (TypeDecl.map Value.str)) none).outcome
      = .error (.problem (.inheritanceCycle names 5)) ∧ "Loop" ∈ names ∧ "Widget" ∉ names := by
  have hloop : Extends selfExtension "Loop" "Loop" := ⟨⟨"Loop", ["Loop"]⟩, by simp [selfExtension], rfl, by simp⟩
  have hcyclic : Cyclic selfExtension := ⟨"Loop", .single hloop⟩
  have hwidget : ∀ b, Extends selfExtension "Widget" b → b = "Component" := by simp [Extends, selfExtension]
  have hcomponent : ∀ b, ¬ Extends selfExtension "Component" b := by simp [Extends, selfExtension]
  have hapart : ¬ ReachesCycle selfExtension "Widget" := by
    have hall : ∀ c, Relation.ReflTransGen (Extends selfExtension) "Widget" c → c = "Widget" ∨ c = "Component" := by
      intro c hreached
      induction hreached with
      | refl => exact .inl rfl
      | tail _ hab ih =>
        rcases ih with rfl | rfl
        · exact .inr (hwidget _ hab)
        · exact absurd hab (hcomponent _)
    rintro ⟨c, hreached, hcycle⟩
    obtain ⟨b, hcb, hback⟩ := Relation.TransGen.head'_iff.mp hcycle
    rcases hall c hreached with rfl | rfl
    · obtain rfl := hwidget b hcb
      rcases hback.cases_head with hsame | ⟨e, he, -⟩
      · simp at hsame
      · exact hcomponent e he
    · exact hcomponent b hcb
  obtain ⟨names, passes, hfail, hpasses, -, -, hreaches, hcovers⟩ := types_of_cyclic_graph hcyclic
  obtain rfl : passes = 5 := hpasses
  obtain ⟨t, ht, hnames⟩ := hcovers ["Loop"] (by simp) (by simpa using hloop)
  obtain rfl : t = "Loop" := by simpa using ht
  exact ⟨hcyclic, names, hfail, hnames, fun hmem => hapart (hreaches _ hmem).2⟩

end CodeMetrics.Inheritance
