import CodeMetrics.Metrics.Structure
import CodeMetrics.Proofs.Inheritance.Convergence
import CodeMetrics.Proofs.Outcome
import Mathlib.Data.Set.List

/-!
# Depths of named types

Depths as they are resolved for names taken from documents. Names that are texts are keys, keys have an order, and the
names of a cycle can be listed; so only a cycle stands between declarations and their depths. The graph by keys is the
graph by names (`extends_map`), and `Inheritance.resolve` finds its longest chains.
-/

namespace CodeMetrics

/-- A declaration under other names. -/
def TypeDecl.map {ν μ : Type} (f : ν → μ) (d : TypeDecl ν) : TypeDecl μ := ⟨f d.name, d.parents.map f⟩

namespace Inheritance

/-! ## Other names for the same graph -/

section Map

variable {ν μ : Type} {f : ν → μ} {decls : List (TypeDecl ν)}

theorem extends_map {x y : μ} :
    Extends (decls.map (TypeDecl.map f)) x y ↔ ∃ a b, f a = x ∧ f b = y ∧ Extends decls a b := by
  constructor
  · rintro ⟨_, hmem, rfl, hy⟩
    obtain ⟨d, hd, rfl⟩ := List.mem_map.mp hmem
    obtain ⟨b, hb, rfl⟩ := List.mem_map.mp hy
    exact ⟨d.name, b, rfl, rfl, d, hd, rfl, hb⟩
  · rintro ⟨a, b, rfl, rfl, d, hd, rfl, hb⟩
    exact ⟨d.map f, List.mem_map_of_mem hd, rfl, List.mem_map_of_mem hb⟩

theorem hasChain_map (hf : Function.Injective f) {t : ν} {k : Nat} :
    HasChain (decls.map (TypeDecl.map f)) (f t) k ↔ HasChain decls t k := by
  induction k generalizing t with
  | zero => exact ⟨fun h => absurd h.pos (Nat.lt_irrefl 0), fun h => absurd h.pos (Nat.lt_irrefl 0)⟩
  | succ k ih =>
    rcases Nat.eq_zero_or_pos k with rfl | hpos
    · exact ⟨fun _ => .one t, fun _ => .one (f t)⟩
    · constructor
      · intro h
        obtain ⟨y, hty, hy⟩ := h.exists_parent hpos
        obtain ⟨a, b, ha, rfl, hab⟩ := extends_map.mp hty
        rw [hf ha] at hab
        exact (ih.mp hy).cons hab
      · intro h
        obtain ⟨b, htb, hb⟩ := h.exists_parent hpos
        exact (ih.mpr hb).cons (extends_map.mpr ⟨t, b, rfl, rfl, htb⟩)

/-- Every type that is reached has a name of the original graph, and is reached there. -/
theorem transGen_map (hf : Function.Injective f) {x y : μ} :
    Relation.TransGen (Extends (decls.map (TypeDecl.map f))) x y ↔
      ∃ a b, f a = x ∧ f b = y ∧ Relation.TransGen (Extends decls) a b := by
  constructor
  · intro hxy
    induction hxy with
    | single h =>
      obtain ⟨a, b, ha, hb, hab⟩ := extends_map.mp h
      exact ⟨a, b, ha, hb, .single hab⟩
    | tail _ h ih =>
      obtain ⟨a, b, ha, hb, hab⟩ := ih
      obtain ⟨b', c, hb', hc, hbc⟩ := extends_map.mp h
      rw [hf (hb'.trans hb.symm)] at hbc
      exact ⟨a, c, ha, hc, hab.tail hbc⟩
  · rintro ⟨a, b, rfl, rfl, hab⟩
    exact hab.lift f fun c d hcd => extends_map.mpr ⟨c, d, rfl, rfl, hcd⟩

theorem cyclic_map (hf : Function.Injective f) : Cyclic (decls.map (TypeDecl.map f)) ↔ Cyclic decls := by
  constructor
  · rintro ⟨x, hx⟩
    obtain ⟨a, b, ha, hb, hab⟩ := (transGen_map hf).mp hx
    rw [hf (hb.trans ha.symm)] at hab
    exact ⟨a, hab⟩
  · rintro ⟨a, ha⟩
    exact ⟨f a, (transGen_map hf).mpr ⟨a, a, rfl, rfl, ha⟩⟩

/-- The depth does not depend on names. -/
theorem IsDepth.map (hf : Function.Injective f) {depth : Nat} (h : IsDepth decls depth) :
    IsDepth (decls.map (TypeDecl.map f)) depth := by
  have hlengths : {k | k = 0 ∨ ∃ d ∈ decls.map (TypeDecl.map f), HasChain (decls.map (TypeDecl.map f)) d.name k}
      = {k | k = 0 ∨ ∃ d ∈ decls, HasChain decls d.name k} := by
    ext k
    refine or_congr Iff.rfl ⟨?_, ?_⟩
    · rintro ⟨_, hmem, hchain⟩
      obtain ⟨d, hd, rfl⟩ := List.mem_map.mp hmem
      exact ⟨d, hd, (hasChain_map hf).mp hchain⟩
    · rintro ⟨d, hd, hchain⟩
      exact ⟨d.map f, List.mem_map_of_mem hd, (hasChain_map hf).mpr hchain⟩
  refine ⟨fun hc => h.of_cyclic ((cyclic_map hf).mp hc), fun hac => ?_⟩
  rw [hlengths]
  exact h.of_acyclic fun hc => hac ((cyclic_map hf).mpr hc)

end Map

/-! ## Texts as names -/

theorem keyed_texts (decls : List (TypeDecl String)) :
    (decls.map (TypeDecl.map Value.str)).mapM TypeDecl.keyed = .ok (decls.map (TypeDecl.map Value.Key.text)) := by
  rw [List.mapM_map]
  refine Outcome.mapM_eq_ok_map fun d _ => ?_
  have hparents : (d.parents.map Value.str).mapM nameKey = .ok (d.parents.map Value.Key.text) := by
    rw [List.mapM_map]
    exact Outcome.mapM_eq_ok_map fun _ _ => rfl
  simp only [Function.comp_apply, TypeDecl.map, TypeDecl.keyed, hparents]
  rfl

theorem ordered_texts (decls : List (TypeDecl String)) :
    let edges := Inheritance.edges Value.Key.le (decls.map (TypeDecl.map Value.Key.text))
    (edges.any fun a => edges.any fun b => unordered a b) = false := by
  simp only [List.any_eq_false, Bool.not_eq_true]
  rintro ⟨a, b⟩ he ⟨c, d⟩ he'
  obtain ⟨a, b, rfl, rfl, -⟩ := extends_map.mp (mem_edges.mp he)
  obtain ⟨c, d, rfl, rfl, -⟩ := extends_map.mp (mem_edges.mp he')
  simp [unordered, Value.Key.isOrdered]

theorem cycleNames_texts (texts : List String) :
    cycleNames (texts.map Value.Key.text) = .ok ((distinct texts).mergeSort fun s t => decide (s ≤ t)) := by
  have hall : (texts.map Value.Key.text).mapM Value.Key.text? = .ok texts := by
    rw [List.mapM_map, Outcome.mapM_eq_ok, List.forall₂_same]
    exact fun _ _ => rfl
  exact Outcome.bind_eq_ok.mpr ⟨texts, hall, rfl⟩

theorem declaredName_text {decls : List (TypeDecl String)} {s : String} (h : ∃ d ∈ decls, d.name = s) :
    declaredName (decls.map (TypeDecl.map Value.str)) (.text s) = .str s := by
  unfold declaredName
  cases hfind : (decls.map (TypeDecl.map Value.str)).find? fun d => d.name.key? = some (.text s) with
  | some d =>
    obtain ⟨d, -, rfl⟩ := List.mem_map.mp (List.mem_of_find?_eq_some hfind)
    have hkey := List.find?_some hfind
    simp [TypeDecl.map, Value.key?] at hkey
    simp [TypeDecl.map, hkey]
  | none =>
    obtain ⟨d, hd, rfl⟩ := h
    have hkey := List.find?_eq_none.mp hfind _ (List.mem_map_of_mem hd)
    simp [TypeDecl.map, Value.key?] at hkey

/-- With texts as names, resolving depths comes down to the passes over the graph by keys. -/
theorem resolveDepths_texts (decls : List (TypeDecl String)) (limit : Option Int) :
    (resolveDepths (decls.map (TypeDecl.map Value.str)) limit).outcome =
      match resolve Value.Key.le (decls.map (TypeDecl.map Value.Key.text)) limit with
      | .error d => do
        let names ← cycleNames d.changed
        .error (.problem (.inheritanceCycle names d.passes))
      | .ok r => .ok (r.depths.map fun (k, d) => (declaredName (decls.map (TypeDecl.map Value.str)) k, d)) := by
  unfold resolveDepths
  rw [Traced.outcome_bind, Traced.outcome_lift, keyed_texts]
  show (if _ then _ else _ : Traced _).outcome = _
  rw [if_neg (by rw [ordered_texts]; exact Bool.false_ne_true)]
  cases resolve Value.Key.le (decls.map (TypeDecl.map Value.Key.text)) limit with
  | error d => simp only [Traced.outcome_bind, Traced.outcome_lift, Traced.outcome_fail]
  | ok r =>
    simp only [Traced.outcome_bind, Traced.outcome_note, Traced.outcome_pure]
    rfl

theorem text_injective : Function.Injective Value.Key.text := fun _ _ h => Value.Key.text.inj h

theorem distinct_map {α β : Type} [DecidableEq α] [DecidableEq β] {f : α → β} (hf : Function.Injective f)
    (l : List α) : distinct (l.map f) = (distinct l).map f := by
  induction l with
  | nil => rfl
  | cons a rest ih =>
    simp only [List.map_cons, distinct, ih, List.filter_map, Function.comp_def, ne_eq, hf.eq_iff]

theorem names_keyed (decls : List (TypeDecl String)) :
    distinct ((decls.map (TypeDecl.map Value.Key.text)).map (·.name)) =
      (distinct (decls.map (·.name))).map Value.Key.text := by
  rw [← distinct_map text_injective, List.map_map, List.map_map]
  rfl

/-- Entries are under the keys of declared names, and those stand for the names themselves. -/
theorem exists_declaredName {decls : List (TypeDecl String)} {depths : Depths Value.Key} {e : Value.Key × Nat}
    (hnames : depths.names = (distinct (decls.map (·.name))).map Value.Key.text) (he : e ∈ depths) :
    ∃ s, e.1 = .text s ∧ declaredName (decls.map (TypeDecl.map Value.str)) e.1 = .str s := by
  have hmem : e.1 ∈ depths.names := List.mem_map_of_mem he
  rw [hnames, List.mem_map] at hmem
  obtain ⟨s, hs, hes⟩ := hmem
  rw [mem_distinct, List.mem_map] at hs
  exact ⟨s, hes.symm, by rw [← hes]; exact declaredName_text hs⟩

/-- If depths are returned there is no cycle, the names are the declared ones in the order of their declaration, and
each depth is that of the longest chain. -/
theorem resolveDepths_ok {decls : List (TypeDecl String)} {limit : Option Int} {depths : List (Value × Nat)}
    (h : (resolveDepths (decls.map (TypeDecl.map Value.str)) limit).outcome = .ok depths) :
    ¬ Cyclic decls ∧ depths.map (·.1) = (distinct (decls.map (·.name))).map Value.str ∧
      ∀ t n, (.str t, n) ∈ depths → IsGreatest {k | HasChain decls t k} n := by
  rw [resolveDepths_texts] at h
  split at h
  · obtain ⟨names, -, hfail⟩ := Outcome.bind_eq_ok.mp h
    cases hfail
  · next r hr =>
    obtain ⟨hac, hnames, hgreatest⟩ := resolve_ok hr
    rw [names_keyed] at hnames
    cases h
    refine ⟨fun hc => hac ((cyclic_map text_injective).mpr hc), ?_, ?_⟩
    · have hkeys : r.depths.map (fun e => declaredName (decls.map (TypeDecl.map Value.str)) e.1) =
          r.depths.names.map (declaredName (decls.map (TypeDecl.map Value.str))) := by
        rw [Depths.names, List.map_map]
        rfl
      rw [List.map_map, Function.comp_def, hkeys, hnames, List.map_map]
      refine List.map_congr_left fun s hs => ?_
      rw [mem_distinct, List.mem_map] at hs
      exact declaredName_text hs
    · intro t n htn
      obtain ⟨e, he, hetn⟩ := List.mem_map.mp htn
      obtain ⟨s, hes, hname⟩ := exists_declaredName hnames he
      obtain ⟨hst, rfl⟩ := Prod.mk.inj hetn
      rw [hname] at hst
      cases hst
      have hnd : r.depths.names.Nodup := by
        rw [hnames]
        exact (nodup_distinct _).map text_injective
      have hfind : r.depths.find (.text t) = e.2 := Depths.find_of_mem hnd (hes ▸ he)
      have hg := hgreatest (.text t)
      rw [hfind] at hg
      simpa only [hasChain_map text_injective] using hg

/-- Without a cycle the default limit lets depths be found. -/
theorem resolveDepths_of_acyclic {decls : List (TypeDecl String)} (h : ¬ Cyclic decls) :
    ∃ depths, (resolveDepths (decls.map (TypeDecl.map Value.str)) none).outcome = .ok depths := by
  obtain ⟨r, hr⟩ := resolve_of_acyclic Value.Key.le fun hc => h ((cyclic_map text_injective).mp hc)
  rw [resolveDepths_texts, hr]
  exact ⟨_, rfl⟩

/-- Where the passes over the graph by keys do not end, the names that the last one changed are reported. -/
theorem resolveDepths_of_error {decls : List (TypeDecl String)} {limit : Option Int} {d : Divergence Value.Key}
    (h : resolve Value.Key.le (decls.map (TypeDecl.map Value.Key.text)) limit = .error d) :
    ∃ texts : List String, d.changed = texts.map Value.Key.text ∧
      (resolveDepths (decls.map (TypeDecl.map Value.str)) limit).outcome =
        .error (.problem (.inheritanceCycle ((distinct texts).mergeSort fun s t => decide (s ≤ t)) d.passes)) := by
  have htexts : d.changed ∈ Set.range (List.map Value.Key.text) := by
    rw [Set.range_list_map]
    intro x hx
    obtain ⟨decl, hdecl, rfl⟩ := resolve_error h x hx
    obtain ⟨e, -, rfl⟩ := List.mem_map.mp hdecl
    exact ⟨e.name, rfl⟩
  obtain ⟨texts, htexts⟩ := htexts
  refine ⟨texts, htexts.symm, ?_⟩
  rw [resolveDepths_texts, h]
  simp only [← htexts, cycleNames_texts]
  rfl

/-- A cycle is reported as such, whatever the limit. -/
theorem resolveDepths_of_cyclic {decls : List (TypeDecl String)} (h : Cyclic decls) (limit : Option Int) :
    ∃ names passes, (resolveDepths (decls.map (TypeDecl.map Value.str)) limit).outcome =
      .error (.problem (.inheritanceCycle names passes)) := by
  cases hr : resolve Value.Key.le (decls.map (TypeDecl.map Value.Key.text)) limit with
  | ok r => exact absurd ((cyclic_map text_injective).mpr h) (resolve_ok hr).1
  | error d =>
    obtain ⟨texts, -, hfail⟩ := resolveDepths_of_error hr
    exact ⟨_, _, hfail⟩

/-- **Depths are longest chains.** Declarations with texts as names, repeated ones included, are refused exactly when
their graph has a cycle. Otherwise every declared name, and nothing else, has one depth: the number of types on the
longest chain that starts at it. -/
theorem depths_are_longest_chains (decls : List (TypeDecl String)) :
    let outcome := (resolveDepths (decls.map (TypeDecl.map Value.str)) none).outcome
    (Cyclic decls → ∃ names passes, outcome = .error (.problem (.inheritanceCycle names passes))) ∧
    (¬ Cyclic decls → ∃ depths, outcome = .ok depths ∧ (depths.map (·.1)).Nodup ∧
      (∀ v, v ∈ depths.map (·.1) ↔ ∃ d ∈ decls, v = .str d.name) ∧
      ∀ t n, (.str t, n) ∈ depths → IsGreatest {k | HasChain decls t k} n) := by
  refine ⟨fun hc => resolveDepths_of_cyclic hc none, fun hac => ?_⟩
  obtain ⟨depths, hd⟩ := resolveDepths_of_acyclic hac
  obtain ⟨-, hnames, hgreatest⟩ := resolveDepths_ok hd
  refine ⟨depths, hd, ?_, ?_, hgreatest⟩
  · rw [hnames]
    exact (nodup_distinct _).map fun _ _ h => Value.str.inj h
  · intro v
    rw [hnames]
    simp only [List.mem_map, mem_distinct]
    constructor
    · rintro ⟨s, ⟨d, hd, rfl⟩, rfl⟩
      exact ⟨d, hd, rfl⟩
    · rintro ⟨d, hd, rfl⟩
      exact ⟨d.name, ⟨d, hd, rfl⟩, rfl⟩

end Inheritance

end CodeMetrics
