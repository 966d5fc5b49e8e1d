import CodeMetrics.Proofs.Inheritance.Keys
import CodeMetrics.Proofs.Inheritance.Limits
import CodeMetrics.Proofs.Units.Order
import Mathlib.Data.List.Perm.Basic
import Mathlib.Data.List.Perm.Lattice

/-!
# Depths go by the graph

Declarations matter only through the names that they declare and the pairs of a name and a parent. Two lists with the same
names and pairs have the same edges in the same order (`edges_congr`), so that every pass makes the same changes
(`passesFrom_congr`); then either both have the same depths after as many passes, or both fail alike.

* `resolve_congr` — the passes, for the same graph
* `resolveDepths_cases` — what becomes of names that are values of any kind
* `resolveDepths_congr` — the depths, for the same graph
-/

namespace CodeMetrics.Inheritance

/-! ## Passes over the same edges -/

section Passes

variable {ν : Type} [DecidableEq ν] {edges : List (ν × ν)}

theorem relax_congr {pass pass' : Pass ν} {child : ν} (parent : ν) (hc : child ∈ pass.depths.names)
    (hc' : child ∈ pass'.depths.names) (hfind : ∀ x, pass.depths.find x = pass'.depths.find x)
    (hchanged : pass.changed = pass'.changed) :
    (∀ x, (pass.relax (child, parent)).depths.find x = (pass'.relax (child, parent)).depths.find x) ∧
      (pass.relax (child, parent)).changed = (pass'.relax (child, parent)).changed := by
  refine ⟨fun x => by rw [pass.find_relax _ _ hc, pass'.find_relax _ _ hc', hfind, hfind, hfind], ?_⟩
  simp only [Pass.relax, hfind]
  split
  · exact congrArg (child :: ·) hchanged
  · exact hchanged

/-- A pass makes the same changes to depths that are the same for every name. -/
theorem onePass_congr {depths depths' : Depths ν} (hc : Covers depths edges) (hc' : Covers depths' edges)
    (hfind : ∀ x, depths.find x = depths'.find x) :
    (∀ x, (onePass edges depths).depths.find x = (onePass edges depths').depths.find x) ∧
      (onePass edges depths).changed = (onePass edges depths').changed := by
  have all : ∀ (l : List (ν × ν)) (pass pass' : Pass ν), Covers pass.depths l → Covers pass'.depths l →
      (∀ x, pass.depths.find x = pass'.depths.find x) → pass.changed = pass'.changed →
      (∀ x, (l.foldl Pass.relax pass).depths.find x = (l.foldl Pass.relax pass').depths.find x) ∧
        (l.foldl Pass.relax pass).changed = (l.foldl Pass.relax pass').changed := by
    intro l
    induction l with
    | nil => exact fun _ _ _ _ hfind hchanged => ⟨hfind, hchanged⟩
    | cons e rest ih =>
      intro pass pass' hc hc' hfind hchanged
      obtain ⟨child, parent⟩ := e
      obtain ⟨hfind, hchanged⟩ := relax_congr parent hc.head hc'.head hfind hchanged
      exact ih _ _ (hc.tail.congr (Pass.names_relax _ _)) (hc'.tail.congr (Pass.names_relax _ _)) hfind hchanged
  exact all edges _ _ hc hc' hfind rfl

/-- Resolutions with the same depth for every name after as many passes, over given names. -/
structure SameResolution (names names' : List ν) (r r' : Resolution ν) : Prop where
  passes_eq : r.passes = r'.passes
  find_eq (x : ν) : r.depths.find x = r'.depths.find x
  names_eq : r.depths.names = names
  names_eq' : r'.depths.names = names'

/-- The loop makes the same passes over depths that are the same for every name. -/
theorem passesFrom_congr : ∀ {remaining done : Nat} {depths depths' : Depths ν}, Covers depths edges →
    Covers depths' edges → (∀ x, depths.find x = depths'.find x) →
    Outcome.Rel (SameResolution depths.names depths'.names) (passesFrom edges remaining done depths)
      (passesFrom edges remaining done depths') := by
  -- Both loops go on or stop together, as what a pass changes decides about the next.
  intro remaining
  induction remaining with
  | zero =>
    intro done depths depths' hc hc' hfind
    obtain ⟨hfind, hchanged⟩ := onePass_congr hc hc' hfind
    rw [passesFrom, passesFrom, hchanged]
    split
    · exact .ok ⟨rfl, hfind, names_onePass .., names_onePass ..⟩
    · exact .error _
  | succ remaining ih =>
    intro done depths depths' hc hc' hfind
    obtain ⟨hfind, hchanged⟩ := onePass_congr hc hc' hfind
    have hnames := names_onePass edges depths
    have hnames' := names_onePass edges depths'
    rw [passesFrom, passesFrom, hchanged]
    split
    · exact .ok ⟨rfl, hfind, hnames, hnames'⟩
    · have hlater := @ih (done + 1) _ _ (hc.congr hnames) (hc'.congr hnames') hfind
      rw [hnames, hnames'] at hlater
      exact hlater

/-- Depths with one entry for each name are known from their names and from the depth of every name. -/
theorem Depths.eq_map_names {depths : Depths ν} (hnd : depths.names.Nodup) :
    depths = depths.names.map fun n => (n, depths.find n) := by
  have hentry : ∀ e ∈ depths, (e.1, depths.find e.1) = e := fun e he => by rw [Depths.find_of_mem hnd he]
  rw [Depths.names, List.map_map]
  exact ((List.map_congr_left hentry).trans (List.map_id' depths)).symm

end Passes

/-! ## The edges of a graph -/

section Graph

variable {ν : Type} [DecidableEq ν] {decls others : List (TypeDecl ν)}

/-- Lists without repetition and with the same members have as many. -/
theorem perm_distinct {as bs : List ν} (h : ∀ a, a ∈ as ↔ a ∈ bs) : (distinct as).Perm (distinct bs) :=
  (List.perm_ext_iff_of_nodup (nodup_distinct as) (nodup_distinct bs)).mpr fun a => by rw [mem_distinct, mem_distinct, h]

/-- The same names are declared, with the same parents. -/
structure SameGraph (decls others : List (TypeDecl ν)) : Prop where
  names (t : ν) : (∃ d ∈ decls, d.name = t) ↔ ∃ d ∈ others, d.name = t
  edges (a b : ν) : Extends decls a b ↔ Extends others a b

theorem SameGraph.perm_names (h : SameGraph decls others) :
    (distinct (decls.map (·.name))).Perm (distinct (others.map (·.name))) :=
  perm_distinct fun t => by simpa only [List.mem_map] using h.names t

theorem SameGraph.length_mentioned (h : SameGraph decls others) :
    (mentioned decls).length = (mentioned others).length := by
  have hmem : ∀ {decls : List (TypeDecl ν)} {a : ν}, (∃ d ∈ decls, a = d.name ∨ a ∈ d.parents) ↔
      (∃ d ∈ decls, d.name = a) ∨ ∃ b, Extends decls b a := by
    intro decls a
    constructor
    · rintro ⟨d, hd, rfl | ha⟩
      · exact .inl ⟨d, hd, rfl⟩
      · exact .inr ⟨d.name, d, hd, rfl, ha⟩
    · rintro (⟨d, hd, rfl⟩ | ⟨b, d, hd, -, ha⟩)
      · exact ⟨d, hd, .inl rfl⟩
      · exact ⟨d, hd, .inr ha⟩
  refine ((List.perm_ext_iff_of_nodup (nodup_distinct _) (nodup_distinct _)).mpr fun a => ?_).length_eq
  rw [← mentioned, ← mentioned, mem_mentioned, mem_mentioned, hmem, hmem, h.names]
  simp only [h.edges]

/-- **The passes go by the graph**, once its edges are in the same order. -/
theorem resolve_congr {le : ν → ν → Bool} (h : SameGraph decls others)
    (hedges : Inheritance.edges le decls = Inheritance.edges le others) (limit : Option Int) :
    Outcome.Rel (SameResolution (distinct (decls.map (·.name))) (distinct (others.map (·.name))))
      (resolve le decls limit) (resolve le others limit) := by
  have hsame := @passesFrom_congr ν _ (Inheritance.edges le decls)
    ((limit.getD ((mentioned decls).length + 1)).toNat - 1) 0 (start decls) (start others) (describes_start le).covers
    (hedges ▸ (describes_start le).covers) fun x => by rw [find_start, find_start]
  rw [names_start, names_start] at hsame
  rw [resolve, resolve, ← hedges, ← h.length_mentioned]
  exact hsame

end Graph

/-! ## Edges in order -/

section Edges

open Value (Key)

/-- Both names of an edge have a place in the order of keys. -/
def HavePlaces (e : Key × Key) : Prop := e.1.hasPlace = true ∧ e.2.hasPlace = true

theorem pairLe_total {a b : Key × Key} (ha : HavePlaces a) (hb : HavePlaces b) :
    (pairLe Key.le a b || pairLe Key.le b a) = true := by
  unfold pairLe
  by_cases hab : a.1 = b.1
  · rw [if_pos hab, if_pos hab.symm]
    exact Key.total_of_hasPlace ha.2 hb.2
  · rw [if_neg hab, if_neg (Ne.symm hab)]
    exact Key.total_of_hasPlace ha.1 hb.1

theorem pairLe_antisymm {a b : Key × Key} (ha : HavePlaces a) (hb : HavePlaces b) (hab : pairLe Key.le a b = true)
    (hba : pairLe Key.le b a = true) : a = b := by
  unfold pairLe at hab hba
  by_cases hfirst : a.1 = b.1
  · rw [if_pos hfirst] at hab
    rw [if_pos hfirst.symm] at hba
    exact Prod.ext hfirst (Key.antisymm_of_hasPlace ha.2 hb.2 hab hba)
  · rw [if_neg hfirst] at hab
    rw [if_neg (Ne.symm hfirst)] at hba
    exact absurd (Key.antisymm_of_hasPlace ha.1 hb.1 hab hba) hfirst

theorem pairLe_trans {a b c : Key × Key} (ha : HavePlaces a) (hb : HavePlaces b) (hab : pairLe Key.le a b = true)
    (hbc : pairLe Key.le b c = true) : pairLe Key.le a c = true := by
  unfold pairLe at hab hbc ⊢
  by_cases hfirst : a.1 = b.1
  · rw [if_pos hfirst] at hab
    rw [hfirst]
    by_cases hsecond : b.1 = c.1
    · rw [if_pos hsecond] at hbc ⊢
      exact Key.trans_of_hasPlace hb.2 hab hbc
    · rw [if_neg hsecond] at hbc ⊢
      exact hbc
  · rw [if_neg hfirst] at hab
    by_cases hsecond : b.1 = c.1
    · rwa [← hsecond, if_neg hfirst]
    · rw [if_neg hsecond] at hbc
      -- Going up and back again would make the first names the same.
      have hne : a.1 ≠ c.1 := fun hac => hfirst (Key.antisymm_of_hasPlace ha.1 hb.1 hab (hac ▸ hbc))
      rw [if_neg hne]
      exact Key.trans_of_hasPlace hb.1 hab hbc

/-- Edges whose names have places are put in order. -/
theorem pairwise_mergeSort_pairLe {l : List (Key × Key)} (h : ∀ e ∈ l, HavePlaces e) :
    (l.mergeSort (pairLe Key.le)).Pairwise fun a b => pairLe Key.le a b = true := by
  -- Sorted as edges of which the names have places, where the order is total.
  let le : { e // HavePlaces e } → { e // HavePlaces e } → Bool := fun a b => pairLe Key.le a.1 b.1
  have htrans : ∀ a b c, le a b = true → le b c = true → le a c = true := fun a b _ => pairLe_trans a.2 b.2
  have htotal : ∀ a b, (le a b || le b a) = true := fun a b => pairLe_total a.2 b.2
  have hsorted := List.pairwise_mergeSort htrans htotal (l.attachWith HavePlaces h)
  have hmap : ((l.attachWith HavePlaces h).mergeSort le).map Subtype.val
      = ((l.attachWith HavePlaces h).map Subtype.val).mergeSort (pairLe Key.le) :=
    List.map_mergeSort fun _ _ _ _ => rfl
  rw [List.attachWith_map_subtype_val] at hmap
  rw [← hmap]
  exact hsorted.map _ fun _ _ hab => hab

/-- **The edges of a graph are in one order**, whatever the order of its declarations. -/
theorem edges_congr {decls others : List (TypeDecl Key)} (h : SameGraph decls others)
    (hplaces : ∀ a b, Extends decls a b → HavePlaces (a, b)) : edges Key.le decls = edges Key.le others := by
  have hmem : ∀ e, e ∈ decls.flatMap (fun d => d.parents.map fun p => (d.name, p)) ↔
      e ∈ others.flatMap (fun d => d.parents.map fun p => (d.name, p)) := by
    rintro ⟨a, b⟩
    have hextends := h.edges a b
    rw [← @mem_edges _ _ _ Key.le, ← @mem_edges _ _ _ Key.le] at hextends
    simpa only [edges, List.mem_mergeSort, mem_distinct] using hextends
  have hall : ∀ e ∈ edges Key.le decls, HavePlaces e := fun e he => hplaces e.1 e.2 (mem_edges.mp he)
  have hall' : ∀ e ∈ edges Key.le others, HavePlaces e := fun e he =>
    hplaces e.1 e.2 ((h.edges _ _).mpr (mem_edges.mp he))
  have hperm : (edges Key.le decls).Perm (edges Key.le others) :=
    ((List.mergeSort_perm _ _).trans (perm_distinct hmem)).trans (List.mergeSort_perm _ _).symm
  refine hperm.eq_of_pairwise (fun a b ha hb hab hba => pairLe_antisymm (hall a ha) (hall' b hb) hab hba) ?_ ?_
  · exact pairwise_mergeSort_pairLe fun e he => hall e (List.mem_mergeSort.mpr he)
  · exact pairwise_mergeSort_pairLe fun e he => hall' e (List.mem_mergeSort.mpr he)

end Edges

/-! ## Names of any kind -/

section Values

open Value (Key)

variable {decls others merged : List (TypeDecl Value)} {keyed keyed' : List (TypeDecl Key)}

/-- Declarations by the keys of their names, of which some names have none. -/
def byKey (decls : List (TypeDecl Value)) : List (TypeDecl (Option Key)) := decls.map (TypeDecl.map Value.key?)

/-- All names have a place in the order of keys, as far as they have a key. -/
def AllHavePlaces (decls : List (TypeDecl Value)) : Prop :=
  ∀ k : Key, some k ∈ mentioned (byKey decls) → k.hasPlace = true

theorem mapM_keyed_eq_ok : decls.mapM TypeDecl.keyed = .ok keyed ↔ byKey decls = keyed.map (TypeDecl.map some) := by
  have hsame : ∀ (d : TypeDecl Value) (k : TypeDecl Key), d.keyed = .ok k ↔ d.map Value.key? = k.map some := by
    intro d k
    rw [keyed_eq_ok, TypeDecl.map, TypeDecl.map, TypeDecl.mk.injEq]
  simp only [Outcome.mapM_eq_ok, hsame]
  rw [byKey, ← List.forall₂_eq_eq_eq, List.forall₂_map_left_iff, List.forall₂_map_right_iff]

theorem exists_mapM_keyed_iff : (∃ keyed, decls.mapM TypeDecl.keyed = .ok keyed) ↔
    ∀ d ∈ decls, d.name.key? ≠ none ∧ ∀ v ∈ d.parents, v.key? ≠ none := by
  rw [Outcome.exists_mapM_iff]
  refine forall₂_congr fun d _ => ?_
  unfold TypeDecl.keyed
  rw [Outcome.exists_bind_eq_ok, Option.ne_none_iff_exists', ← exists_mapM_nameKey_iff]
  simp only [nameKey_eq_ok, Outcome.exists_bind_eq_ok]
  constructor
  · rintro ⟨k, hk, parents, hparents, -⟩
    exact ⟨⟨k, hk⟩, parents, hparents⟩
  · rintro ⟨⟨k, hk⟩, parents, hparents⟩
    exact ⟨k, hk, parents, hparents, _, rfl⟩

/-- A graph has the same names and edges under other names. -/
theorem sameGraph_map {ν μ : Type} {f : ν → μ} (hf : Function.Injective f) {decls others : List (TypeDecl ν)} :
    SameGraph (decls.map (TypeDecl.map f)) (others.map (TypeDecl.map f)) ↔ SameGraph decls others := by
  have hnames : ∀ (decls : List (TypeDecl ν)) (t : ν),
      (∃ d ∈ decls.map (TypeDecl.map f), d.name = f t) ↔ ∃ d ∈ decls, d.name = t := by
    intro decls t
    simp [TypeDecl.map, hf.eq_iff]
  have hedges : ∀ (decls : List (TypeDecl ν)) (a b : ν),
      Extends (decls.map (TypeDecl.map f)) (f a) (f b) ↔ Extends decls a b := by
    intro decls a b
    rw [extends_map]
    constructor
    · rintro ⟨a', b', ha, hb, hab⟩
      exact hf ha ▸ hf hb ▸ hab
    · exact fun hab => ⟨a, b, rfl, rfl, hab⟩
  constructor
  · intro h
    exact ⟨fun t => by rw [← hnames, h.names, hnames], fun a b => by rw [← hedges, h.edges, hedges]⟩
  · intro h
    refine ⟨fun t => ?_, fun a b => by simp only [extends_map, h.edges]⟩
    have hfrom : ∀ decls : List (TypeDecl ν),
        (∃ d ∈ decls.map (TypeDecl.map f), d.name = t) ↔ ∃ u, f u = t ∧ ∃ d ∈ decls, d.name = u := by
      intro decls
      constructor
      · rintro ⟨_, hmem, ht⟩
        obtain ⟨d, hd, rfl⟩ := List.mem_map.mp hmem
        exact ⟨d.name, ht, d, hd, rfl⟩
      · rintro ⟨_, ht, d, hd, rfl⟩
        exact ⟨d.map f, List.mem_map_of_mem hd, ht⟩
    simp only [hfrom, h.names]

theorem AllHavePlaces.havePlaces (h : AllHavePlaces decls) (hkeyed : byKey decls = keyed.map (TypeDecl.map some))
    {a b : Key} (hab : Extends keyed a b) : HavePlaces (a, b) := by
  have hedge : Extends (byKey decls) (some a) (some b) := by
    rw [hkeyed]
    exact extends_map.mpr ⟨a, b, rfl, rfl, hab⟩
  exact ⟨h a hedge.child_mem, h b hedge.parent_mem⟩

/-! ## Depths of the same graph -/

/-- The name that a key stands for, as it is first declared. -/
theorem declaredName_eq (decls : List (TypeDecl Value)) (k : Key) :
    declaredName decls k = ((decls.map (·.name)).find? fun v => v.key? = some k).getD .null := by
  unfold declaredName
  rw [List.find?_map]
  simp only [Function.comp_def]
  cases decls.find? fun d => d.name.key? = some k <;> rfl

theorem key?_declaredName {k : Key} (h : ∃ d ∈ decls, d.name.key? = some k) :
    (declaredName decls k).key? = some k := by
  unfold declaredName
  cases hfind : decls.find? fun d => d.name.key? = some k with
  | some d => simpa using List.find?_some hfind
  | none =>
    obtain ⟨d, hd, hkey⟩ := h
    simpa [hkey] using List.find?_eq_none.mp hfind d hd

/-- Depths under the names that are declared. -/
def named (decls : List (TypeDecl Value)) (depths : Depths Key) : List (Value × Nat) :=
  depths.map fun e => (declaredName decls e.1, e.2)

/-- Whether there are edges that have no order. -/
def hasUnordered (keyed : List (TypeDecl Key)) : Bool :=
  (edges Key.le keyed).any fun a => (edges Key.le keyed).any fun b => unordered a b

section Resolving

variable (hkeyed : decls.mapM TypeDecl.keyed = .ok keyed) {limit : Option Int}

include hkeyed

theorem resolveDepths_eq_refused (h : hasUnordered keyed = true) :
    resolveDepths decls limit = .fail (.mismatch (.notOrdered "<" "str" "int")) := by
  unfold resolveDepths
  rw [hkeyed]
  exact if_pos h

theorem resolveDepths_eq_fail (h : hasUnordered keyed = false) {d : Divergence Key}
    (hd : resolve Key.le keyed limit = .error d) :
    resolveDepths decls limit = Traced.lift (cycleNames d.changed) >>= fun names =>
      Traced.fail (.problem (.inheritanceCycle names d.passes)) := by
  unfold resolveDepths
  rw [hkeyed]
  refine (if_neg (Bool.eq_false_iff.mp h)).trans ?_
  rw [hd]

theorem resolveDepths_eq_found (h : hasUnordered keyed = false) {r : Resolution Key}
    (hr : resolve Key.le keyed limit = .ok r) :
    resolveDepths decls limit = ⟨[resolvedNote r.depths.length r.passes], .ok (named decls r.depths)⟩ := by
  unfold resolveDepths
  rw [hkeyed]
  refine (if_neg (Bool.eq_false_iff.mp h)).trans ?_
  rw [hr]
  rfl

end Resolving

/-- What becomes of declarations of the same graph: they fail alike, or have resolutions that are the same. -/
theorem resolveDepths_cases (hkeyed : decls.mapM TypeDecl.keyed = .ok keyed)
    (hkeyed' : others.mapM TypeDecl.keyed = .ok keyed') (hgraph : SameGraph keyed keyed')
    (hplaces : AllHavePlaces decls) (limit : Option Int) :
    (∃ e, resolveDepths decls limit = .fail e ∧ resolveDepths others limit = .fail e) ∨
      ∃ r r', SameResolution (distinct (keyed.map (·.name))) (distinct (keyed'.map (·.name))) r r' ∧
        resolveDepths decls limit = ⟨[resolvedNote r.depths.length r.passes], .ok (named decls r.depths)⟩ ∧
        resolveDepths others limit = ⟨[resolvedNote r'.depths.length r'.passes], .ok (named others r'.depths)⟩ := by
  have hedges := edges_congr hgraph fun a b => hplaces.havePlaces (mapM_keyed_eq_ok.mp hkeyed)
  have hsame : hasUnordered keyed = hasUnordered keyed' := by rw [hasUnordered, hasUnordered, hedges]
  cases hunordered : hasUnordered keyed with
  | true =>
    exact .inl ⟨_, resolveDepths_eq_refused hkeyed hunordered,
      resolveDepths_eq_refused hkeyed' (hsame ▸ hunordered)⟩
  | false =>
    have hunordered' : hasUnordered keyed' = false := hsame ▸ hunordered
    rcases (resolve_congr hgraph hedges limit).error_or_ok with ⟨d, hd, hd'⟩ | ⟨r, r', hr, hr', hresolution⟩
    · rw [resolveDepths_eq_fail hkeyed hunordered hd, resolveDepths_eq_fail hkeyed' hunordered' hd']
      cases cycleNames d.changed with
      | error e => exact .inl ⟨e, rfl, rfl⟩
      | ok names => exact .inl ⟨_, rfl, rfl⟩
    · exact .inr ⟨r, r', hresolution, resolveDepths_eq_found hkeyed hunordered hr,
        resolveDepths_eq_found hkeyed' hunordered' hr'⟩

/-- Two resolutions of depths come out the same: with the same depth for every name after as many passes, or with the same
error. -/
inductive SameDepths : Traced (List (Value × Nat)) → Traced (List (Value × Nat)) → Prop
  | found {depths depths' : List (Value × Nat)} (passes : Nat) (hnodup : (depths.map (·.1.key?)).Nodup)
      (hperm : (depths.map fun e => (e.1.key?, e.2)).Perm (depths'.map fun e => (e.1.key?, e.2))) :
      SameDepths ⟨[resolvedNote depths.length passes], .ok depths⟩ ⟨[resolvedNote depths'.length passes], .ok depths'⟩
  | failed (e : Error) : SameDepths (.fail e) (.fail e)

/-- Keys of declarations that all have one are those of the names. -/
theorem names_of_keyed (hkeyed : decls.mapM TypeDecl.keyed = .ok keyed) :
    (decls.map (·.name)).map Value.key? = (keyed.map (·.name)).map some := by
  have hnames := congrArg (List.map (·.name)) (mapM_keyed_eq_ok.mp hkeyed)
  rw [byKey, List.map_map, List.map_map] at hnames
  rw [List.map_map, List.map_map]
  exact hnames

theorem key?_declaredName_of_mem (hkeyed : decls.mapM TypeDecl.keyed = .ok keyed) {k : Key}
    (hk : k ∈ distinct (keyed.map (·.name))) : (declaredName decls k).key? = some k := by
  have hmem : some k ∈ (decls.map (·.name)).map Value.key? := by
    rw [names_of_keyed hkeyed]
    exact List.mem_map_of_mem ((mem_distinct _).mp hk)
  rw [List.map_map] at hmem
  obtain ⟨d, hd, hkey⟩ := List.mem_map.mp hmem
  exact key?_declaredName ⟨d, hd, hkey⟩

/-- Entries by key are those that were resolved. -/
theorem keys_named (hkeyed : decls.mapM TypeDecl.keyed = .ok keyed) {depths : Depths Key}
    (hnames : depths.names = distinct (keyed.map (·.name))) :
    (named decls depths).map (fun e => (e.1.key?, e.2)) = depths.map fun e => (some e.1, e.2) := by
  rw [named, List.map_map]
  refine List.map_congr_left fun e he => ?_
  have hmem : e.1 ∈ depths.names := List.mem_map_of_mem he
  rw [hnames] at hmem
  exact congrArg (·, e.2) (key?_declaredName_of_mem hkeyed hmem)

/-- Names without a key are refused. -/
theorem resolveDepths_of_unhashable {limit : Option Int} (h : decls.mapM TypeDecl.keyed = .error (.mismatch .unhashable)) :
    resolveDepths decls limit = .fail (.mismatch .unhashable) := by
  unfold resolveDepths
  rw [h]
  rfl

/-- Whether all names have keys is seen in the graph. -/
theorem exists_mapM_keyed_iff_byKey : (∃ keyed, decls.mapM TypeDecl.keyed = .ok keyed) ↔
    (¬∃ d ∈ byKey decls, d.name = none) ∧ ∀ k, ¬Extends (byKey decls) k none := by
  simp only [exists_mapM_keyed_iff, byKey, Extends, List.mem_map, TypeDecl.map]
  constructor
  · intro h
    refine ⟨?_, ?_⟩
    · rintro ⟨_, ⟨d, hd, rfl⟩, hnone⟩
      exact (h d hd).1 hnone
    · rintro k ⟨_, ⟨d, hd, rfl⟩, -, hnone⟩
      obtain ⟨v, hv, hnone⟩ := List.mem_map.mp hnone
      exact (h d hd).2 v hv hnone
  · rintro ⟨hnames, hparents⟩ d hd
    exact ⟨fun hnone => hnames ⟨_, ⟨d, hd, rfl⟩, hnone⟩,
      fun v hv hnone => hparents _ ⟨_, ⟨d, hd, rfl⟩, rfl, List.mem_map.mpr ⟨v, hv, hnone⟩⟩⟩

/-- Resolutions that are the same give the same depths, under the names of either side. -/
theorem SameResolution.sameDepths (hkeyed : decls.mapM TypeDecl.keyed = .ok keyed)
    (hkeyed' : others.mapM TypeDecl.keyed = .ok keyed') (hgraph : SameGraph keyed keyed') {r r' : Resolution Key}
    (hsame : SameResolution (distinct (keyed.map (·.name))) (distinct (keyed'.map (·.name))) r r') :
    SameDepths ⟨[resolvedNote r.depths.length r.passes], .ok (named decls r.depths)⟩
      ⟨[resolvedNote r'.depths.length r'.passes], .ok (named others r'.depths)⟩ := by
  have hnd : r.depths.names.Nodup := hsame.names_eq ▸ nodup_distinct _
  have hnd' : r'.depths.names.Nodup := hsame.names_eq' ▸ nodup_distinct _
  have hperm : r.depths.Perm r'.depths := by
    rw [Depths.eq_map_names hnd, Depths.eq_map_names hnd', hsame.names_eq, hsame.names_eq']
    simp only [hsame.find_eq]
    exact hgraph.perm_names.map _
  have hlength : ∀ (decls : List (TypeDecl Value)) (depths : Depths Key), depths.length = (named decls depths).length :=
    fun _ _ => (List.length_map _).symm
  rw [hlength decls, hlength others, ← hsame.passes_eq]
  refine .found _ ?_ ?_
  · have hkeys := congrArg (List.map Prod.fst) (keys_named hkeyed hsame.names_eq)
    rw [List.map_map, List.map_map] at hkeys
    refine (hkeys.trans ?_ : (named decls r.depths).map (·.1.key?) = r.depths.names.map some) ▸
      hnd.map (Option.some_injective _)
    rw [Depths.names, List.map_map]
    rfl
  · rw [keys_named hkeyed hsame.names_eq, keys_named hkeyed' hsame.names_eq']
    exact hperm.map _

/-- **Depths go by the graph.** -/
theorem resolveDepths_congr (hgraph : SameGraph (byKey decls) (byKey others)) (hplaces : AllHavePlaces decls)
    (limit : Option Int) : SameDepths (resolveDepths decls limit) (resolveDepths others limit) := by
  have hboth : (∃ keyed, decls.mapM TypeDecl.keyed = .ok keyed) ↔ ∃ keyed, others.mapM TypeDecl.keyed = .ok keyed := by
    rw [exists_mapM_keyed_iff_byKey, exists_mapM_keyed_iff_byKey, hgraph.names]
    simp only [hgraph.edges]
  rcases (endsIn_mapM_keyed decls).both (endsIn_mapM_keyed others) hboth with
    ⟨keyed, keyed', hkeyed, hkeyed'⟩ | ⟨he, he'⟩
  · have hgraph' : SameGraph keyed keyed' := by
      rwa [mapM_keyed_eq_ok.mp hkeyed, mapM_keyed_eq_ok.mp hkeyed',
        sameGraph_map (Option.some_injective _)] at hgraph
    rcases resolveDepths_cases hkeyed hkeyed' hgraph' hplaces limit with ⟨e, h, h'⟩ | ⟨r, r', hsame, h, h'⟩
    · rw [h, h']
      exact .failed e
    · rw [h, h']
      exact hsame.sameDepths hkeyed hkeyed' hgraph'
  · rw [resolveDepths_of_unhashable he, resolveDepths_of_unhashable he']
    exact .failed _

end Values

end CodeMetrics.Inheritance
