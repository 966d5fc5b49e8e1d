import CodeMetrics.Metrics.Inheritance
import Mathlib.Data.List.Chain
import Mathlib.Data.List.Nodup
import Mathlib.Data.List.Perm.Subperm
import Mathlib.Logic.Relation
import Mathlib.Order.Bounds.Basic

/-!
# Chains of types

The inheritance graph has an edge from every declared name to each of its parents. This module says what a chain along
these edges is and when the graph has a cycle, and bounds the length of chains without one.

* `Cyclic.not_of_rank` — a rank that falls along every edge excludes cycles
* `HasChain.le_of_not_reachesCycle` — a chain that reaches no cycle has no more types than names are mentioned
-/

namespace CodeMetrics.Inheritance

variable {ν : Type} {decls : List (TypeDecl ν)}

/-- A declaration of `a` names `b` among the types it inherits from. -/
def Extends (decls : List (TypeDecl ν)) (a b : ν) : Prop := ∃ d ∈ decls, d.name = a ∧ b ∈ d.parents

/-- Some type is reached from itself along parents. -/
def Cyclic (decls : List (TypeDecl ν)) : Prop := ∃ a, Relation.TransGen (Extends decls) a a

/-- There is a chain of `k` types that starts at `t`, each but the first being a parent of the one before it. A type
that is not declared has no parents and can only end a chain. -/
def HasChain (decls : List (TypeDecl ν)) (t : ν) (k : Nat) : Prop :=
  ∃ rest, (t :: rest).IsChain (Extends decls) ∧ rest.length + 1 = k

/-! ## Building and taking apart -/

theorem HasChain.one (t : ν) : HasChain decls t 1 := ⟨[], .singleton t, rfl⟩

theorem HasChain.pos {t : ν} {k : Nat} (h : HasChain decls t k) : 0 < k := by
  obtain ⟨rest, -, rfl⟩ := h
  omega

theorem HasChain.cons {a b : ν} {k : Nat} (hab : Extends decls a b) (h : HasChain decls b k) :
    HasChain decls a (k + 1) := by
  obtain ⟨rest, hc, rfl⟩ := h
  exact ⟨b :: rest, .cons_cons hab hc, rfl⟩

/-- A chain of more than one type goes on from a parent. -/
theorem HasChain.exists_parent {a : ν} {k : Nat} (h : HasChain decls a (k + 1)) (hk : 0 < k) :
    ∃ b, Extends decls a b ∧ HasChain decls b k := by
  obtain ⟨rest, hc, hlen⟩ := h
  cases rest with
  | nil => simp at hlen; omega
  | cons b rest =>
    rw [List.isChain_cons_cons] at hc
    exact ⟨b, hc.1, rest, hc.2, by simpa using hlen⟩

/-! ## Cycles -/

/-- A rank that falls along every edge excludes cycles. -/
theorem Cyclic.not_of_rank (rank : ν → Nat) (h : ∀ a b, Extends decls a b → rank b < rank a) :
    ¬ Cyclic decls := by
  rintro ⟨a, ha⟩
  have falls : ∀ b, Relation.TransGen (Extends decls) a b → rank b < rank a := by
    intro b hb
    induction hb with
    | single hab => exact h _ _ hab
    | tail _ hbc ih => exact (h _ _ hbc).trans ih
  exact Nat.lt_irrefl _ (falls a ha)

/-- A type lies on a cycle, or its ancestors do. -/
def ReachesCycle (decls : List (TypeDecl ν)) (t : ν) : Prop :=
  ∃ c, Relation.ReflTransGen (Extends decls) t c ∧ Relation.TransGen (Extends decls) c c

theorem ReachesCycle.cyclic {t : ν} (h : ReachesCycle decls t) : Cyclic decls := by
  obtain ⟨c, -, hc⟩ := h
  exact ⟨c, hc⟩

/-- No type occurs twice on a chain that reaches no cycle. -/
theorem nodup_of_isChain {t : ν} {rest : List ν} (hno : ¬ ReachesCycle decls t)
    (h : (t :: rest).IsChain (Extends decls)) : (t :: rest).Nodup := by
  have hpair : (t :: rest).Pairwise (Relation.TransGen (Extends decls)) :=
    List.IsChain.pairwise (h.imp fun _ _ hab => .single hab)
  have hreached : ∀ x ∈ t :: rest, Relation.ReflTransGen (Extends decls) t x := by
    intro x hx
    rcases List.mem_cons.mp hx with rfl | hx
    · exact .refl
    · exact (List.rel_of_pairwise_cons hpair hx).to_reflTransGen
  refine hpair.imp_of_mem ?_
  rintro a _ ha _ hab rfl
  exact hno ⟨a, hreached a ha, hab⟩

/-! ## The same edges -/

/-- Chains go by edges alone. -/
theorem hasChain_congr {others : List (TypeDecl ν)} (h : ∀ a b, Extends decls a b ↔ Extends others a b) {t : ν} {k : Nat} :
    HasChain decls t k ↔ HasChain others t k := by
  have hsame : Extends decls = Extends others := funext fun a => funext fun b => propext (h a b)
  rw [HasChain, HasChain, hsame]

theorem cyclic_congr {others : List (TypeDecl ν)} (h : ∀ a b, Extends decls a b ↔ Extends others a b) :
    Cyclic decls ↔ Cyclic others := by
  have hsame : Extends decls = Extends others := funext fun a => funext fun b => propext (h a b)
  rw [Cyclic, Cyclic, hsame]

/-- The depth of the graph: the number of types on the longest chain from a declared type, zero without any, and zero in
a graph with a cycle. -/
structure IsDepth (decls : List (TypeDecl ν)) (depth : Nat) : Prop where
  of_cyclic : Cyclic decls → depth = 0
  of_acyclic : ¬ Cyclic decls → IsGreatest {k | k = 0 ∨ ∃ d ∈ decls, HasChain decls d.name k} depth

theorem IsDepth.unique {depth depth' : Nat} (h : IsDepth decls depth) (h' : IsDepth decls depth') : depth = depth' := by
  by_cases hc : Cyclic decls
  · rw [h.of_cyclic hc, h'.of_cyclic hc]
  · exact (h.of_acyclic hc).unique (h'.of_acyclic hc)

/-- The depth goes by edges and by declared names. -/
theorem IsDepth.congr {others : List (TypeDecl ν)} {depth : Nat} (h : IsDepth decls depth)
    (hedges : ∀ a b, Extends decls a b ↔ Extends others a b)
    (hnames : ∀ t, (∃ d ∈ decls, d.name = t) ↔ ∃ d ∈ others, d.name = t) : IsDepth others depth := by
  have hlengths : {k | k = 0 ∨ ∃ d ∈ decls, HasChain decls d.name k}
      = {k | k = 0 ∨ ∃ d ∈ others, HasChain others d.name k} := by
    ext k
    have hstart : (∃ d ∈ decls, HasChain decls d.name k) ↔ ∃ d ∈ others, HasChain others d.name k := by
      constructor
      · rintro ⟨d, hd, hchain⟩
        obtain ⟨e, he, hname⟩ := (hnames d.name).mp ⟨d, hd, rfl⟩
        exact ⟨e, he, hname ▸ (hasChain_congr hedges).mp hchain⟩
      · rintro ⟨e, he, hchain⟩
        obtain ⟨d, hd, hname⟩ := (hnames e.name).mpr ⟨e, he, rfl⟩
        exact ⟨d, hd, hname ▸ (hasChain_congr hedges).mpr hchain⟩
    exact or_congr Iff.rfl hstart
  refine ⟨fun hc => h.of_cyclic ((cyclic_congr hedges).mpr hc), fun hc => ?_⟩
  rw [← hlengths]
  exact h.of_acyclic fun hcyclic => hc ((cyclic_congr hedges).mp hcyclic)

/-- A chain of more than one type starts at one that is declared. -/
theorem HasChain.exists_name {t : ν} {k : Nat} (h : HasChain decls t k) (hk : 1 < k) : ∃ d ∈ decls, d.name = t := by
  obtain ⟨k, rfl⟩ := Nat.exists_eq_add_of_lt hk
  obtain ⟨b, ⟨d, hd, hname, -⟩, -⟩ := h.exists_parent (by omega)
  exact ⟨d, hd, hname⟩

/-- In a graph without a cycle no chain is longer than the graph is deep, but those of a single type. -/
theorem IsDepth.hasChain_le {longest : Nat} (h : IsDepth decls longest) (hac : ¬ Cyclic decls) (t : ν) (k : Nat)
    (hk : HasChain decls t k) : k ≤ max 1 longest := by
  by_cases hone : 1 < k
  · obtain ⟨d, hd, rfl⟩ := hk.exists_name hone
    exact ((h.of_acyclic hac).2 (.inr ⟨d, hd, hk⟩)).trans (le_max_right _ _)
  · exact (not_lt.mp hone).trans (le_max_left _ _)

/-! ## Length -/

section Length

variable [DecidableEq ν]

@[simp] theorem mem_distinct {α : Type} [DecidableEq α] {a : α} (l : List α) : a ∈ distinct l ↔ a ∈ l := by
  induction l with
  | nil => simp [distinct]
  | cons b rest ih =>
    by_cases hab : a = b <;> simp [distinct, ih, hab]

theorem nodup_distinct {α : Type} [DecidableEq α] (l : List α) : (distinct l).Nodup := by
  induction l with
  | nil => simp [distinct]
  | cons b rest ih => simp [distinct, ih.filter]

theorem mem_mentioned {a : ν} : a ∈ mentioned decls ↔ ∃ d ∈ decls, a = d.name ∨ a ∈ d.parents := by
  simp [mentioned]

theorem Extends.child_mem {a b : ν} (h : Extends decls a b) : a ∈ mentioned decls := by
  obtain ⟨d, hd, rfl, -⟩ := h
  exact mem_mentioned.mpr ⟨d, hd, Or.inl rfl⟩

theorem Extends.parent_mem {a b : ν} (h : Extends decls a b) : b ∈ mentioned decls := by
  obtain ⟨d, hd, -, hb⟩ := h
  exact mem_mentioned.mpr ⟨d, hd, Or.inr hb⟩

theorem subset_mentioned_of_isChain : ∀ {a b : ν} {rest : List ν},
    (a :: b :: rest).IsChain (Extends decls) → ∀ x ∈ a :: b :: rest, x ∈ mentioned decls
  | a, b, [], h, x, hx => by
    have hab := (List.isChain_cons_cons.mp h).1
    rcases List.mem_cons.mp hx with rfl | hx
    · exact hab.child_mem
    · rw [List.mem_singleton.mp hx]
      exact hab.parent_mem
  | a, b, c :: rest, h, x, hx => by
    obtain ⟨hab, hrest⟩ := List.isChain_cons_cons.mp h
    rcases List.mem_cons.mp hx with rfl | hx
    · exact hab.child_mem
    · exact subset_mentioned_of_isChain hrest x hx

/-- A chain of at least two types that reaches no cycle has no more of them than names are mentioned. -/
theorem HasChain.le_of_not_reachesCycle {t : ν} {k : Nat} (hno : ¬ ReachesCycle decls t) (h : HasChain decls t k) :
    k ≤ max 1 (mentioned decls).length := by
  obtain ⟨rest, hc, rfl⟩ := h
  cases rest with
  -- A type on its own need not be mentioned anywhere.
  | nil => exact le_max_left _ _
  | cons b rest =>
    have hnd := nodup_of_isChain hno hc
    have hle := (List.subperm_of_subset hnd (subset_mentioned_of_isChain hc)).length_le
    rw [List.length_cons] at hle
    exact hle.trans (le_max_right _ _)

theorem HasChain.le_of_acyclic (hac : ¬ Cyclic decls) {t : ν} {k : Nat} (h : HasChain decls t k) :
    k ≤ max 1 (mentioned decls).length := h.le_of_not_reachesCycle fun hreaches => hac hreaches.cyclic

end Length

end CodeMetrics.Inheritance
