import CodeMetrics.Metrics.Units
import Mathlib.Data.List.Basic
import Mathlib.Data.Rat.Cast.Order

/-!
# Units by first line

Lines of a document are whole numbers, and those have a total order by exact value. `sortUnits` compares lines and
positions; on whole lines that is a merge sort by line alone, which keeps the order of units on one line.
-/

namespace CodeMetrics

/-! ## Whole numbers -/

namespace Num

/-- A number that is an integer, or a truth value that stands for one. -/
def IsWhole (a : Num) : Prop := (Given.int? a).isSome

/-- The integer that a whole number is. -/
def whole (a : Num) : Int := (Given.int? a).getD 0

theorem exact_of_isWhole {a : Num} (h : a.IsWhole) : a.exact = .finite a.whole := by
  cases a with
  | int n => rfl
  | flag b => rfl
  | float x => simp [IsWhole, Given.int?] at h

theorem lt_of_isWhole {a b : Num} (ha : a.IsWhole) (hb : b.IsWhole) : a.lt b = decide (a.whole < b.whole) := by
  rw [lt, exact_of_isWhole ha, exact_of_isWhole hb]
  simp [Exact.lt]

theorem same_of_isWhole {a b : Num} (ha : a.IsWhole) (hb : b.IsWhole) : a.same b = decide (a.whole = b.whole) := by
  rw [same, exact_of_isWhole ha, exact_of_isWhole hb]
  simp [Exact.same]

/-- Equal numbers are equal to the same ones. -/
theorem whole_eq_of_same {a b c : Num} (ha : a.IsWhole) (hb : b.IsWhole) (hac : a.same c = true)
    (hbc : b.same c = true) : a.whole = b.whole := by
  rw [same, exact_of_isWhole ha] at hac
  rw [same, exact_of_isWhole hb] at hbc
  simp only [Exact.same, decide_eq_true_eq] at hac hbc
  have hfinite := hac.trans hbc.symm
  simpa using hfinite

end Num

/-! ## Stable sorting -/

/-- A list in order of line, in which items on one line keep the order in which they were given. -/
structure StablySorted {α : Type} (line : α → Num) (given sorted : List α) : Prop where
  perm : sorted.Perm given
  inOrder : sorted.Pairwise fun a b => (line b).lt (line a) = false
  stable : ∀ l, (sorted.filter fun a => (line a).same l) = given.filter fun a => (line a).same l

section MergeSort

variable {α : Type} {key : α → Int}

theorem mergeSort_congr {r s : α → α → Bool} {l : List α} (h : ∀ a ∈ l, ∀ b ∈ l, r a b = s a b) :
    l.mergeSort r = l.mergeSort s := by
  have hmap := @List.map_mergeSort _ _ r s (fun a => a) l h
  rwa [List.map_id', List.map_id'] at hmap

theorem trans_key (a b c : α) (hab : decide (key a ≤ key b) = true) (hbc : decide (key b ≤ key c) = true) :
    decide (key a ≤ key c) = true := by
  simp only [decide_eq_true_eq] at *
  omega

theorem total_key (a b : α) : (decide (key a ≤ key b) || decide (key b ≤ key a)) = true := by
  simp only [Bool.or_eq_true, decide_eq_true_eq]
  omega

/-- What is kept of a list because of its key stands in the same order after sorting by key. -/
theorem filter_mergeSort {keep : α → Bool} {l : List α}
    (h : ∀ a ∈ l, ∀ b ∈ l, keep a = true → keep b = true → key a = key b) :
    (l.mergeSort fun a b => decide (key a ≤ key b)).filter keep = l.filter keep := by
  have hperm := (List.mergeSort_perm l fun a b => decide (key a ≤ key b)).filter keep
  have hsorted : (l.filter keep).Pairwise fun a b => decide (key a ≤ key b) = true := by
    refine List.pairwise_of_forall_mem_list fun a ha b hb => ?_
    obtain ⟨ha, hka⟩ := List.mem_filter.mp ha
    obtain ⟨hb, hkb⟩ := List.mem_filter.mp hb
    exact decide_eq_true (le_of_eq (h a ha b hb hka hkb))
  -- A part that is in order is still a part after sorting, and no other items are kept.
  have hsub := (List.sublist_mergeSort trans_key total_key hsorted List.filter_sublist).filter keep
  rw [List.filter_filter] at hsub
  simp only [Bool.and_self] at hsub
  exact (hsub.eq_of_length hperm.length_eq.symm).symm

end MergeSort

section Units

variable {σ : Type} {units : List (CodeUnit Nat σ Num)}

/-- On whole lines, lines and positions compare as they do in a merge sort by line. -/
theorem sortUnits_eq (h : ∀ u ∈ units, u.startLine.IsWhole) :
    sortUnits units = units.mergeSort fun a b => decide (a.startLine.whole ≤ b.startLine.whole) := by
  have hsame : ∀ a ∈ units.zipIdx, ∀ b ∈ units.zipIdx, inOrder a b
      = List.zipIdxLE (fun a b => decide (a.startLine.whole ≤ b.startLine.whole)) a b := by
    intro a ha b hb
    have hwa := h a.1 (List.fst_mem_of_mem_zipIdx ha)
    have hwb := h b.1 (List.fst_mem_of_mem_zipIdx hb)
    rw [inOrder, Num.same_of_isWhole hwa hwb, Num.lt_of_isWhole hwb hwa, List.zipIdxLE]
    rcases lt_trichotomy a.1.startLine.whole b.1.startLine.whole with hlt | heq | hgt
    · simp [hlt.ne, hlt.le, not_le.mpr hlt]
    · simp [heq]
    · simp [hgt.ne', hgt, not_le.mpr hgt]
  rw [sortUnits, mergeSort_congr hsame, List.mergeSort_zipIdx]

theorem sortUnits_perm (units : List (CodeUnit Nat σ Num)) : (sortUnits units).Perm units := by
  have hperm := (List.mergeSort_perm units.zipIdx inOrder).map (·.1)
  rwa [List.zipIdx_map_fst] at hperm

/-- Units that come from something else are sorted as it is, by a key that gives their lines. -/
theorem sortUnits_map {α : Type} {unit : α → CodeUnit Nat σ Num} {key : α → Int} {l : List α}
    (hwhole : ∀ a ∈ l, (unit a).startLine.IsWhole) (hkey : ∀ a ∈ l, (unit a).startLine.whole = key a) :
    sortUnits (l.map unit) = (l.mergeSort fun a b => decide (key a ≤ key b)).map unit := by
  have hunits : ∀ u ∈ l.map unit, u.startLine.IsWhole := by
    intro u hu
    obtain ⟨a, ha, rfl⟩ := List.mem_map.mp hu
    exact hwhole a ha
  rw [sortUnits_eq hunits]
  symm
  apply List.map_mergeSort
  intro a ha b hb
  rw [hkey a ha, hkey b hb]

theorem stablySorted_sortUnits (h : ∀ u ∈ units, u.startLine.IsWhole) :
    StablySorted CodeUnit.startLine units (sortUnits units) := by
  rw [sortUnits_eq h]
  have hperm := List.mergeSort_perm units fun a b => decide (a.startLine.whole ≤ b.startLine.whole)
  have hsorted := List.pairwise_mergeSort (@trans_key _ fun u : CodeUnit Nat σ Num => u.startLine.whole) total_key units
  refine ⟨hperm, ?_, fun line => ?_⟩
  · refine hsorted.imp_of_mem fun {a b} ha hb hab => ?_
    rw [Num.lt_of_isWhole (h b (hperm.subset hb)) (h a (hperm.subset ha))]
    simpa using hab
  · exact filter_mergeSort fun a ha b hb => Num.whole_eq_of_same (h a ha) (h b hb)

end Units

end CodeMetrics
