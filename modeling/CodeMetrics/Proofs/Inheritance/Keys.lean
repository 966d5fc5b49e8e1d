import CodeMetrics.Metrics.Structure
import CodeMetrics.Proofs.Inheritance.Depths
import Mathlib.Algebra.Order.Ring.Rat
import Mathlib.Data.String.Basic

/-!
# Names by their keys

Names are any values that a document holds, and are told apart by key. Those that are lists or objects have none; every
operation on names refuses them in the same way. Of the keys all have a place in the order of keys but two: what is no
number, and moments, which no document holds.

* `Value.Key.total_of_hasPlace`, `trans_of_hasPlace`, `antisymm_of_hasPlace` — the order of keys
* `distinctNames_ok` — names without repetition
* `keyed_eq_ok` — declarations by keys
-/

namespace CodeMetrics

/-! ## The order of keys -/

namespace Exact

theorem lt_asymm {a b : Exact} (h : a.lt b = true) : b.lt a = false := by
  cases a with
  | finite r => cases b with
    | finite s => exact decide_eq_false (not_lt_of_gt (of_decide_eq_true h))
    | _ => simp_all [lt]
  | _ => cases b <;> simp_all [lt]

/-- Two numbers neither of which is less than the other are the same. -/
theorem eq_of_not_lt {a b : Exact} (ha : a ≠ nan) (hb : b ≠ nan) (h : a.lt b = false) (h' : b.lt a = false) :
    a = b := by
  cases a with
  | finite r => cases b with
    | finite s =>
      exact congrArg finite (le_antisymm (not_lt.mp (of_decide_eq_false h')) (not_lt.mp (of_decide_eq_false h)))
    | _ => simp_all [lt]
  | _ => cases b <;> simp_all [lt]

theorem not_lt_trans {a b c : Exact} (hb : b ≠ nan) (h : b.lt a = false) (h' : c.lt b = false) : c.lt a = false := by
  cases b with
  | finite s => cases a with
    | finite r => cases c with
      | finite t =>
        exact decide_eq_false (not_lt.mpr ((not_lt.mp (of_decide_eq_false h)).trans (not_lt.mp (of_decide_eq_false h'))))
      | _ => simp_all [lt]
    | _ => cases c <;> simp_all [lt]
  | _ => cases a <;> cases c <;> simp_all [lt]

end Exact

namespace Value.Key

/-- Keys that have a place in their order. -/
def hasPlace : Key → Bool
  | number a => decide (a ≠ .nan)
  | moment _ => false
  | null | text _ => true

variable {a b c : Key}

theorem total_of_hasPlace (ha : a.hasPlace = true) (hb : b.hasPlace = true) : (a.le b || b.le a) = true := by
  cases a with
  | null => rfl
  | moment m => cases ha
  | number r => cases b with
    | number s =>
      cases hlt : s.lt r with
      | false => simp [le, hlt]
      | true => simp [le, Exact.lt_asymm hlt]
    | moment m => cases hb
    | _ => rfl
  | text s => cases b with
    | text t => simpa [le] using le_total s t
    | moment m => cases hb
    | _ => rfl

theorem trans_of_hasPlace (hb : b.hasPlace = true) (hab : a.le b = true) (hbc : b.le c = true) : a.le c = true := by
  cases a with
  | null => rfl
  | moment m => cases hab
  | number r => cases b with
    | number s => cases c with
      | number t =>
        have hs : s ≠ .nan := of_decide_eq_true hb
        simp only [le, Bool.not_eq_true'] at hab hbc ⊢
        exact Exact.not_lt_trans hs hab hbc
      | text t => rfl
      | _ => cases hbc
    | text s => cases c with
      | text t => rfl
      | _ => cases hbc
    | _ => cases hab
  | text s => cases b with
    | text t => cases c with
      | text u => exact decide_eq_true ((of_decide_eq_true hab).trans (of_decide_eq_true hbc))
      | _ => cases hbc
    | _ => cases hab

theorem antisymm_of_hasPlace (ha : a.hasPlace = true) (hb : b.hasPlace = true) (hab : a.le b = true)
    (hba : b.le a = true) : a = b := by
  cases a with
  | null => cases b with
    | null => rfl
    | _ => cases hba
  | moment m => cases ha
  | number r => cases b with
    | number s =>
      simp only [le, Bool.not_eq_true'] at hab hba
      exact congrArg number (Exact.eq_of_not_lt (of_decide_eq_true ha) (of_decide_eq_true hb) hba hab)
    | text t => cases hba
    | _ => cases hab
  | text s => cases b with
    | text t => exact congrArg text (le_antisymm (of_decide_eq_true hab) (of_decide_eq_true hba))
    | _ => cases hab

end Value.Key

/-! ## Names -/

theorem nameKey_eq_ok {v : Value} {k : Value.Key} : nameKey v = .ok k ↔ v.key? = some k := by
  unfold nameKey
  split
  · next k' hk => simp [hk]
  · next hk => simp [hk]

theorem endsIn_nameKey (v : Value) : Outcome.EndsIn (.mismatch .unhashable) (nameKey v) := by
  unfold nameKey
  split
  · exact .inl ⟨_, rfl⟩
  · exact .inr rfl

theorem mapM_nameKey_eq_ok {names : List Value} {keys : List Value.Key} :
    names.mapM nameKey = .ok keys ↔ names.map Value.key? = keys.map some := by
  simp only [Outcome.mapM_eq_ok, nameKey_eq_ok]
  rw [← List.forall₂_eq_eq_eq, List.forall₂_map_left_iff, List.forall₂_map_right_iff]

theorem exists_mapM_nameKey_iff {names : List Value} :
    (∃ keys, names.mapM nameKey = .ok keys) ↔ ∀ v ∈ names, v.key? ≠ none := by
  simp only [Outcome.exists_mapM_iff, nameKey_eq_ok, ne_eq, Option.ne_none_iff_exists']

/-- Names beside their keys. -/
theorem mapM_beside_eq_ok {names : List Value} {keyed : List (Value × Value.Key)} :
    names.mapM (fun v => do return (v, ← nameKey v) : Value → Except Error (Value × Value.Key)) = .ok keyed ↔
      List.Forall₂ (fun v p => p.1 = v ∧ v.key? = some p.2) names keyed := by
  have hstep : ∀ (v : Value) (p : Value × Value.Key),
      ((do return (v, ← nameKey v) : Except Error (Value × Value.Key)) = .ok p) ↔ p.1 = v ∧ v.key? = some p.2 := by
    intro v p
    rw [Outcome.bind_eq_ok]
    simp only [nameKey_eq_ok]
    constructor
    · rintro ⟨k, hk, ⟨⟩⟩
      exact ⟨rfl, hk⟩
    · rintro ⟨rfl, hk⟩
      exact ⟨p.2, hk, rfl⟩
  simp only [Outcome.mapM_eq_ok, hstep]

theorem endsIn_distinctNames (names : List Value) :
    Outcome.EndsIn (.mismatch .unhashable) (distinctNames names) :=
  (Outcome.EndsIn.mapM fun v _ => (endsIn_nameKey v).bind fun _ => .inl ⟨_, rfl⟩).bind fun _ => .inl ⟨_, rfl⟩

theorem exists_distinctNames_iff {names : List Value} :
    (∃ found, distinctNames names = .ok found) ↔ ∀ v ∈ names, v.key? ≠ none := by
  have hstep : ∀ v : Value, (∃ p, (do return (v, ← nameKey v) : Except Error (Value × Value.Key)) = .ok p) ↔
      v.key? ≠ none := by
    intro v
    rw [Outcome.exists_bind_eq_ok, Option.ne_none_iff_exists']
    simp only [nameKey_eq_ok]
    exact ⟨fun ⟨k, hk, _⟩ => ⟨k, hk⟩, fun ⟨k, hk⟩ => ⟨k, hk, _, rfl⟩⟩
  unfold distinctNames
  rw [Outcome.exists_bind_eq_ok]
  simp only [← hstep]
  rw [← Outcome.exists_mapM_iff]
  exact ⟨fun ⟨keyed, hkeyed, _⟩ => ⟨keyed, hkeyed⟩, fun ⟨keyed, hkeyed⟩ => ⟨keyed, hkeyed, _, rfl⟩⟩

/-- Where a key is first found among names beside their keys, it is first found among the names. -/
theorem find?_beside {names : List Value} {keyed : List (Value × Value.Key)}
    (h : List.Forall₂ (fun v p => p.1 = v ∧ v.key? = some p.2) names keyed) (k : Value.Key) :
    (keyed.find? fun p => p.2 = k).map (·.1) = names.find? fun v => v.key? = some k := by
  induction h with
  | nil => rfl
  | @cons v p names keyed hp _ ih =>
    rw [List.find?_cons, List.find?_cons, hp.2]
    by_cases hk : p.2 = k
    · simp [hk, hp.1]
    · simpa [hk] using ih

theorem keys_beside {names : List Value} {keyed : List (Value × Value.Key)}
    (h : List.Forall₂ (fun v p => p.1 = v ∧ v.key? = some p.2) names keyed) :
    names.map Value.key? = (keyed.map (·.2)).map some := by
  rw [List.map_map, ← List.forall₂_eq_eq_eq, List.forall₂_map_left_iff, List.forall₂_map_right_iff]
  exact h.imp fun _ _ hp => hp.2

open Inheritance in
/-- **Names without repetition**: each key once, in order, under the name that has it first. -/
theorem distinctNames_ok {names found : List Value} (h : distinctNames names = .ok found) :
    found.map Value.key? = distinct (names.map Value.key?) ∧
      ∀ v ∈ found, names.find? (fun u => u.key? = v.key?) = some v := by
  obtain ⟨keyed, hkeyed, h⟩ := Outcome.bind_eq_ok.mp h
  have hbeside := mapM_beside_eq_ok.mp hkeyed
  have hfound : found = (distinct (keyed.map (·.2))).filterMap fun k => names.find? fun v => v.key? = some k := by
    rw [← Except.ok.inj h]
    exact List.filterMap_congr fun k _ => find?_beside hbeside k
  have hsome : ∀ k ∈ distinct (keyed.map (·.2)),
      (names.find? fun v => v.key? = some k).map Value.key? = some (some k) := by
    intro k hk
    have hmem : some k ∈ names.map Value.key? := by
      rw [keys_beside hbeside]
      exact List.mem_map_of_mem ((mem_distinct _).mp hk)
    obtain ⟨v, hv, hkey⟩ := List.mem_map.mp hmem
    cases hfind : names.find? fun v => v.key? = some k with
    | none => simpa [hkey] using List.find?_eq_none.mp hfind v hv
    | some u => simpa using List.find?_some hfind
  constructor
  · rw [hfound, List.map_filterMap, List.filterMap_congr hsome, keys_beside hbeside,
      distinct_map (Option.some_injective _)]
    exact congrFun List.filterMap_eq_map _
  · intro v hv
    rw [hfound] at hv
    obtain ⟨k, -, hk⟩ := List.mem_filterMap.mp hv
    have hkey : v.key? = some k := by simpa using List.find?_some hk
    rw [hkey]
    exact hk

/-! ## Declarations -/

theorem keyed_eq_ok {d : TypeDecl Value} {k : TypeDecl Value.Key} :
    d.keyed = .ok k ↔ d.name.key? = some k.name ∧ d.parents.map Value.key? = k.parents.map some := by
  unfold TypeDecl.keyed
  rw [Outcome.bind_eq_ok]
  simp only [nameKey_eq_ok, Outcome.bind_eq_ok, mapM_nameKey_eq_ok]
  constructor
  · rintro ⟨name, hname, parents, hparents, ⟨⟩⟩
    exact ⟨hname, hparents⟩
  · rintro ⟨hname, hparents⟩
    exact ⟨k.name, hname, k.parents, hparents, rfl⟩

theorem endsIn_mapM_keyed (decls : List (TypeDecl Value)) :
    Outcome.EndsIn (.mismatch .unhashable) (decls.mapM TypeDecl.keyed) :=
  .mapM fun d _ => (endsIn_nameKey d.name).bind fun _ =>
    (Outcome.EndsIn.mapM fun v _ => endsIn_nameKey v).bind fun _ => .inl ⟨_, rfl⟩

end CodeMetrics
