import CodeMetrics.Proofs.Loading.Reading

/-!
# Each key once

An object has each of its keys once: a key that is written again keeps its place. `Value.hasDistinctKeys` says so of a
value and of all that it holds, and whatever the reader reads is such a value (`Json.read_hasDistinctKeys`).
-/

namespace CodeMetrics

namespace Value

mutual

/-- Whether every object in a value has each of its keys once. -/
def hasDistinctKeys : Value → Bool
  | list items => haveDistinctKeys items
  | object fields => decide (Fields.keys fields).Nodup && membersDistinct fields
  | _ => true

def haveDistinctKeys : List Value → Bool
  | [] => true
  | v :: rest => hasDistinctKeys v && haveDistinctKeys rest

def membersDistinct : List (String × Value) → Bool
  | [] => true
  | (_, v) :: rest => hasDistinctKeys v && membersDistinct rest

end

theorem hasDistinctKeys_object {fields : List (String × Value)} :
    (object fields).hasDistinctKeys ↔ (Fields.keys fields).Nodup ∧ membersDistinct fields := by
  simp [hasDistinctKeys]

theorem haveDistinctKeys_cons {v : Value} {rest : List Value} :
    haveDistinctKeys (v :: rest) ↔ v.hasDistinctKeys ∧ haveDistinctKeys rest := by
  simp [haveDistinctKeys]

theorem membersDistinct_cons {key : String} {v : Value} {rest : List (String × Value)} :
    membersDistinct ((key, v) :: rest) ↔ v.hasDistinctKeys ∧ membersDistinct rest := by
  simp [membersDistinct]

theorem haveDistinctKeys_iff {items : List Value} : haveDistinctKeys items ↔ ∀ v ∈ items, v.hasDistinctKeys := by
  induction items with
  | nil => simp [haveDistinctKeys]
  | cons v rest ih => rw [haveDistinctKeys_cons, ih, List.forall_mem_cons]

theorem membersDistinct_iff {members : List (String × Value)} :
    membersDistinct members ↔ ∀ m ∈ members, m.2.hasDistinctKeys := by
  induction members with
  | nil => simp [membersDistinct]
  | cons m rest ih =>
    obtain ⟨key, v⟩ := m
    rw [membersDistinct_cons, ih, List.forall_mem_cons]

end Value

namespace Fields

theorem membersDistinct_insert {fields : List (String × Value)} {key : String} {value : Value}
    (h : Value.membersDistinct fields) (hvalue : value.hasDistinctKeys) :
    Value.membersDistinct (insert fields key value) := by
  rw [Value.membersDistinct_iff] at h ⊢
  intro m hm
  rcases mem_of_mem_insert hm with hm | rfl
  · exact h m hm
  · exact hvalue

end Fields

/-! ## Reading -/

namespace Json

theorem IsValue.hasDistinctKeys {v : Value} (h : IsValue v) : v.hasDistinctKeys := by
  induction h with
  | list _ ih =>
    rw [Value.hasDistinctKeys]
    exact Value.haveDistinctKeys_iff.mpr ih
  | object hkeys _ ih => exact Value.hasDistinctKeys_object.mpr ⟨hkeys, Value.membersDistinct_iff.mpr ih⟩
  | null | bool | int | float | str => rfl

/-- **A text that is read gives a value with each key once.** -/
theorem read_hasDistinctKeys {text : List Char} {v : Value} (h : read text = .ok v) : v.hasDistinctKeys :=
  (read_isValue h).hasDistinctKeys

end Json

end CodeMetrics
