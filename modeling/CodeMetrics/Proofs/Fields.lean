import CodeMetrics.Value
import Mathlib.Data.List.Nodup

/-!
# Fields with each key once

Looking up, writing and keeping fields when no key stands twice.
-/

namespace CodeMetrics.Fields

variable {α : Type} {fields : List (String × α)}

/-- Writing a field keeps each key once. -/
theorem nodup_keys_insert (h : (keys fields).Nodup) (key : String) (value : α) :
    (keys (insert fields key value)).Nodup := by
  rw [keys_insert]
  split
  · exact h
  · next hnew =>
    rw [List.nodup_append]
    refine ⟨h, List.nodup_singleton key, fun k hk other hother hsame => ?_⟩
    rw [List.mem_singleton] at hother
    exact hnew (hother ▸ hsame ▸ hk)

/-- What is there after writing a field was there before, or is the field. -/
theorem mem_of_mem_insert {key : String} {value : α} {field : String × α} (h : field ∈ insert fields key value) :
    field ∈ fields ∨ field = (key, value) := by
  induction fields with
  | nil => exact .inr (List.mem_singleton.mp h)
  | cons first rest ih =>
    obtain ⟨k, v⟩ := first
    rw [insert] at h
    split at h
    · next hk =>
      subst hk
      rcases List.mem_cons.mp h with rfl | hmem
      · exact .inr rfl
      · exact .inl (List.mem_cons_of_mem _ hmem)
    · rcases List.mem_cons.mp h with rfl | hmem
      · exact .inl List.mem_cons_self
      · exact (ih hmem).imp_left (List.mem_cons_of_mem _)

theorem mem_of_get? {key : String} {value : α} (h : get? fields key = some value) : (key, value) ∈ fields := by
  induction fields with
  | nil => cases h
  | cons field rest ih =>
    obtain ⟨k, v⟩ := field
    rw [get?] at h
    split at h
    · next hk =>
      cases h
      exact hk ▸ List.mem_cons_self
    · exact List.mem_cons_of_mem _ (ih h)

theorem get?_of_mem (hnodup : (keys fields).Nodup) {key : String} {value : α} (h : (key, value) ∈ fields) :
    get? fields key = some value := by
  induction fields with
  | nil => cases h
  | cons field rest ih =>
    obtain ⟨k, v⟩ := field
    obtain ⟨hnew, hrest⟩ := List.nodup_cons.mp hnodup
    rw [get?]
    rcases List.mem_cons.mp h with hsame | hmem
    · cases hsame
      rw [if_pos rfl]
    · have hk : k ≠ key := fun hk => hnew (List.mem_map.mpr ⟨(key, value), hmem, hk.symm⟩)
      rw [if_neg hk]
      exact ih hrest hmem

/-- What is kept of some fields has the keys of those that are kept. -/
theorem mem_keys_filter (hnodup : (keys fields).Nodup) {field : String × α} (hmem : field ∈ fields)
    (keep : String × α → Bool) : field.1 ∈ keys (fields.filter keep) ↔ keep field = true := by
  constructor
  · intro hkey
    obtain ⟨other, hother, hsame⟩ := List.mem_map.mp hkey
    obtain ⟨hother, hkeep⟩ := List.mem_filter.mp hother
    rw [← List.inj_on_of_nodup_map hnodup hother hmem hsame]
    exact hkeep
  · intro hkeep
    exact List.mem_map_of_mem (List.mem_filter.mpr ⟨hmem, hkeep⟩)

theorem nodup_keys_filter (hnodup : (keys fields).Nodup) (keep : String × α → Bool) :
    (keys (fields.filter keep)).Nodup :=
  hnodup.sublist (List.filter_sublist.map _)

theorem get?_eq_none {key : String} (h : key ∉ keys fields) : get? fields key = none := by
  cases hget : get? fields key with
  | none => rfl
  | some value => exact absurd (List.mem_map_of_mem (mem_of_get? hget)) h

/-- A field that is there once is kept or dropped by itself. -/
theorem get?_filter (hnodup : (keys fields).Nodup) (keep : String × α → Bool) (key : String) :
    get? (fields.filter keep) key = (get? fields key).filter fun value => keep (key, value) := by
  cases hget : get? fields key with
  | none =>
    refine get?_eq_none fun hkey => ?_
    obtain ⟨⟨k, value⟩, hmem, rfl⟩ := List.mem_map.mp hkey
    have hfound := get?_of_mem hnodup (List.mem_of_mem_filter hmem)
    rw [hget] at hfound
    cases hfound
  | some value =>
    have hmem := mem_of_get? hget
    have hiff := mem_keys_filter hnodup hmem keep
    cases hkeep : keep (key, value) with
    | true =>
      rw [Option.filter_some, if_pos hkeep]
      exact get?_of_mem (nodup_keys_filter hnodup keep) (List.mem_filter.mpr ⟨hmem, hkeep⟩)
    | false =>
      rw [Option.filter_some, hkeep, if_neg Bool.false_ne_true]
      exact get?_eq_none fun hkey => Bool.false_ne_true (hkeep.symm.trans (hiff.mp hkey))

/-- Dropping one key is not seen at another. -/
theorem get?_filter_ne {key other : String} (h : key ≠ other) :
    get? (fields.filter fun field => field.1 != other) key = get? fields key := by
  induction fields with
  | nil => rfl
  | cons field rest ih =>
    obtain ⟨k, v⟩ := field
    rw [List.filter_cons, get?]
    split
    · rw [get?, ih]
    · next hk =>
      have hsame : k = other := by simpa using hk
      rw [ih, if_neg (hsame ▸ Ne.symm h)]

/-- Of several fields that are written, those that are there are seen, and what was there before otherwise. -/
theorem get?_insertAll {others : List (String × α)} (h : (keys others).Nodup) (fields : List (String × α))
    (key : String) : get? (insertAll fields others) key = (get? others key).or (get? fields key) := by
  induction others generalizing fields with
  | nil => rfl
  | cons field rest ih =>
    obtain ⟨k, v⟩ := field
    obtain ⟨hnew, hrest⟩ := List.nodup_cons.mp h
    have hwrite : get? (insertAll fields ((k, v) :: rest)) key = get? (insertAll (insert fields k v) rest) key := rfl
    rw [hwrite, ih hrest, get?_insert, get?]
    by_cases hk : k = key
    · subst hk
      rw [get?_eq_none hnew, if_pos rfl, if_pos rfl]
      rfl
    · rw [if_neg hk, if_neg (Ne.symm hk)]

/-- Fields with other values under the same keys. -/
theorem get?_map {β : Type} (f : String → α → β) (fields : List (String × α)) (key : String) :
    get? (fields.map fun field => (field.1, f field.1 field.2)) key = (get? fields key).map (f key) := by
  induction fields with
  | nil => rfl
  | cons field rest ih =>
    obtain ⟨k, v⟩ := field
    rw [List.map_cons, get?, get?]
    split
    · next hk =>
      subst hk
      rfl
    · exact ih

/-! ## Fields for a list of keys -/

/-- Fields for those of the keys that have a value. -/
def ofKeys (names : List String) (value : String → Option α) : List (String × α) :=
  names.filterMap fun key => (value key).map fun v => (key, v)

theorem get?_ofKeys (names : List String) (value : String → Option α) (key : String) :
    get? (ofKeys names value) key = if key ∈ names then value key else none := by
  induction names with
  | nil => rfl
  | cons name names ih =>
    rw [ofKeys, List.filterMap_cons]
    by_cases hname : name = key
    · subst hname
      rw [if_pos List.mem_cons_self]
      cases hv : value name with
      | none =>
        refine ih.trans ?_
        rw [hv, ite_self]
      | some v => exact if_pos rfl
    · have hmem : key ∈ name :: names ↔ key ∈ names :=
        ⟨fun h => (List.mem_cons.mp h).resolve_left (Ne.symm hname), List.mem_cons_of_mem name⟩
      rw [if_congr hmem rfl rfl]
      cases value name with
      | none => exact ih
      | some v => exact (if_neg hname).trans ih

theorem keys_ofKeys (names : List String) (value : String → Option α) :
    keys (ofKeys names value) = names.filter fun key => (value key).isSome := by
  induction names with
  | nil => rfl
  | cons name names ih =>
    rw [ofKeys, List.filterMap_cons, List.filter_cons]
    cases value name with
    | none => exact ih
    | some v => exact congrArg (name :: ·) ih

theorem nodup_keys_ofKeys {names : List String} (h : names.Nodup) (value : String → Option α) :
    (keys (ofKeys names value)).Nodup := by
  rw [keys_ofKeys]
  exact h.filter _

/-! ## A field between others -/

variable {earlier later : List (String × α)} {key : String}

/-- A new key is written behind the others. -/
theorem insert_of_notMem (h : key ∉ keys earlier) (value : α) :
    insert earlier key value = earlier ++ [(key, value)] := by
  induction earlier with
  | nil => rfl
  | cons field rest ih =>
    obtain ⟨k, v⟩ := field
    have hk : k ≠ key := fun hk => h (by simp [keys, hk])
    have hrest : key ∉ keys rest := fun hmem => h (List.mem_cons_of_mem _ hmem)
    rw [insert, if_neg hk, ih hrest, List.cons_append]

theorem insert_append (h : key ∉ keys earlier) (old new : α) :
    insert (earlier ++ (key, old) :: later) key new = earlier ++ (key, new) :: later := by
  induction earlier with
  | nil => simp [insert]
  | cons field rest ih =>
    obtain ⟨k, v⟩ := field
    have hk : k ≠ key := fun hk => h (by simp [keys, hk])
    have hrest : key ∉ keys rest := fun hmem => h (List.mem_cons_of_mem _ hmem)
    rw [List.cons_append, insert, if_neg hk, ih hrest, List.cons_append]

theorem get?_append (h : key ∉ keys earlier) (value : α) :
    get? (earlier ++ (key, value) :: later) key = some value := by
  induction earlier with
  | nil => simp [get?]
  | cons field rest ih =>
    obtain ⟨k, v⟩ := field
    have hk : k ≠ key := fun hk => h (by simp [keys, hk])
    have hrest : key ∉ keys rest := fun hmem => h (List.mem_cons_of_mem _ hmem)
    rw [List.cons_append, get?, if_neg hk, ih hrest]

end CodeMetrics.Fields
