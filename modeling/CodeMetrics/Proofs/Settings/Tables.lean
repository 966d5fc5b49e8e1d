import CodeMetrics.Proofs.Loading.Keys
import CodeMetrics.Toml.Reader

/-!
# Tables with each key once

A settings file is read into a table that has each of its keys once, and so has every table in it. Statements write into
tables at the end of a path (`Toml.modifyAt`), which keeps this as long as the change at the end does; the reader's state
then keeps it from statement to statement.

* `modifyAt_distinct` — a change at the end of a path
* `readsDistinct` — values, arrays and inline tables
* `statements_distinct` — what statements leave behind
* `readBytes_hasDistinctKeys` — whole files
-/

namespace CodeMetrics.Toml

open Value

/-! ## Tables -/

/-- A table has each of its keys once, and so has every table in it. -/
def IsDistinct (table : List (String × Value)) : Prop := (object table).hasDistinctKeys

theorem isDistinct_nil : IsDistinct [] := rfl

theorem IsDistinct.insert {table : List (String × Value)} (h : IsDistinct table) (key : String) {v : Value}
    (hv : v.hasDistinctKeys) : IsDistinct (Fields.insert table key v) := by
  rw [IsDistinct, hasDistinctKeys_object] at h ⊢
  exact ⟨Fields.nodup_keys_insert h.1 key v, Fields.membersDistinct_insert h.2 hv⟩

theorem IsDistinct.get? {table : List (String × Value)} (h : IsDistinct table) {key : String} {v : Value}
    (hv : Fields.get? table key = some v) : v.hasDistinctKeys :=
  membersDistinct_iff.mp (hasDistinctKeys_object.mp h).2 _ (Fields.mem_of_get? hv)

/-- What stands under a key, or an empty table where nothing does. -/
theorem IsDistinct.getD {table : List (String × Value)} (h : IsDistinct table) (key : String) :
    ((Fields.get? table key).getD (object [])).hasDistinctKeys := by
  cases hget : Fields.get? table key with
  | none => rfl
  | some v => exact h.get? hget

theorem hasDistinctKeys_list {items : List Value} : (list items).hasDistinctKeys ↔ ∀ v ∈ items, v.hasDistinctKeys := by
  rw [hasDistinctKeys, haveDistinctKeys_iff]

/-- The last table of a list, replaced. -/
theorem hasDistinctKeys_dropLast {items : List Value} {table : List (String × Value)}
    (h : (list items).hasDistinctKeys) (htable : IsDistinct table) :
    (list (items.dropLast ++ [object table])).hasDistinctKeys := by
  rw [hasDistinctKeys_list] at h ⊢
  intro v hv
  rcases List.mem_append.mp hv with hv | hv
  · exact h v ((List.dropLast_sublist items).subset hv)
  · rw [List.mem_singleton.mp hv]
    exact htable

/-- A change at the end of a path leaves tables with each key once if it does so itself. -/
theorem modifyAt_distinct {enterLists : Bool} {change : List (String × Value) → Option (List (String × Value))}
    (hchange : ∀ table result, IsDistinct table → change table = some result → IsDistinct result) :
    ∀ (path : List String) (table result : List (String × Value)), IsDistinct table →
      modifyAt enterLists change path table = some result → IsDistinct result := by
  intro path
  induction path with
  | nil => exact hchange
  | cons key path ih =>
    intro table result htable h
    have hfound := htable.getD key
    rw [modifyAt] at h
    split at h
    · next inner hinner =>
      obtain ⟨changed, hchanged, rfl⟩ := Option.map_eq_some_iff.mp h
      rw [hinner] at hfound
      exact htable.insert key (ih inner changed hfound hchanged)
    · next items hitems =>
      split at h
      · next _ _ inner hlast =>
        obtain ⟨changed, hchanged, rfl⟩ := Option.map_eq_some_iff.mp h
        rw [hitems] at hfound
        have hinner := hasDistinctKeys_list.mp hfound _ (List.mem_of_getLast? hlast)
        exact htable.insert key (hasDistinctKeys_dropLast hfound (ih inner changed hinner hchanged))
      · cases h
    · cases h

/-- A value written at the end of a path. -/
theorem modifyAt_insert {enterLists : Bool} {path : List String} {table result : List (String × Value)} {stem : String}
    {v : Value} (htable : IsDistinct table) (hv : v.hasDistinctKeys)
    (h : modifyAt enterLists (fun t => some (Fields.insert t stem v)) path table = some result) : IsDistinct result := by
  refine modifyAt_distinct (fun t result ht hresult => ?_) path table result htable h
  cases hresult
  exact ht.insert stem hv

/-! ## Values -/

theorem hasDistinctKeys_of_decimal? {cs rest : List Char} {v : Value} {found : Except Failure (Value × List Char)}
    (h : decimal? cs = some found) (hfound : found = .ok (v, rest)) : v.hasDistinctKeys := by
  unfold decimal? at h
  split at h
  obtain ⟨⟨whole, after⟩, -, rfl⟩ := Option.map_eq_some_iff.mp h
  dsimp only at hfound
  split at hfound
  · split at hfound
    · cases hfound
    · cases hfound
      rfl
  · cases hfound
    rfl

theorem hasDistinctKeys_of_number {cs rest : List Char} {v : Value} (h : number cs = .ok (v, rest)) :
    v.hasDistinctKeys := by
  unfold number at h
  split at h
  · cases h
    rfl
  · split at h
    · next found hfound => exact hasDistinctKeys_of_decimal? hfound h
    · split at h
      · cases h
        rfl
      · cases h

theorem hasDistinctKeys_of_scalar {cs rest : List Char} {v : Value} (h : scalar cs = .ok (v, rest)) :
    v.hasDistinctKeys := by
  unfold scalar at h
  split at h
  · cases h
    rfl
  · split at h
    · cases h
      rfl
    · split at h
      · split at h
        · cases h
          rfl
        · cases h
      · exact hasDistinctKeys_of_number h

/-! ## Arrays and inline tables -/

/-- What the readers of values, items, inline tables and pairs give with some fuel has each key once. -/
structure ReadsDistinct (fuel : Nat) : Prop where
  ofValue {cs rest : List Char} {v : Value} (h : value fuel cs = .ok (v, rest)) : v.hasDistinctKeys
  ofItems {cs rest : List Char} {vs : List Value} (h : items fuel cs = .ok (vs, rest)) : (list vs).hasDistinctKeys
  ofPairs {frozen : List (List String)} {table result : List (String × Value)} {cs rest : List Char}
    (htable : IsDistinct table) (h : pairs fuel frozen table cs = .ok (result, rest)) : IsDistinct result
  ofPair {path : List String} {cs rest : List Char} {v : Value} (h : pair fuel cs = .ok (path, v, rest)) :
    v.hasDistinctKeys

section Step

variable {fuel : Nat} (ih : ReadsDistinct fuel)

include ih

theorem hasDistinctKeys_of_value {cs rest : List Char} {v : Value} (h : value (fuel + 1) cs = .ok (v, rest)) :
    v.hasDistinctKeys := by
  unfold value at h
  split at h
  · next found _ =>
    cases found with
    | error f => cases h
    | ok s =>
      cases h
      rfl
  · split at h
    · obtain ⟨after, -, h⟩ := Outcome.bind_eq_ok.mp h
      split at h
      · cases h
        rfl
      · obtain ⟨⟨vs, _⟩, hvs, h⟩ := Outcome.bind_eq_ok.mp h
        cases h
        exact ih.ofItems hvs
    · split at h
      · cases h
        rfl
      · obtain ⟨⟨table, _⟩, htable, h⟩ := Outcome.bind_eq_ok.mp h
        cases h
        exact ih.ofPairs isDistinct_nil htable
    · exact hasDistinctKeys_of_scalar h

theorem hasDistinctKeys_of_items {cs rest : List Char} {vs : List Value} (h : items (fuel + 1) cs = .ok (vs, rest)) :
    (list vs).hasDistinctKeys := by
  unfold items at h
  obtain ⟨⟨v, _⟩, hv, h⟩ := Outcome.bind_eq_ok.mp h
  have hfirst := ih.ofValue hv
  have hone : (list [v]).hasDistinctKeys := hasDistinctKeys_list.mpr (List.forall_mem_singleton.mpr hfirst)
  obtain ⟨after, -, h⟩ := Outcome.bind_eq_ok.mp h
  split at h
  · cases h
    exact hone
  · obtain ⟨after, -, h⟩ := Outcome.bind_eq_ok.mp h
    split at h
    · cases h
      exact hone
    · obtain ⟨⟨others, _⟩, hothers, h⟩ := Outcome.bind_eq_ok.mp h
      cases h
      have hlater := hasDistinctKeys_list.mp (ih.ofItems hothers)
      exact hasDistinctKeys_list.mpr (List.forall_mem_cons.mpr ⟨hfirst, hlater⟩)
  · cases h

/-- Pairs are written one by one into the table before them. -/
theorem isDistinct_of_pairs {frozen : List (List String)} {table result : List (String × Value)} {cs rest : List Char}
    (htable : IsDistinct table) (h : pairs (fuel + 1) frozen table cs = .ok (result, rest)) : IsDistinct result := by
  unfold pairs at h
  obtain ⟨⟨path, v, _⟩, hv, h⟩ := Outcome.bind_eq_ok.mp h
  dsimp only at h
  split at h
  · cases h
  · split at h
    · cases h
    · split at h
      · cases h
      · next written hwritten =>
        have hdistinct := modifyAt_insert htable (ih.ofPair hv) hwritten
        split at h
        · cases h
          exact hdistinct
        · exact ih.ofPairs hdistinct h
        · cases h

theorem hasDistinctKeys_of_pair {path : List String} {cs rest : List Char} {v : Value}
    (h : pair (fuel + 1) cs = .ok (path, v, rest)) : v.hasDistinctKeys := by
  unfold pair at h
  obtain ⟨⟨name, _⟩, -, h⟩ := Outcome.bind_eq_ok.mp h
  dsimp only at h
  split at h
  · obtain ⟨⟨w, _⟩, hw, h⟩ := Outcome.bind_eq_ok.mp h
    cases h
    exact ih.ofValue hw
  · cases h

end Step

/-- Whatever the fuel, what is read has each key once. -/
theorem readsDistinct (fuel : Nat) : ReadsDistinct fuel := by
  induction fuel with
  | zero =>
    refine ⟨fun h => ?_, fun h => ?_, fun _ h => ?_, fun h => ?_⟩
    · rw [value] at h
      cases h
    · rw [items] at h
      cases h
    · rw [pairs] at h
      cases h
    · rw [pair] at h
      cases h
  | succ fuel ih =>
    exact ⟨hasDistinctKeys_of_value ih, hasDistinctKeys_of_items ih, isDistinct_of_pairs ih, hasDistinctKeys_of_pair ih⟩

/-! ## Statements -/

theorem Book.write_distinct {book result : Book} {path : List String} {v : Value} {rest : List Char}
    (hbook : IsDistinct book.table) (hv : v.hasDistinctKeys) (h : book.write path v rest = .ok result) :
    IsDistinct result.table := by
  unfold Book.write at h
  dsimp only at h
  split at h
  · cases h
  · split at h
    · cases h
    · split at h
      · cases h
      · split at h
        · cases h
        · next table htable =>
          cases h
          exact modifyAt_insert hbook hv htable

theorem Book.openTable_distinct {book result : Book} {path : List String} {rest : List Char}
    (hbook : IsDistinct book.table) (h : book.openTable path rest = .ok result) : IsDistinct result.table := by
  unfold Book.openTable at h
  split at h
  · cases h
  · split at h
    · cases h
    · next table htable =>
      cases h
      refine modifyAt_distinct (fun t result ht hresult => ?_) path book.table table hbook htable
      cases hresult
      exact ht

theorem appendTable_distinct {stem : String} {table result : List (String × Value)} (htable : IsDistinct table)
    (h : appendTable stem table = some result) : IsDistinct result := by
  unfold appendTable at h
  split at h
  · cases h
    exact htable.insert stem rfl
  · next items hitems =>
    cases h
    refine htable.insert stem (hasDistinctKeys_list.mpr fun v hv => ?_)
    rcases List.mem_append.mp hv with hv | hv
    · exact hasDistinctKeys_list.mp (htable.get? hitems) v hv
    · rw [List.mem_singleton.mp hv]
      rfl
  · cases h

theorem Book.openItem_distinct {book result : Book} {path : List String} {rest : List Char}
    (hbook : IsDistinct book.table) (h : book.openItem path rest = .ok result) : IsDistinct result.table := by
  unfold Book.openItem at h
  split at h
  · cases h
  · split at h
    · cases h
    · next table htable =>
      cases h
      exact modifyAt_distinct (fun _ _ ht hresult => appendTable_distinct ht hresult) _ book.table table hbook htable

theorem statement_distinct {book result : Book} {cs rest : List Char} (hbook : IsDistinct book.table)
    (h : statement book cs = .ok (result, rest)) : IsDistinct result.table := by
  unfold statement at h
  split at h
  · obtain ⟨⟨path, _⟩, -, h⟩ := Outcome.bind_eq_ok.mp h
    obtain ⟨opened, hopened, h⟩ := Outcome.bind_eq_ok.mp h
    split at h
    · cases h
      exact @Book.openItem_distinct book.settle _ _ _ hbook hopened
    · cases h
  · obtain ⟨⟨path, _⟩, -, h⟩ := Outcome.bind_eq_ok.mp h
    obtain ⟨opened, hopened, h⟩ := Outcome.bind_eq_ok.mp h
    split at h
    · cases h
      exact @Book.openTable_distinct book.settle _ _ _ hbook hopened
    · cases h
  · cases h
    exact hbook
  · split at h
    · obtain ⟨⟨path, v, _⟩, hv, h⟩ := Outcome.bind_eq_ok.mp h
      obtain ⟨written, hwritten, h⟩ := Outcome.bind_eq_ok.mp h
      cases h
      exact Book.write_distinct hbook ((readsDistinct _).ofPair hv) hwritten
    · cases h
  · cases h
    exact hbook

theorem statements_distinct : ∀ (fuel : Nat) (book result : Book) (cs : List Char), IsDistinct book.table →
    statements fuel book cs = .ok result → IsDistinct result.table := by
  intro fuel
  induction fuel with
  | zero =>
    intro book result cs hbook h
    cases h
    exact hbook
  | succ fuel ih =>
    intro book result cs hbook h
    rw [statements] at h
    split at h
    · cases h
      exact hbook
    · exact ih book result _ hbook h
    · obtain ⟨⟨read, after⟩, hread, h⟩ := Outcome.bind_eq_ok.mp h
      have hstep := statement_distinct hbook hread
      obtain ⟨line, -, h⟩ := Outcome.bind_eq_ok.mp h
      split at h
      · cases h
        exact hstep
      · exact ih read result _ hstep h
      · cases h

/-- **A settings file that is read gives a table with each key once**, and so with all tables in it. -/
theorem readBytes_hasDistinctKeys {bytes : List Nat} {table : List (String × Value)} (h : readBytes bytes = .ok table) :
    (object table).hasDistinctKeys := by
  unfold readBytes at h
  split at h
  · cases h
  · unfold read at h
    dsimp only at h
    split at h
    · next book hbook =>
      cases h
      exact statements_distinct _ _ _ _ isDistinct_nil hbook
    · cases h

end CodeMetrics.Toml
