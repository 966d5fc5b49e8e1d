import CodeMetrics.Json.Reader
import CodeMetrics.Proofs.Fields
import CodeMetrics.Proofs.Outcome

/-!
# Values that are read

`IsValue` says which values a JSON text can stand for: an object has each of its keys once, and a whole number has no
more digits than are converted. Whatever the reader reads is such a value (`read_isValue`), so that what holds of these
values holds of every document.
-/

namespace CodeMetrics.Json

/-- A value of a JSON text. -/
inductive IsValue : Value → Prop
  | null : IsValue .null
  | bool (b : Bool) : IsValue (.bool b)
  | int {n : Int} (h : n.natAbs < Number.pow10 Text.digitLimit) : IsValue (.int n)
  | float (x : Float) : IsValue (.float x)
  | str (s : String) : IsValue (.str s)
  | list {items : List Value} (h : ∀ v ∈ items, IsValue v) : IsValue (.list items)
  | object {fields : List (String × Value)} (hkeys : (Fields.keys fields).Nodup) (h : ∀ m ∈ fields, IsValue m.2) :
      IsValue (.object fields)

theorem IsValue.emptyObject : IsValue (.object []) := .object List.nodup_nil nofun

/-- A member that is written into an object leaves a value. -/
theorem IsValue.insert {fields : List (String × Value)} (h : IsValue (.object fields)) (key : String) {v : Value}
    (hv : IsValue v) : IsValue (.object (Fields.insert fields key v)) := by
  obtain _ | _ | _ | _ | _ | _ | ⟨hkeys, hmembers⟩ := h
  refine .object (Fields.nodup_keys_insert hkeys key v) fun m hm => ?_
  rcases Fields.mem_of_mem_insert hm with hm | rfl
  · exact hmembers m hm
  · exact hv

/-! ## Words and numbers -/

theorem isValue_of_word? {cs rest : List Char} {v : Value} (h : word? cs = some (v, rest)) : IsValue v := by
  obtain ⟨⟨w, v'⟩, hfound, hv⟩ := Option.map_eq_some_iff.mp h
  have hmem := List.mem_of_find?_eq_some hfound
  cases hv
  simp only [words, List.mem_cons, Prod.mk.injEq, List.not_mem_nil, or_false] at hmem
  rcases hmem with ⟨-, rfl⟩ | ⟨-, rfl⟩ | ⟨-, rfl⟩ | ⟨-, rfl⟩ | ⟨-, rfl⟩ | ⟨-, rfl⟩ <;> constructor

theorem foldl_digits_lt {cs : List Char} (h : ∀ c ∈ cs, isDigit c) (acc : Nat) :
    cs.foldl (fun acc c => 10 * acc + (c.toNat - 0x30)) acc < (acc + 1) * Number.pow10 cs.length := by
  induction cs generalizing acc with
  | nil => exact Nat.lt_of_lt_of_eq (Nat.lt_succ_self acc) (Nat.mul_one _).symm
  | cons c rest ih =>
    obtain ⟨hc, hrest⟩ := List.forall_mem_cons.mp h
    have hdigit : c.toNat - 0x30 ≤ 9 := by
      simp only [isDigit, Bool.and_eq_true, decide_eq_true_eq] at hc
      omega
    have hpower : Number.pow10 (c :: rest).length = Number.pow10 rest.length * 10 := rfl
    calc (c :: rest).foldl (fun acc c => 10 * acc + (c.toNat - 0x30)) acc
        = rest.foldl (fun acc c => 10 * acc + (c.toNat - 0x30)) (10 * acc + (c.toNat - 0x30)) := rfl
      _ < (10 * acc + (c.toNat - 0x30) + 1) * Number.pow10 rest.length := ih hrest _
      _ ≤ (10 * (acc + 1)) * Number.pow10 rest.length := Nat.mul_le_mul_right _ (by omega)
      _ = (acc + 1) * Number.pow10 (c :: rest).length := by
        rw [hpower, Nat.mul_comm 10 (acc + 1), Nat.mul_assoc, Nat.mul_comm 10]

/-- A row of digits is below the power of ten that has a digit more than it may have. -/
theorem digitsNat_lt {cs : List Char} (h : ∀ c ∈ cs, isDigit c) {limit : Nat} (hlength : cs.length ≤ limit) :
    digitsNat cs < Number.pow10 limit := by
  have hlt := foldl_digits_lt h 0
  rw [Nat.zero_add, Nat.one_mul] at hlt
  exact Nat.lt_of_lt_of_le hlt (Nat.pow_le_pow_right (by decide) hlength)

theorem isValue_of_number {cs rest : List Char} {v : Value} (h : number cs = .ok (v, rest)) : IsValue v := by
  unfold number at h
  split at h
  next negative body _ =>
  extract_lets whole at h
  have hdigits : ∀ c ∈ whole, isDigit c := by
    unfold whole
    split
    · exact List.forall_mem_singleton.mpr rfl
    · exact List.all_eq_true.mp List.all_takeWhile
  split at h
  · cases h
  · split at h
    split at h
    split at h
    · split at h
      · cases h
      · next hlength =>
        cases h
        have hlt := digitsNat_lt hdigits (Nat.le_of_not_lt hlength)
        have habs : (if negative = true then -(digitsNat whole : Int) else digitsNat whole).natAbs = digitsNat whole := by
          split
          · rw [Int.natAbs_neg, Int.natAbs_natCast]
          · rw [Int.natAbs_natCast]
        exact .int (Nat.lt_of_le_of_lt (Nat.le_of_eq habs) hlt)
    · cases h
      exact .float _

/-! ## Texts -/

/-- What the readers of values, items and members give with some fuel is made of values. -/
structure ReadsValues (fuel : Nat) : Prop where
  ofValue {cs rest : List Char} {v : Value} (h : value fuel cs = .ok (v, rest)) : IsValue v
  ofItems {cs rest : List Char} {vs : List Value} (h : items fuel cs = .ok (vs, rest)) : ∀ v ∈ vs, IsValue v
  ofMembers {before fields : List (String × Value)} {cs rest : List Char} (hbefore : IsValue (.object before))
    (h : members fuel before cs = .ok (fields, rest)) : IsValue (.object fields)

section Step

variable {fuel : Nat} (ih : ReadsValues fuel)

include ih

theorem isValue_of_value {cs rest : List Char} {v : Value} (h : value (fuel + 1) cs = .ok (v, rest)) : IsValue v := by
  unfold value at h
  split at h
  · cases h
  · split at h
    · obtain ⟨_, _, h⟩ := Outcome.bind_eq_ok.mp h
      cases h
      exact .str _
    · split at h
      · split at h
        · cases h
          exact .list nofun
        · obtain ⟨⟨vs, _⟩, hvs, h⟩ := Outcome.bind_eq_ok.mp h
          cases h
          exact .list (ih.ofItems hvs)
      · split at h
        · split at h
          · cases h
            exact .emptyObject
          · obtain ⟨⟨fields, _⟩, hfields, h⟩ := Outcome.bind_eq_ok.mp h
            cases h
            exact ih.ofMembers .emptyObject hfields
        · split at h
          · next found hword =>
            cases h
            exact isValue_of_word? hword
          · exact isValue_of_number h

theorem isValue_of_items {cs rest : List Char} {vs : List Value} (h : items (fuel + 1) cs = .ok (vs, rest)) :
    ∀ v ∈ vs, IsValue v := by
  unfold items at h
  obtain ⟨⟨v, _⟩, hv, h⟩ := Outcome.bind_eq_ok.mp h
  dsimp only at h
  have hfirst := ih.ofValue hv
  split at h
  · cases h
    exact List.forall_mem_singleton.mpr hfirst
  · obtain ⟨⟨others, _⟩, hothers, h⟩ := Outcome.bind_eq_ok.mp h
    cases h
    exact List.forall_mem_cons.mpr ⟨hfirst, ih.ofItems hothers⟩
  · cases h

/-- Members are written one by one into those that were read before them. -/
theorem isValue_of_members {before fields : List (String × Value)} {cs rest : List Char}
    (hbefore : IsValue (.object before)) (h : members (fuel + 1) before cs = .ok (fields, rest)) :
    IsValue (.object fields) := by
  unfold members at h
  split at h
  · obtain ⟨⟨key, _⟩, -, h⟩ := Outcome.bind_eq_ok.mp h
    dsimp only at h
    split at h
    · obtain ⟨⟨v, _⟩, hv, h⟩ := Outcome.bind_eq_ok.mp h
      dsimp only at h
      have hwritten := hbefore.insert key (ih.ofValue hv)
      split at h
      · cases h
        exact hwritten
      · exact ih.ofMembers hwritten h
      · cases h
    · cases h
  · cases h

end Step

/-- Whatever the fuel, what is read is made of values. -/
theorem readsValues (fuel : Nat) : ReadsValues fuel := by
  induction fuel with
  | zero =>
    refine ⟨fun h => ?_, fun h => ?_, fun _ h => ?_⟩
    · rw [value] at h
      cases h
    · rw [items] at h
      cases h
    · rw [members] at h
      cases h
  | succ fuel ih => exact ⟨isValue_of_value ih, isValue_of_items ih, isValue_of_members ih⟩

/-- **What is read from a text is a value of a JSON text.** -/
theorem read_isValue {text : List Char} {v : Value} (h : read text = .ok v) : IsValue v := by
  unfold read at h
  split at h
  · cases h
  · obtain ⟨⟨w, _⟩, hw, h⟩ := Outcome.bind_eq_ok.mp h
    dsimp only at h
    have hvalue := (readsValues _).ofValue hw
    split at h
    · cases h
      exact hvalue
    · cases h

/-! ## Writing out -/

/-- Numbers up to an exponent are below that power of ten. -/
theorem lt_pow10 {n digits : Nat} (h : n ≤ digits) : n < Number.pow10 digits :=
  Nat.lt_of_le_of_lt h (Nat.lt_pow_self (by decide))

theorem areWritable_iff {items : List Value} :
    Value.areWritable items = true ↔ ∀ v ∈ items, v.isWritable = true := by
  induction items with
  | nil => simp [Value.areWritable]
  | cons v rest ih => rw [Value.areWritable, Bool.and_eq_true, ih, List.forall_mem_cons]

theorem haveWritable_iff {fields : List (String × Value)} :
    Value.haveWritable fields = true ↔ ∀ m ∈ fields, m.2.isWritable = true := by
  induction fields with
  | nil => simp [Value.haveWritable]
  | cons m rest ih => rw [Value.haveWritable, Bool.and_eq_true, ih, List.forall_mem_cons]

/-- What is read can be written out again. -/
theorem IsValue.isWritable {v : Value} (h : IsValue v) : v.isWritable = true := by
  induction h with
  | int h =>
    rw [Value.isWritable]
    exact decide_eq_true h
  | list _ ih =>
    rw [Value.isWritable]
    exact areWritable_iff.mpr ih
  | object _ _ ih =>
    rw [Value.isWritable]
    exact haveWritable_iff.mpr ih
  | null | bool | float | str => rfl

end CodeMetrics.Json
