import CodeMetrics.Proofs.Fields
import CodeMetrics.Proofs.Outcome
import Mathlib.Data.List.Perm.Basic

/-!
# Lists that match in some order

Two lists match if one of them can be put in an order in which it is related to the other item by item. What is counted,
collected or looked up by key in one list is then the same, up to order, in the other.

* `Matched.flatMap`, `Matched.filterMap` — what is collected from matching lists
* `Matched.countP_eq`, `Matched.perm` — what is the same
-/

namespace CodeMetrics

section Matched

variable {α β γ δ : Type} {R : α → β → Prop} {S : γ → δ → Prop}

/-- In some order, one list is related to the other item by item. -/
def Matched (R : α → β → Prop) (as : List α) (bs : List β) : Prop := ∃ mid, as.Perm mid ∧ List.Forall₂ R mid bs

namespace Matched

theorem of_forall₂ {as : List α} {bs : List β} (h : List.Forall₂ R as bs) : Matched R as bs := ⟨as, .refl as, h⟩

theorem imp {R' : α → β → Prop} {as : List α} {bs : List β} (h : Matched R as bs)
    (himp : ∀ a ∈ as, ∀ b ∈ bs, R a b → R' a b) : Matched R' as bs := by
  obtain ⟨mid, hperm, hall⟩ := h
  exact ⟨mid, hperm, Outcome.forall₂_imp_of_mem hall fun a ha b hb => himp a (hperm.mem_iff.mpr ha) b hb⟩

theorem and_mem {as : List α} {bs : List β} (h : Matched R as bs) :
    Matched (fun a b => R a b ∧ a ∈ as ∧ b ∈ bs) as bs := h.imp fun _ ha _ hb hab => ⟨hab, ha, hb⟩

theorem length_eq {as : List α} {bs : List β} (h : Matched R as bs) : as.length = bs.length := by
  obtain ⟨mid, hperm, hall⟩ := h
  exact hperm.length_eq.trans hall.length_eq

theorem append {as as' : List α} {bs bs' : List β} (h : Matched R as bs) (h' : Matched R as' bs') :
    Matched R (as ++ as') (bs ++ bs') := by
  obtain ⟨mid, hperm, hall⟩ := h
  obtain ⟨mid', hperm', hall'⟩ := h'
  exact ⟨mid ++ mid', hperm.append hperm', List.rel_append hall hall'⟩

/-- Lists that are collected from related items match. -/
theorem flatMap {as : List α} {bs : List β} (h : Matched R as bs) {f : α → List γ} {g : β → List δ}
    (hstep : ∀ a b, R a b → Matched S (f a) (g b)) : Matched S (as.flatMap f) (bs.flatMap g) := by
  obtain ⟨mid, hperm, hall⟩ := h
  have hmid : Matched S (mid.flatMap f) (bs.flatMap g) := by
    clear hperm
    induction hall with
    | nil => exact of_forall₂ .nil
    | cons hab _ ih => exact (hstep _ _ hab).append ih
  obtain ⟨mid', hperm', hall'⟩ := hmid
  exact ⟨mid', (hperm.flatMap_right f).trans hperm', hall'⟩

theorem filterMap {as : List α} {bs : List β} (h : Matched R as bs) {f : α → Option γ} {g : β → Option δ}
    (hstep : ∀ a b, R a b → Option.Rel S (f a) (g b)) : Matched S (as.filterMap f) (bs.filterMap g) := by
  obtain ⟨mid, hperm, hall⟩ := h
  exact ⟨mid.filterMap f, hperm.filterMap f, List.rel_filterMap (fun a b hab => hstep a b hab) hall⟩

theorem map {as : List α} {bs : List β} (h : Matched R as bs) {f : α → γ} {g : β → δ}
    (hstep : ∀ a b, R a b → S (f a) (g b)) : Matched S (as.map f) (bs.map g) := by
  obtain ⟨mid, hperm, hall⟩ := h
  exact ⟨mid.map f, hperm.map f, List.rel_map (fun a b hab => hstep a b hab) hall⟩

theorem filter {as : List α} {bs : List β} (h : Matched R as bs) {p : α → Bool} {q : β → Bool}
    (hsame : ∀ a b, R a b → p a = q b) : Matched R (as.filter p) (bs.filter q) := by
  obtain ⟨mid, hperm, hall⟩ := h
  refine ⟨mid.filter p, hperm.filter p, ?_⟩
  clear hperm
  induction hall with
  | nil => exact .nil
  | cons hab _ ih =>
    rw [List.filter_cons, List.filter_cons, ← hsame _ _ hab]
    split
    · exact .cons hab ih
    · exact ih

theorem perm {as bs : List α} (h : Matched Eq as bs) : as.Perm bs := by
  obtain ⟨mid, hperm, hall⟩ := h
  rw [List.forall₂_eq_eq_eq] at hall
  exact hall ▸ hperm

theorem countP_eq {as : List α} {bs : List β} (h : Matched R as bs) {p : α → Bool} {q : β → Bool}
    (hsame : ∀ a b, R a b → p a = q b) : as.countP p = bs.countP q := by
  obtain ⟨mid, hperm, hall⟩ := h
  rw [hperm.countP_eq]
  clear hperm
  induction hall with
  | nil => rfl
  | cons hab _ ih => rw [List.countP_cons, List.countP_cons, hsame _ _ hab, ih]

theorem exists_left {as : List α} {bs : List β} (h : Matched R as bs) {a : α} (ha : a ∈ as) : ∃ b ∈ bs, R a b := by
  obtain ⟨mid, hperm, hall⟩ := h
  exact Outcome.exists_of_forall₂_left hall (hperm.subset ha)

theorem exists_right {as : List α} {bs : List β} (h : Matched R as bs) {b : β} (hb : b ∈ bs) : ∃ a ∈ as, R a b := by
  obtain ⟨mid, hperm, hall⟩ := h
  obtain ⟨a, ha, hab⟩ := Outcome.exists_of_forall₂_right hall hb
  exact ⟨a, hperm.mem_iff.mpr ha, hab⟩

theorem forall_iff {as : List α} {bs : List β} (h : Matched R as bs) {p : α → Prop} {q : β → Prop}
    (hsame : ∀ a b, R a b → (p a ↔ q b)) : (∀ a ∈ as, p a) ↔ ∀ b ∈ bs, q b := by
  constructor
  · intro hall b hb
    obtain ⟨a, ha, hab⟩ := h.exists_right hb
    exact (hsame a b hab).mp (hall a ha)
  · intro hall a ha
    obtain ⟨b, hb, hab⟩ := h.exists_left ha
    exact (hsame a b hab).mpr (hall b hb)

/-- What two lists match with, one item each, matches. -/
theorem of_forall₂_both {R' : γ → δ → Prop} {P : α → γ → Prop} {Q : β → δ → Prop} {as : List α} {bs : List β}
    {cs : List γ} {ds : List δ} (h : Matched R as bs) (hleft : List.Forall₂ P as cs) (hright : List.Forall₂ Q bs ds)
    (hstep : ∀ a b c d, R a b → P a c → Q b d → R' c d) : Matched R' cs ds := by
  obtain ⟨mid, hperm, hall⟩ := h
  obtain ⟨mid', hmid, hperm'⟩ := List.perm_comp_forall₂ hperm.symm hleft
  refine ⟨mid', hperm'.symm, ?_⟩
  clear hperm hperm' hleft
  induction hall generalizing mid' ds with
  | nil =>
    cases hmid
    cases hright
    exact .nil
  | cons hab _ ih =>
    cases hmid with
    | cons hac hrest =>
      cases hright with
      | cons hbd hrest' => exact .cons (hstep _ _ _ _ hab hac hbd) (ih hrest' _ hrest)

end Matched

end Matched

/-! ## Fields in another order -/

theorem Fields.get?_perm {α : Type} {fields others : List (String × α)} (hnodup : (keys fields).Nodup)
    (h : fields.Perm others) (key : String) : get? others key = get? fields key := by
  have hnodup' : (keys others).Nodup := (h.map _).nodup_iff.mp hnodup
  cases hget : get? others key with
  | none =>
    cases hget' : get? fields key with
    | none => rfl
    | some v =>
      rw [get?_of_mem hnodup' (h.mem_iff.mp (mem_of_get? hget'))] at hget
      cases hget
  | some v => exact (get?_of_mem hnodup (h.mem_iff.mpr (mem_of_get? hget))).symm

/-- Fields that match by key are looked up alike. -/
theorem Fields.get?_matched {α β : Type} {R : α → β → Prop} {fields : List (String × α)} {others : List (String × β)}
    (hnodup : (keys fields).Nodup) (h : Matched (fun f g => g.1 = f.1 ∧ R f.2 g.2) fields others) (key : String) :
    Option.Rel R (get? fields key) (get? others key) := by
  obtain ⟨mid, hperm, hall⟩ := h
  rw [← get?_perm hnodup hperm]
  clear hperm
  induction hall with
  | nil => exact .none
  | @cons f g _ _ hfg _ ih =>
    obtain ⟨k, v⟩ := f
    obtain ⟨k', v'⟩ := g
    obtain ⟨hkey, hvalue⟩ := hfg
    rw [get?, get?, show k' = k from hkey]
    split
    · exact .some hvalue
    · exact ih

end CodeMetrics
