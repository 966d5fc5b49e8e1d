import Mathlib.Data.List.Forall2

/-!
# Outcomes of sequences

When a computation over a list succeeds, and with what: each item gives its own result, in order. Two computations are
compared by `Rel`: they end in related results or in the same error.
-/

namespace CodeMetrics.Outcome

variable {ε α β γ δ : Type}

/-- Two steps succeed if the first does and the second does with its result. -/
theorem bind_eq_ok {x : Except ε α} {f : α → Except ε β} {b : β} :
    (x >>= f) = .ok b ↔ ∃ a, x = .ok a ∧ f a = .ok b := by
  cases x with
  | error e => simp [bind, Except.bind]
  | ok a => simp [bind, Except.bind]

theorem exists_bind_eq_ok {x : Except ε α} {f : α → Except ε β} :
    (∃ b, (x >>= f) = .ok b) ↔ ∃ a, x = .ok a ∧ ∃ b, f a = .ok b := by
  constructor
  · rintro ⟨b, h⟩
    obtain ⟨a, ha, hb⟩ := bind_eq_ok.mp h
    exact ⟨a, ha, b, hb⟩
  · rintro ⟨a, ha, b, hb⟩
    exact ⟨b, bind_eq_ok.mpr ⟨a, ha, hb⟩⟩

theorem mapM_eq_ok {f : α → Except ε β} : ∀ {l : List α} {r : List β},
    l.mapM f = .ok r ↔ List.Forall₂ (fun a b => f a = .ok b) l r
  | [], r => by
    rw [List.mapM_nil]
    constructor
    · rintro ⟨⟩
      exact .nil
    · rintro ⟨⟩
      rfl
  | a :: l, r => by
    rw [List.mapM_cons, bind_eq_ok]
    constructor
    · rintro ⟨b, hb, h⟩
      obtain ⟨bs, hbs, hr⟩ := bind_eq_ok.mp h
      cases hr
      exact .cons hb (mapM_eq_ok.mp hbs)
    · rintro (_ | ⟨hb, hbs⟩)
      exact ⟨_, hb, bind_eq_ok.mpr ⟨_, mapM_eq_ok.mpr hbs, rfl⟩⟩

theorem mapM_eq_ok_map {f : α → Except ε β} {g : α → β} {l : List α} (h : ∀ a ∈ l, f a = .ok (g a)) :
    l.mapM f = .ok (l.map g) := by
  rw [mapM_eq_ok, List.forall₂_map_right_iff, List.forall₂_same]
  exact h

theorem exists_mapM_eq_ok {f : α → Except ε β} {l : List α} (h : ∀ a ∈ l, ∃ b, f a = .ok b) :
    ∃ r, l.mapM f = .ok r := by
  induction l with
  | nil => exact ⟨[], rfl⟩
  | cons a l ih =>
    obtain ⟨b, hb⟩ := h a List.mem_cons_self
    obtain ⟨bs, hbs⟩ := ih fun a' ha' => h a' (List.mem_cons_of_mem _ ha')
    exact ⟨b :: bs, mapM_eq_ok.mpr (.cons hb (mapM_eq_ok.mp hbs))⟩

theorem exists_mapM_iff {f : α → Except ε β} {l : List α} : (∃ r, l.mapM f = .ok r) ↔ ∀ a ∈ l, ∃ b, f a = .ok b := by
  refine ⟨?_, exists_mapM_eq_ok⟩
  rintro ⟨r, hr⟩
  have hall := mapM_eq_ok.mp hr
  clear hr
  induction hall with
  | nil => exact nofun
  | cons hab _ ih => exact List.forall_mem_cons.mpr ⟨⟨_, hab⟩, ih⟩

theorem exists_mapM_of_forall {f : α → Except ε β} {p : β → Prop} {l : List α} (h : ∀ a ∈ l, ∃ b, f a = .ok b ∧ p b) :
    ∃ r, l.mapM f = .ok r ∧ ∀ b ∈ r, p b := by
  induction l with
  | nil => exact ⟨[], rfl, by simp⟩
  | cons a l ih =>
    obtain ⟨⟨b, hb, hp⟩, hl⟩ := List.forall_mem_cons.mp h
    obtain ⟨bs, hbs, hps⟩ := ih hl
    exact ⟨b :: bs, mapM_eq_ok.mpr (.cons hb (mapM_eq_ok.mp hbs)), List.forall_mem_cons.mpr ⟨hp, hps⟩⟩

/-- What is related to one of the items is one of the items. -/
theorem exists_of_forall₂_right {R : α → β → Prop} {as : List α} {bs : List β} (h : List.Forall₂ R as bs) {b : β}
    (hb : b ∈ bs) : ∃ a ∈ as, R a b := by
  induction h with
  | nil => cases hb
  | cons hab _ ih =>
    rcases List.mem_cons.mp hb with rfl | hb
    · exact ⟨_, List.mem_cons_self, hab⟩
    · obtain ⟨a, ha, hr⟩ := ih hb
      exact ⟨a, List.mem_cons_of_mem _ ha, hr⟩

theorem exists_of_forall₂_left {R : α → β → Prop} {as : List α} {bs : List β} (h : List.Forall₂ R as bs) {a : α}
    (ha : a ∈ as) : ∃ b ∈ bs, R a b :=
  exists_of_forall₂_right h.flip ha

/-- What holds of related items may be said of the members only. -/
theorem forall₂_imp_of_mem {R S : α → β → Prop} {as : List α} {bs : List β} (h : List.Forall₂ R as bs)
    (himp : ∀ a ∈ as, ∀ b ∈ bs, R a b → S a b) : List.Forall₂ S as bs := by
  induction h with
  | nil => exact .nil
  | cons hab _ ih =>
    refine .cons (himp _ List.mem_cons_self _ List.mem_cons_self hab) (ih fun a ha b hb => ?_)
    exact himp a (List.mem_cons_of_mem _ ha) b (List.mem_cons_of_mem _ hb)

/-- Steps that succeed for the same reason whatever came before lead to a result if there is that reason for all. -/
theorem exists_foldlM_iff {f : β → α → Except ε β} {p : α → Prop} {l : List α}
    (h : ∀ a ∈ l, ∀ b, (∃ b', f b a = .ok b') ↔ p a) (b : β) : (∃ b', l.foldlM f b = .ok b') ↔ ∀ a ∈ l, p a := by
  induction l generalizing b with
  | nil => exact ⟨fun _ a ha => absurd ha List.not_mem_nil, fun _ => ⟨b, rfl⟩⟩
  | cons a l ih =>
    rw [List.foldlM_cons, exists_bind_eq_ok, List.forall_mem_cons, ← h a List.mem_cons_self b]
    have hrest := ih fun a' ha' => h a' (List.mem_cons_of_mem _ ha')
    constructor
    · rintro ⟨b₁, hb₁, hb₂⟩
      exact ⟨⟨b₁, hb₁⟩, (hrest b₁).mp hb₂⟩
    · rintro ⟨⟨b₁, hb₁⟩, hall⟩
      exact ⟨b₁, hb₁, (hrest b₁).mpr hall⟩

/-! ## A single error -/

/-- A computation that succeeds, or ends in this error. -/
def EndsIn (e : ε) (x : Except ε α) : Prop := (∃ a, x = .ok a) ∨ x = .error e

theorem EndsIn.bind {e : ε} {x : Except ε α} {f : α → Except ε β} (h : EndsIn e x) (hf : ∀ a, EndsIn e (f a)) :
    EndsIn e (x >>= f) := by
  rcases h with ⟨a, rfl⟩ | rfl
  · exact hf a
  · exact .inr rfl

theorem EndsIn.mapM {e : ε} {f : α → Except ε β} {l : List α} (h : ∀ a ∈ l, EndsIn e (f a)) : EndsIn e (l.mapM f) := by
  induction l with
  | nil => exact .inl ⟨[], rfl⟩
  | cons a l ih =>
    rw [List.mapM_cons]
    refine (h a List.mem_cons_self).bind fun b => ?_
    exact (ih fun a' ha' => h a' (List.mem_cons_of_mem _ ha')).bind fun bs => .inl ⟨b :: bs, rfl⟩

theorem EndsIn.foldlM {e : ε} {f : β → α → Except ε β} {l : List α} (h : ∀ a ∈ l, ∀ b, EndsIn e (f b a)) :
    ∀ b, EndsIn e (l.foldlM f b) := by
  induction l with
  | nil => exact fun b => .inl ⟨b, rfl⟩
  | cons a l ih =>
    intro b
    rw [List.foldlM_cons]
    exact (h a List.mem_cons_self b).bind (ih fun a' ha' => h a' (List.mem_cons_of_mem _ ha'))

theorem EndsIn.eq_of_error {e e' : ε} {x : Except ε α} (h : EndsIn e x) (hx : x = .error e') : e' = e := by
  rcases h with ⟨a, hok⟩ | herror
  · cases hok.symm.trans hx
  · exact Except.error.inj (hx.symm.trans herror)

/-- Two computations that have but one error and succeed together. -/
theorem EndsIn.both {e : ε} {x : Except ε α} {y : Except ε β} (hx : EndsIn e x) (hy : EndsIn e y)
    (hsame : (∃ a, x = .ok a) ↔ ∃ b, y = .ok b) :
    (∃ a b, x = .ok a ∧ y = .ok b) ∨ (x = .error e ∧ y = .error e) := by
  rcases hx with ⟨a, rfl⟩ | rfl
  · obtain ⟨b, rfl⟩ := hsame.mp ⟨a, rfl⟩
    exact .inl ⟨a, b, rfl, rfl⟩
  · rcases hy with ⟨b, rfl⟩ | rfl
    · obtain ⟨a, ha⟩ := hsame.mpr ⟨b, rfl⟩
      cases ha
    · exact .inr ⟨rfl, rfl⟩

/-! ## Two computations -/

/-- Two computations end alike: in related results, or in the same error. -/
inductive Rel (R : α → β → Prop) : Except ε α → Except ε β → Prop
  | ok {a : α} {b : β} (h : R a b) : Rel R (.ok a) (.ok b)
  | error (e : ε) : Rel R (.error e) (.error e)

theorem Rel.bind {R : α → β → Prop} {S : γ → δ → Prop} {x : Except ε α} {y : Except ε β} {f : α → Except ε γ}
    {g : β → Except ε δ} (h : Rel R x y) (hstep : ∀ a b, R a b → Rel S (f a) (g b)) : Rel S (x >>= f) (y >>= g) := by
  cases h with
  | ok hab => exact hstep _ _ hab
  | error e => exact .error e

theorem Rel.imp {R S : α → β → Prop} {x : Except ε α} {y : Except ε β} (h : Rel R x y) (himp : ∀ a b, R a b → S a b) :
    Rel S x y := by
  cases h with
  | ok hab => exact .ok (himp _ _ hab)
  | error e => exact .error e

theorem Rel.error_or_ok {R : α → β → Prop} {x : Except ε α} {y : Except ε β} (h : Rel R x y) :
    (∃ e, x = .error e ∧ y = .error e) ∨ ∃ a b, x = .ok a ∧ y = .ok b ∧ R a b := by
  cases h with
  | ok hab => exact .inr ⟨_, _, rfl, rfl, hab⟩
  | error e => exact .inl ⟨e, rfl, rfl⟩

theorem Rel.eq {x y : Except ε α} (h : Rel Eq x y) : x = y := by
  cases h with
  | ok hab => rw [hab]
  | error e => rfl

theorem Rel.refl (x : Except ε α) : Rel Eq x x := by
  cases x with
  | ok a => exact .ok rfl
  | error e => exact .error e

/-- Of results that are related it is also known where they come from. -/
theorem Rel.and_eq {R : α → β → Prop} {x : Except ε α} {y : Except ε β} (h : Rel R x y) :
    Rel (fun a b => R a b ∧ x = .ok a ∧ y = .ok b) x y := by
  cases h with
  | ok hab => exact .ok ⟨hab, rfl, rfl⟩
  | error e => exact .error e

/-- Items that end alike make sequences that end alike. -/
theorem Rel.mapM {R : α → β → Prop} {S : γ → δ → Prop} {f : α → Except ε γ} {g : β → Except ε δ} {as : List α}
    {bs : List β} (h : List.Forall₂ R as bs) (hitem : ∀ a b, R a b → Rel S (f a) (g b)) :
    Rel (List.Forall₂ S) (as.mapM f) (bs.mapM g) := by
  induction h with
  | nil => exact .ok .nil
  | cons hab _ ih =>
    rw [List.mapM_cons, List.mapM_cons]
    refine (hitem _ _ hab).bind fun c d hcd => ?_
    exact ih.bind fun cs ds hcds => .ok (.cons hcd hcds)

/-- Steps that end alike make folds that end alike. -/
theorem Rel.foldlM {R : α → β → Prop} {S : γ → δ → Prop} {f : γ → α → Except ε γ} {g : δ → β → Except ε δ}
    {as : List α} {bs : List β} (h : List.Forall₂ R as bs)
    (hstep : ∀ c d a b, S c d → R a b → Rel S (f c a) (g d b)) :
    ∀ c d, S c d → Rel S (as.foldlM f c) (bs.foldlM g d) := by
  induction h with
  | nil => exact fun c d hcd => .ok hcd
  | cons hab _ ih =>
    intro c d hcd
    rw [List.foldlM_cons, List.foldlM_cons]
    exact (hstep c d _ _ hcd hab).bind ih

end CodeMetrics.Outcome
