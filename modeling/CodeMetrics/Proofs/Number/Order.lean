import CodeMetrics.Proofs.Number.Arithmetic

/-!
# Doubles in order

Rounding keeps order, so arithmetic of doubles does: a difference grows with what is taken from and shrinks with what is
taken away, and products and quotients by a positive number grow with the other one. Infinite doubles are included as far
as there is a result.

* `sub_mono` — differences
* `mul_mono`, `div_mono` — products and quotients
* `within_of_rounded`, `Within.mul` — bounds
* `ofNat_mono`, `within_ofNat` — counts
-/

namespace CodeMetrics.Number

open Float.Model (UnpackedFloat)
open Float.Model.UnpackedFloat

section Order

variable {x y z : Float}

theorem double_le_refl (h : IsNumber x) : x ≤ x := le_iff.mpr ⟨h, h, le_rfl⟩

theorem double_le_trans (h : x ≤ y) (h' : y ≤ z) : x ≤ z := by
  obtain ⟨hx, -, hxy⟩ := le_iff.mp h
  obtain ⟨-, hz, hyz⟩ := le_iff.mp h'
  exact le_iff.mpr ⟨hx, hz, hxy.trans hyz⟩

theorem double_lt_of_le_of_lt (h : x ≤ y) (h' : y < z) : x < z := by
  obtain ⟨hx, hy, hxy⟩ := le_iff.mp h
  obtain ⟨-, hz⟩ := isNumber_of_lt h'
  exact (lt_iff hx hz).mpr (hxy.trans_lt ((lt_iff hy hz).mp h'))

theorem double_not_lt (hx : IsNumber x) (hy : IsNumber y) : ¬ x < y ↔ y ≤ x := by
  rw [lt_iff hx hy, not_lt, le_iff]
  exact ⟨fun h => ⟨hy, hx, h⟩, fun h => h.2.2⟩

/-! ## Finite and infinite numbers -/

theorem IsFinite.isNumber (h : IsFinite x) : IsNumber x := by
  intro hnot
  rw [IsFinite, hnot] at h
  exact h.elim

theorem IsFinite.abs_lt (h : IsFinite x) : |value x| < beyond := by
  rcases unpacked_cases x with hnot | ⟨s, hs⟩ | ⟨-, hlt, -⟩
  · exact absurd hnot h.isNumber
  · rw [IsFinite, hs] at h
    exact h.elim
  · exact hlt

theorem IsFinite.hasDigits (h : IsFinite x) : HasDigits (value x) := IsReal.hasDigits h

theorem isNumber_of_infinity {s : Sign} (h : unpacked x = .infinity s) : IsNumber x := by
  rw [IsNumber, h]
  exact UnpackedFloat.noConfusion

/-- A result that is infinite is packed as it is. -/
theorem value_of_infinity {u : UnpackedFloat} {s : Sign}
    (hx : unpacked x = UnpackedFloat.unpack double (UnpackedFloat.pack double u)) (hu : u = .infinity s) :
    IsNumber x ∧ value x = factor s * beyond := by
  have hinfinite : unpacked x = .infinity s := by
    rw [hx, hu]
    exact unpack_infinity s
  refine ⟨isNumber_of_infinity hinfinite, ?_⟩
  rw [value, hinfinite, valueOf]

/-- A number is finite, or infinite with a sign. -/
theorem IsNumber.cases (h : IsNumber x) : IsFinite x ∨ ∃ s, unpacked x = .infinity s ∧ value x = factor s * beyond := by
  rcases unpacked_cases x with hnot | ⟨s, hs⟩ | ⟨hreal, -⟩
  · exact absurd hnot h
  · exact .inr ⟨s, hs, by rw [value, hs, valueOf]⟩
  · exact .inl hreal

theorem IsNumber.abs_le (h : IsNumber x) : |value x| ≤ beyond := by
  rcases h.cases with hfinite | ⟨s, -, hvalue⟩
  · exact hfinite.abs_lt.le
  · rw [hvalue, abs_mul, abs_factor, one_mul, abs_of_pos beyond_pos]

theorem isFinite_of_abs_lt (h : IsNumber x) (hlt : |value x| < beyond) : IsFinite x := by
  rcases h.cases with hfinite | ⟨s, -, hvalue⟩
  · exact hfinite
  · rw [hvalue, abs_mul, abs_factor, one_mul, abs_of_pos beyond_pos] at hlt
    exact absurd hlt (lt_irrefl _)

/-- A number that is not infinite with the other sign. -/
theorem IsNumber.finite_or_top (h : IsNumber x) (hlow : -beyond < value x) :
    IsFinite x ∨ (unpacked x = .infinity .positive ∧ value x = beyond) := by
  rcases h.cases with hfinite | ⟨s, hs, hvalue⟩
  · exact .inl hfinite
  · cases s with
    | positive => exact .inr ⟨hs, by rw [hvalue, factor, one_mul]⟩
    | negative =>
      rw [hvalue, factor, neg_one_mul] at hlow
      exact absurd hlow (lt_irrefl _)

theorem IsNumber.finite_or_bottom (h : IsNumber x) (hhigh : value x < beyond) :
    IsFinite x ∨ (unpacked x = .infinity .negative ∧ value x = -beyond) := by
  rcases h.cases with hfinite | ⟨s, hs, hvalue⟩
  · exact .inl hfinite
  · cases s with
    | negative => exact .inr ⟨hs, by rw [hvalue, factor, neg_one_mul]⟩
    | positive =>
      rw [hvalue, factor, one_mul] at hhigh
      exact absurd hhigh (lt_irrefl _)

end Order

/-! ## Bounds -/

theorem hasDigits_natCast {n : Nat} (h : n ≤ 2 ^ 53) : HasDigits n :=
  ⟨n, 0, by rw [Nat.abs_cast]; exact_mod_cast h, by norm_num, by rw [zpow_zero, mul_one, Int.cast_natCast]⟩

theorem natCast_lt_beyond {n : Nat} (h : n ≤ 2 ^ 53) : (n : ℚ) < beyond := by
  have hcast : (n : ℚ) ≤ 2 ^ (53 : ℤ) := by exact_mod_cast h
  rw [beyond_eq]
  exact hcast.trans_lt (zpow_lt_zpow_right₀ one_lt_two (by norm_num))

/-- What has 53 digits and is below a number is below the rounded one. -/
theorem le_clamped_rounded {g v : ℚ} (hg : HasDigits g) (hlt : |g| ≤ beyond) (h : g ≤ v) : g ≤ clamped (rounded v) := by
  have hmono := clamped_mono (rounded_mono h)
  rwa [rounded_of_hasDigits hg, clamped_of_abs_le hlt] at hmono

theorem clamped_rounded_le {g v : ℚ} (hg : HasDigits g) (hlt : |g| ≤ beyond) (h : v ≤ g) : clamped (rounded v) ≤ g := by
  have hmono := clamped_mono (rounded_mono h)
  rwa [rounded_of_hasDigits hg, clamped_of_abs_le hlt] at hmono

/-- A finite double within whole bounds. -/
structure Within (x : Float) (low high : Int) : Prop where
  finite : IsFinite x
  low_le : (low : ℚ) ≤ value x
  le_high : value x ≤ high

section Within

variable {x y : Float} {low high : Int}

theorem hasDigits_intCast {i : Int} (h : |i| ≤ 2 ^ 53) : HasDigits i := ⟨i, 0, h, by norm_num, by rw [zpow_zero, mul_one]⟩

theorem abs_intCast_lt {i : Int} (h : |i| ≤ 2 ^ 53) : |(i : ℚ)| < beyond := by
  have hcast : |(i : ℚ)| = (i.natAbs : ℚ) := by rw [Nat.cast_natAbs, Int.cast_abs]
  rw [Int.abs_eq_natAbs] at h
  rw [hcast]
  exact natCast_lt_beyond (by exact_mod_cast h)

/-- What is rounded stays within bounds. -/
theorem within_of_rounded {r : ℚ} (hx : IsNumber x) (hvalue : value x = clamped (rounded r)) (hlow : low ≤ r)
    (hhigh : r ≤ high) (hsize : |low| ≤ 2 ^ 53) (hsize' : |high| ≤ 2 ^ 53) : Within x low high := by
  have hge : (low : ℚ) ≤ value x := hvalue ▸ le_clamped_rounded (hasDigits_intCast hsize) (abs_intCast_lt hsize).le hlow
  have hle : value x ≤ high := hvalue ▸ clamped_rounded_le (hasDigits_intCast hsize') (abs_intCast_lt hsize').le hhigh
  refine ⟨isFinite_of_abs_lt hx (abs_lt.mpr ⟨?_, ?_⟩), hge, hle⟩
  · linarith [(abs_lt.mp (abs_intCast_lt hsize)).1]
  · linarith [(abs_lt.mp (abs_intCast_lt hsize')).2]

theorem within_nearest {num den : Nat} (hden : 0 < den) (hlow : low * den ≤ num) (hhigh : (num : Int) ≤ high * den)
    (hsize : |low| ≤ 2 ^ 53) (hsize' : |high| ≤ 2 ^ 53) : Within (nearest false num den) low high := by
  obtain ⟨hnumber, hvalue⟩ := @value_nearest num den hden
  have hpos : (0 : ℚ) < den := Nat.cast_pos.mpr hden
  refine within_of_rounded hnumber hvalue ?_ ?_ hsize hsize'
  · rw [le_div_iff₀ hpos]
    exact_mod_cast hlow
  · rw [div_le_iff₀ hpos]
    exact_mod_cast hhigh

/-- A product of two numbers within bounds is at least the least product of the bounds. -/
theorem le_mul_of_corners {l u l' u' least p q : ℚ} (hp : l ≤ p) (hp' : p ≤ u) (hq : l' ≤ q) (hq' : q ≤ u')
    (h : ∀ a ∈ [l, u], ∀ b ∈ [l', u'], least ≤ a * b) : least ≤ p * q := by
  -- With one factor at a bound the other one goes to the bound that its sign asks for.
  have hcorner : ∀ a ∈ [l, u], least ≤ a * q := by
    intro a ha
    rcases le_total 0 a with hpos | hneg
    · exact (h a ha l' (by simp)).trans (mul_le_mul_of_nonneg_left hq hpos)
    · exact (h a ha u' (by simp)).trans (mul_le_mul_of_nonpos_left hq' hneg)
  rcases le_total 0 q with hpos | hneg
  · exact (hcorner l (by simp)).trans (mul_le_mul_of_nonneg_right hp hpos)
  · exact (hcorner u (by simp)).trans (mul_le_mul_of_nonpos_right hp' hneg)

theorem Within.mul {low' high' least most : Int} (hx : Within x low high) (hy : Within y low' high')
    (hbounds : ∀ a ∈ [low, high], ∀ b ∈ [low', high'], least ≤ a * b ∧ a * b ≤ most) (hsize : |least| ≤ 2 ^ 53)
    (hsize' : |most| ≤ 2 ^ 53) : Within (x * y) least most := by
  obtain ⟨hnumber, hvalue⟩ := value_mul hx.finite hy.finite
  refine within_of_rounded hnumber hvalue ?_ ?_ hsize hsize'
  · refine le_mul_of_corners hx.low_le hx.le_high hy.low_le hy.le_high fun a ha b hb => ?_
    simp only [List.mem_cons, List.not_mem_nil, or_false] at ha hb hbounds
    rcases ha with rfl | rfl <;> rcases hb with rfl | rfl <;> exact_mod_cast (hbounds _ (by simp) _ (by simp)).1
  · have hneg : -(most : ℚ) ≤ -value x * value y := by
      refine le_mul_of_corners (neg_le_neg hx.le_high) (neg_le_neg hx.low_le) hy.low_le hy.le_high fun a ha b hb => ?_
      simp only [List.mem_cons, List.not_mem_nil, or_false] at ha hb hbounds
      rcases ha with rfl | rfl <;> rcases hb with rfl | rfl <;> rw [neg_mul, neg_le_neg_iff] <;>
        exact_mod_cast (hbounds _ (by simp) _ (by simp)).2
    linarith

theorem Within.sub {low' high' : Int} (hx : Within x low high) (hy : Within y low' high') (hsize : |low - high'| ≤ 2 ^ 53)
    (hsize' : |high - low'| ≤ 2 ^ 53) : Within (x - y) (low - high') (high - low') := by
  obtain ⟨hnumber, hvalue⟩ := value_sub hx.finite hy.finite
  refine within_of_rounded hnumber hvalue ?_ ?_ hsize hsize'
  · rw [Int.cast_sub]
    exact sub_le_sub hx.low_le hy.le_high
  · rw [Int.cast_sub]
    exact sub_le_sub hx.le_high hy.low_le

end Within

/-! ## Differences -/

section Sub

variable {x x' y y' : Float}

/-- A difference of a number below infinity and one above negative infinity. -/
theorem value_sub_cases (hx : IsNumber x) (hxlt : value x < beyond) (hy : IsNumber y) (hylt : -beyond < value y) :
    IsNumber (x - y) ∧
      ((IsFinite x ∧ IsFinite y ∧ value (x - y) = clamped (rounded (value x - value y))) ∨
        ((value x = -beyond ∨ value y = beyond) ∧ value (x - y) = -beyond)) := by
  have hunpacked : unpacked (x - y)
      = UnpackedFloat.unpack double (UnpackedFloat.pack double (UnpackedFloat.sub double (unpacked x) (unpacked y))) := rfl
  -- What is infinite here is infinite downwards, whichever of the two it is.
  have hbottom : UnpackedFloat.sub double (unpacked x) (unpacked y) = .infinity .negative →
      IsNumber (x - y) ∧ value (x - y) = -beyond := by
    intro hsub
    have hinfinite := value_of_infinity hunpacked hsub
    rwa [factor, neg_one_mul] at hinfinite
  rcases hx.finite_or_bottom hxlt with hfinite | ⟨hx, hvalue⟩
  · rcases hy.finite_or_top hylt with hfinite' | ⟨hy, hvalue'⟩
    · obtain ⟨hnumber, hvalue⟩ := value_sub hfinite hfinite'
      exact ⟨hnumber, .inl ⟨hfinite, hfinite', hvalue⟩⟩
    · have hsub : UnpackedFloat.sub double (unpacked x) (unpacked y) = .infinity .negative := by
        rw [hy]
        rcases IsReal.cases hfinite with ⟨s, hs⟩ | ⟨s, m, e, hm, hs, -⟩ <;> rw [hs] <;> rfl
      exact ⟨(hbottom hsub).1, .inr ⟨.inr hvalue', (hbottom hsub).2⟩⟩
  · have hsub : UnpackedFloat.sub double (unpacked x) (unpacked y) = .infinity .negative := by
      rw [hx]
      rcases hy.finite_or_top hylt with hfinite' | ⟨hy, -⟩
      · rcases IsReal.cases hfinite' with ⟨s, hs⟩ | ⟨s, m, e, hm, hs, -⟩ <;> rw [hs] <;> rfl
      · rw [hy]
        rfl
    exact ⟨(hbottom hsub).1, .inr ⟨.inl hvalue, (hbottom hsub).2⟩⟩

/-- A difference grows with what is taken from and shrinks with what is taken away. -/
theorem sub_mono (hx : x ≤ x') (hxlt : value x' < beyond) (hy : y' ≤ y) (hylt : -beyond < value y') :
    x - y ≤ x' - y' := by
  obtain ⟨hnumber, hnumber', hle⟩ := le_iff.mp hx
  obtain ⟨hother', hother, hle'⟩ := le_iff.mp hy
  obtain ⟨hsub, hcases⟩ := value_sub_cases hnumber (hle.trans_lt hxlt) hother (hylt.trans_le hle')
  obtain ⟨hsub', hcases'⟩ := value_sub_cases hnumber' hxlt hother' hylt
  refine le_iff.mpr ⟨hsub, hsub', ?_⟩
  rcases hcases with ⟨hfinite, hfinite', hvalue⟩ | ⟨-, hvalue⟩
  · rcases hcases' with ⟨-, -, hvalue'⟩ | ⟨hinfinite, -⟩
    · rw [hvalue, hvalue']
      exact clamped_mono (rounded_mono (sub_le_sub hle hle'))
    · have habs := abs_lt.mp hfinite.abs_lt
      have habs' := abs_lt.mp hfinite'.abs_lt
      rcases hinfinite with hinfinite | hinfinite <;> linarith
  · rw [hvalue]
    exact (abs_le.mp hsub'.abs_le).1

/-- Taking away a number that is not negative gives no more. -/
theorem sub_le_self (hx : IsNumber x) (hxlt : value x < beyond) (hy : IsNumber y) (hnonneg : 0 ≤ value y) :
    IsNumber (x - y) ∧ value (x - y) ≤ value x := by
  obtain ⟨hnumber, hcases⟩ := value_sub_cases hx hxlt hy ((neg_lt_zero.mpr beyond_pos).trans_le hnonneg)
  refine ⟨hnumber, ?_⟩
  rcases hcases with ⟨hfinite, -, hvalue⟩ | ⟨-, hvalue⟩
  · rw [hvalue]
    exact clamped_rounded_le hfinite.hasDigits hfinite.abs_lt.le (by linarith)
  · rw [hvalue]
    exact (abs_le.mp hx.abs_le).1

end Sub

/-! ## Products and quotients -/

section Mul

variable {c x x' : Float}

theorem mul_comm_unpacked (u v : UnpackedFloat) : UnpackedFloat.mul double u v = UnpackedFloat.mul double v u := by
  have hsign : ∀ s t : Sign, s * t = t * s := fun s t => by cases s <;> cases t <;> rfl
  cases u <;> cases v <;> simp [UnpackedFloat.mul, hsign, Nat.mul_comm, Int.add_comm]

/-- The order of factors does not matter. -/
theorem double_mul_comm (x y : Float) : x * y = y * x :=
  congrArg (fun u => Float.ofModel (Float.Model.pack u)) (mul_comm_unpacked (unpacked x) (unpacked y))

theorem unpacked_of_pos (hpos : 0 < value x) (hfinite : IsFinite x) :
    ∃ m e hm, unpacked x = .finite .positive m e hm := by
  obtain ⟨m, e, hm, hunpack, -⟩ := IsReal.exists_positive hfinite hpos
  exact ⟨m, e, hm, hunpack⟩

/-- A product by a positive number: an infinite factor makes it infinite. -/
theorem value_mul_cases (hc : IsNumber c) (hpos : 0 < value c) (hx : IsNumber x) (hdefined : IsFinite c ∨ 0 < value x) :
    IsNumber (c * x) ∧
      ((IsFinite c ∧ IsFinite x ∧ value (c * x) = clamped (rounded (value c * value x))) ∨
        ((value c = beyond ∨ value x = beyond) ∧ value (c * x) = beyond) ∨
        (value x = -beyond ∧ value (c * x) = -beyond)) := by
  have hunpacked : unpacked (c * x)
      = UnpackedFloat.unpack double (UnpackedFloat.pack double (UnpackedFloat.mul double (unpacked c) (unpacked x))) := rfl
  have hone : ∀ s : Sign, Sign.positive * s = s := fun s => by cases s <;> rfl
  rcases hc.finite_or_top ((neg_lt_zero.mpr beyond_pos).trans hpos) with hfinite | ⟨hctop, hcvalue⟩
  · rcases hx.cases with hfinite' | ⟨s, hs, hvalue⟩
    · obtain ⟨hnumber, hvalue⟩ := value_mul hfinite hfinite'
      exact ⟨hnumber, .inl ⟨hfinite, hfinite', hvalue⟩⟩
    · obtain ⟨m, e, hm, hcunpack⟩ := unpacked_of_pos hpos hfinite
      have hmul : UnpackedFloat.mul double (unpacked c) (unpacked x) = .infinity s := by
        rw [hcunpack, hs]
        exact congrArg _ (hone s)
      obtain ⟨hnumber, hproduct⟩ := value_of_infinity hunpacked hmul
      refine ⟨hnumber, .inr ?_⟩
      cases s with
      | positive =>
        rw [factor, one_mul] at hvalue hproduct
        exact .inl ⟨.inr hvalue, hproduct⟩
      | negative =>
        rw [factor, neg_one_mul] at hvalue hproduct
        exact .inr ⟨hvalue, hproduct⟩
  · have hxpos : 0 < value x := by
      refine hdefined.resolve_left fun hfinite => ?_
      rw [IsFinite, hctop] at hfinite
      exact hfinite
    have hmul : UnpackedFloat.mul double (unpacked c) (unpacked x) = .infinity .positive := by
      rcases hx.finite_or_top ((neg_lt_zero.mpr beyond_pos).trans hxpos) with hfinite' | ⟨htop, -⟩
      · obtain ⟨m, e, hm, hunpack⟩ := unpacked_of_pos hxpos hfinite'
        rw [hctop, hunpack]
        rfl
      · rw [hctop, htop]
        rfl
    obtain ⟨hnumber, hproduct⟩ := value_of_infinity hunpacked hmul
    rw [factor, one_mul] at hproduct
    exact ⟨hnumber, .inr (.inl ⟨.inl hcvalue, hproduct⟩)⟩

/-- A product by a positive number grows with the other factor. -/
theorem mul_mono (hc : IsNumber c) (hpos : 0 < value c) (hx : x ≤ x') (hdefined : IsFinite c ∨ 0 < value x) :
    c * x ≤ c * x' := by
  obtain ⟨hnumber, hnumber', hle⟩ := le_iff.mp hx
  obtain ⟨hmul, hcases⟩ := value_mul_cases hc hpos hnumber hdefined
  obtain ⟨hmul', hcases'⟩ := value_mul_cases hc hpos hnumber' (hdefined.imp_right fun h => h.trans_le hle)
  refine le_iff.mpr ⟨hmul, hmul', ?_⟩
  have hbounds := abs_le.mp hmul.abs_le
  have hbounds' := abs_le.mp hmul'.abs_le
  rcases hcases with ⟨-, hfinite, hvalue⟩ | ⟨hinfinite, -⟩ | ⟨-, hvalue⟩
  · rcases hcases' with ⟨-, -, hvalue'⟩ | ⟨-, hvalue'⟩ | ⟨hinfinite, -⟩
    · rw [hvalue, hvalue']
      exact clamped_mono (rounded_mono (mul_le_mul_of_nonneg_left hle hpos.le))
    · rw [hvalue']
      exact hbounds.2
    · have habs := abs_lt.mp hfinite.abs_lt
      linarith
  · -- What is infinite stays so with a greater factor.
    rcases hcases' with ⟨hfinite, hfinite', -⟩ | ⟨-, hvalue'⟩ | ⟨hbottom, -⟩
    · have habs := abs_lt.mp hfinite.abs_lt
      have habs' := abs_lt.mp hfinite'.abs_lt
      rcases hinfinite with hinfinite | hinfinite <;> linarith
    · rw [hvalue']
      exact hbounds.2
    · have hbeyond := beyond_pos
      rcases hinfinite with htop | htop
      · rcases hdefined with hfinite | hxpos
        · have habs := abs_lt.mp hfinite.abs_lt
          linarith
        · linarith
      · linarith
  · rw [hvalue]
    exact hbounds'.1

/-- A quotient by a positive number that is not infinite. -/
theorem value_div_cases (hc : IsFinite c) (hpos : 0 < value c) (hx : IsNumber x) :
    IsNumber (x / c) ∧ ((IsFinite x ∧ value (x / c) = clamped (rounded (value x / value c))) ∨
      (|value x| = beyond ∧ value (x / c) = value x)) := by
  rcases hx.cases with hfinite | ⟨s, hs, hvalue⟩
  · obtain ⟨hnumber, hvalue⟩ := value_div hfinite hc hpos.ne'
    exact ⟨hnumber, .inl ⟨hfinite, hvalue⟩⟩
  · obtain ⟨m, e, hm, hcunpack⟩ := unpacked_of_pos hpos hc
    have hone : s / Sign.positive = s := by cases s <;> rfl
    have hdiv : UnpackedFloat.div double (unpacked x) (unpacked c) = .infinity s := by
      rw [hcunpack, hs]
      exact congrArg _ hone
    have hunpacked : unpacked (x / c)
        = UnpackedFloat.unpack double (UnpackedFloat.pack double (UnpackedFloat.div double (unpacked x) (unpacked c))) := rfl
    obtain ⟨hnumber, hquotient⟩ := value_of_infinity hunpacked hdiv
    refine ⟨hnumber, .inr ⟨?_, hquotient.trans hvalue.symm⟩⟩
    rw [hvalue, abs_mul, abs_factor, one_mul, abs_of_pos beyond_pos]

/-- A quotient by a positive number grows with what is divided. -/
theorem div_mono (hc : IsFinite c) (hpos : 0 < value c) (hx : x ≤ x') : x / c ≤ x' / c := by
  obtain ⟨hnumber, hnumber', hle⟩ := le_iff.mp hx
  obtain ⟨hdiv, hcases⟩ := value_div_cases hc hpos hnumber
  obtain ⟨hdiv', hcases'⟩ := value_div_cases hc hpos hnumber'
  refine le_iff.mpr ⟨hdiv, hdiv', ?_⟩
  have hbounds := abs_le.mp hdiv.abs_le
  have hbounds' := abs_le.mp hdiv'.abs_le
  have hbeyond := beyond_pos
  rcases hcases with ⟨hfinite, hvalue⟩ | ⟨hinfinite, hvalue⟩
  · rcases hcases' with ⟨-, hvalue'⟩ | ⟨hinfinite', hvalue'⟩
    · rw [hvalue, hvalue']
      exact clamped_mono (rounded_mono (div_le_div_of_nonneg_right hle hpos.le))
    · have habs := abs_lt.mp hfinite.abs_lt
      rcases (abs_eq hbeyond.le).mp hinfinite' with htop | hbottom
      · rw [hvalue', htop]
        exact hbounds.2
      · linarith
  · rcases (abs_eq hbeyond.le).mp hinfinite with htop | hbottom
    · have htop' : value x' = beyond := le_antisymm (abs_le.mp hnumber'.abs_le).2 (htop ▸ hle)
      rcases hcases' with ⟨hfinite', -⟩ | ⟨-, hvalue'⟩
      · have habs := abs_lt.mp hfinite'.abs_lt
        linarith
      · rw [hvalue, hvalue']
        exact hle
    · rw [hvalue, hbottom]
      exact hbounds'.1

end Mul

/-! ## Counts -/

section Counts

theorem isNumber_ofNat (n : Nat) : IsNumber (nearest false n 1) := (value_nearest one_pos).1

theorem value_nearest_one (n : Nat) : value (nearest false n 1) = clamped (rounded n) := by
  rw [(value_nearest one_pos).2, Nat.cast_one, div_one]

/-- Counts are in order as doubles. -/
theorem ofNat_mono {n n' : Nat} (h : n ≤ n') : nearest false n 1 ≤ nearest false n' 1 := by
  refine le_iff.mpr ⟨isNumber_ofNat n, isNumber_ofNat n', ?_⟩
  rw [value_nearest_one, value_nearest_one]
  exact clamped_mono (rounded_mono (Nat.cast_le.mpr h))

/-- Counts below `2^53` are doubles. -/
theorem within_ofNat {n : Nat} (h : n ≤ 2 ^ 53) : Within (nearest false n 1) n n := by
  have hsize : |(n : Int)| ≤ 2 ^ 53 := by
    rw [Nat.abs_cast]
    exact_mod_cast h
  exact within_nearest one_pos (by rw [Nat.cast_one, mul_one]) (by rw [Nat.cast_one, mul_one]) hsize hsize

theorem value_ofNat {n : Nat} (h : n ≤ 2 ^ 53) : value (nearest false n 1) = n :=
  le_antisymm (within_ofNat h).le_high (within_ofNat h).low_le

theorem Within.div_ofNat {x : Float} {low high least most : Int} {n : Nat} (hx : Within x low high) (hpos : 0 < n)
    (hn : n ≤ 2 ^ 53) (hlow : least * n ≤ low) (hhigh : high ≤ most * n) (hsize : |least| ≤ 2 ^ 53)
    (hsize' : |most| ≤ 2 ^ 53) : Within (x / nearest false n 1) least most := by
  have hdivisor : (0 : ℚ) < n := Nat.cast_pos.mpr hpos
  obtain ⟨hnumber, hvalue⟩ := value_div hx.finite (within_ofNat hn).finite (by rw [value_ofNat hn]; exact hdivisor.ne')
  rw [value_ofNat hn] at hvalue
  refine within_of_rounded hnumber hvalue ?_ ?_ hsize hsize'
  · rw [le_div_iff₀ hdivisor]
    exact le_trans (by exact_mod_cast hlow) hx.low_le
  · rw [div_le_iff₀ hdivisor]
    exact hx.le_high.trans (by exact_mod_cast hhigh)

theorem zero_le_value_ofNat (n : Nat) : 0 ≤ value (nearest false n 1) := by
  have hzero : HasDigits 0 := by exact_mod_cast hasDigits_natCast (Nat.zero_le _)
  rw [value_nearest_one]
  exact le_clamped_rounded hzero (by rw [abs_zero]; exact beyond_pos.le) (Nat.cast_nonneg n)

theorem isFinite_ofNat {n : Nat} (h : n ≤ 2 ^ 1023) : IsFinite (nearest false n 1) := by
  have hdigits : HasDigits (2 ^ (1023 : ℤ)) := ⟨1, 1023, by norm_num, by norm_num, by rw [Int.cast_one, one_mul]⟩
  have hlt : (2 : ℚ) ^ (1023 : ℤ) < beyond := by
    rw [beyond_eq]
    exact zpow_lt_zpow_right₀ one_lt_two (by norm_num)
  have hle : (n : ℚ) ≤ 2 ^ (1023 : ℤ) := by
    have hcast : (n : ℚ) ≤ (2 ^ 1023 : Nat) := Nat.cast_le.mpr h
    rwa [Nat.cast_pow, Nat.cast_ofNat, ← zpow_natCast] at hcast
  refine isFinite_of_abs_lt (isNumber_ofNat n) ?_
  rw [abs_of_nonneg (zero_le_value_ofNat n), value_nearest_one]
  exact (clamped_rounded_le hdigits (by rw [abs_of_pos (zpow_two_pos _)]; exact hlt.le) hle).trans_lt hlt

end Counts

/-! ## Zero, one and two -/

section Small

theorem zero_eq : (0 : Float) = nearest false 0 1 := by decide

theorem one_eq : (1 : Float) = nearest false 1 1 := by decide

theorem two_eq : (2 : Float) = nearest false 2 1 := by decide

theorem hundred_eq : (100 : Float) = nearest false 100 1 := by decide

theorem isFinite_zero : IsFinite 0 := zero_eq ▸ isFinite_ofNat (Nat.zero_le _)

theorem value_zero : value 0 = 0 := by
  rw [zero_eq, value_ofNat (by norm_num), Nat.cast_zero]

theorem double_one_pos : (0 : Float) < 1 := by decide

variable {x y : Float}

theorem zero_le_iff : 0 ≤ x ↔ IsNumber x ∧ 0 ≤ value x := by
  rw [le_iff, value_zero]
  exact ⟨fun h => h.2, fun h => ⟨isFinite_zero.isNumber, h⟩⟩

theorem zero_lt_iff : 0 < x ↔ IsNumber x ∧ 0 < value x := by
  constructor
  · intro h
    obtain ⟨hzero, hx⟩ := isNumber_of_lt h
    exact ⟨hx, value_zero ▸ (lt_iff hzero hx).mp h⟩
  · rintro ⟨hx, h⟩
    rw [lt_iff isFinite_zero.isNumber hx, value_zero]
    exact h

theorem zero_le_ofNat (n : Nat) : 0 ≤ nearest false n 1 := zero_eq ▸ ofNat_mono (Nat.zero_le n)

theorem one_le_ofNat {n : Nat} (h : 1 ≤ n) : 1 ≤ nearest false n 1 := one_eq ▸ ofNat_mono h

/-- A positive count is 1 at least. -/
theorem one_le_ofNat_of_pos {n : Nat} (h : 0 < nearest false n 1) : 1 ≤ nearest false n 1 := by
  refine one_le_ofNat (Nat.one_le_iff_ne_zero.mpr fun hzero => ?_)
  rw [hzero] at h
  exact absurd h (by decide)

theorem zero_lt_of_le (hpos : 0 < x) (h : x ≤ y) : 0 < y := by
  obtain ⟨-, hnumber, hle⟩ := le_iff.mp h
  exact zero_lt_iff.mpr ⟨hnumber, (zero_lt_iff.mp hpos).2.trans_le hle⟩

/-- Products of positive numbers grow with both factors. -/
theorem mul_mono_both {x' y' : Float} (hxpos : 0 < x) (hx : x ≤ x') (hypos : 0 < y) (hy : y ≤ y') :
    x * y ≤ x' * y' := by
  obtain ⟨hnumber, hxvalue⟩ := zero_lt_iff.mp hxpos
  obtain ⟨-, hyvalue⟩ := zero_lt_iff.mp hypos
  obtain ⟨hnumber', hyvalue'⟩ := zero_lt_iff.mp (zero_lt_of_le hypos hy)
  -- One factor at a time: in between stands the product of the lesser one and the greater one.
  have hleft : x * y ≤ x * y' := mul_mono hnumber hxvalue hy (.inr hyvalue)
  have hright : y' * x ≤ y' * x' := mul_mono hnumber' hyvalue' hx (.inr hxvalue)
  rw [double_mul_comm y' x, double_mul_comm y' x'] at hright
  exact double_le_trans hleft hright

/-- A positive number times zero is zero. -/
theorem mul_zero_of_pos (hpos : 0 < value x) (hfinite : IsFinite x) : x * 0 = 0 := by
  obtain ⟨m, e, hm, hunpack⟩ := unpacked_of_pos hpos hfinite
  have hmul : UnpackedFloat.mul double (unpacked x) (unpacked 0) = .zero .positive := by
    rw [hunpack]
    rfl
  show Float.ofModel (Float.Model.pack (UnpackedFloat.mul double (unpacked x) (unpacked 0))) = 0
  rw [hmul]
  rfl

/-- Nor does infinity times zero give anything positive. -/
theorem not_pos_mul_zero (hpos : 0 < x) : ¬ 0 < x * 0 := by
  obtain ⟨hnumber, hvalue⟩ := zero_lt_iff.mp hpos
  rcases hnumber.finite_or_top (by linarith [beyond_pos]) with hfinite | ⟨htop, -⟩
  · rw [mul_zero_of_pos hvalue hfinite]
    decide
  · intro hproduct
    refine (zero_lt_iff.mp hproduct).1 ?_
    show UnpackedFloat.unpack double (UnpackedFloat.pack double (UnpackedFloat.mul double (unpacked x) (unpacked 0))) = _
    rw [htop]
    rfl

theorem unpacked_of_value_zero (hx : IsNumber x) (h : value x = 0) : ∃ s, unpacked x = .zero s := by
  rw [IsNumber] at hx
  rw [value] at h
  cases hunpack : unpacked x with
  | notANumber => exact absurd hunpack hx
  | infinity s =>
    rw [hunpack, valueOf] at h
    exact absurd h (mul_ne_zero (factor_ne_zero s) beyond_pos.ne')
  | zero s => exact ⟨s, rfl⟩
  | finite s m e hm =>
    rw [hunpack, valueOf] at h
    exact absurd h (mul_ne_zero (factor_ne_zero s) (isCanonical_of_unpack hunpack).1.pos'.ne')

/-- Infinity times what is not negative is infinite, or no number; neither is below anything. -/
theorem not_infinite_mul_lt (hx : unpacked x = .infinity .positive) (hy : 0 ≤ y) (z : Float) : ¬ x * y < z := by
  intro hlt
  obtain ⟨hproduct, hz⟩ := isNumber_of_lt hlt
  obtain ⟨hnumber, hnonneg⟩ := zero_le_iff.mp hy
  have hvalue : value x = beyond := by rw [value, hx, valueOf, factor, one_mul]
  rcases hnonneg.eq_or_lt with hzero | hpos
  · obtain ⟨s, hs⟩ := unpacked_of_value_zero hnumber hzero.symm
    refine hproduct ?_
    show UnpackedFloat.unpack double (UnpackedFloat.pack double (UnpackedFloat.mul double (unpacked x) (unpacked y))) = _
    rw [hx, hs]
    cases s <;> rfl
  · have hinfinite : ¬ IsFinite x := fun hfinite => by
      rw [IsFinite, hx] at hfinite
      exact hfinite
    have hbounds := abs_le.mp hz.abs_le
    rw [lt_iff hproduct hz] at hlt
    rcases (value_mul_cases (isNumber_of_infinity hx) (hvalue ▸ beyond_pos) hnumber (.inr hpos)).2 with
      ⟨hfinite, -⟩ | ⟨-, htop⟩ | ⟨hbottom, -⟩
    · exact hinfinite hfinite
    · linarith
    · linarith [beyond_pos]

end Small

/-- The two ways of telling finite doubles agree. -/
theorem isFinite_ofFloat {x : Float} (h : IsFinite x) : (Binary.ofFloat x).isFinite = true := by
  have hones : @unpackExponent double x.toBits.toBitVec ≠ -1#_ := by
    intro hones
    change IsReal (UnpackedFloat.unpack double x.toBits.toBitVec) at h
    unfold UnpackedFloat.unpack at h
    rw [if_pos hones] at h
    split at h
    · exact h
    · exact h
  refine isFinite_ofBits ?_
  show x.toBits.toNat / 2 ^ 52 % 2 ^ 11 ≠ 2047
  rw [← toNat_unpackExponent]
  exact (toNat_unpackExponent_lt _ hones).ne

end CodeMetrics.Number
