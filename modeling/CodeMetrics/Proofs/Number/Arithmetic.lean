import CodeMetrics.Proofs.Number.Values

/-!
# Arithmetic of doubles

Differences, products and quotients of doubles are the exact ones, rounded to 53 binary digits. A mantissa that is shifted
to the right keeps two more bits, which say where between two whole numbers it stands; that is all that rounding has to
know of what has been shifted out.

* `Stands.shift` — what the two bits say
* `roundWithAccuracy_spec` — a shifted mantissa is rounded like the number that it stands for
* `value_sub`, `value_mul`, `value_div` — arithmetic
-/

namespace CodeMetrics.Number

open Float.Model (UnpackedFloat totalExponent)
open Float.Model.UnpackedFloat

/-! ## Mantissas with two more bits -/

/-- The number that a mantissa stands for: itself, a half more, or one between it and a half or a half and the next. -/
def Stands : ExtendedMantissa → ℚ → Prop
  | ⟨m, false, false⟩, w => w = m
  | ⟨m, false, true⟩, w => m < w ∧ w < m + 1 / 2
  | ⟨m, true, false⟩, w => w = m + 1 / 2
  | ⟨m, true, true⟩, w => m + 1 / 2 < w ∧ w < m + 1

theorem Stands.bounds {em : ExtendedMantissa} {w : ℚ} (h : Stands em w) : (em.mantissa : ℚ) ≤ w ∧ w < em.mantissa + 1 := by
  obtain ⟨m, r, s⟩ := em
  cases r <;> cases s <;> simp only [Stands] at h ⊢ <;> constructor <;> linarith

theorem Stands.floor_eq {em : ExtendedMantissa} {w : ℚ} (h : Stands em w) : ⌊w⌋ = em.mantissa := by
  rw [Int.floor_eq_iff]
  exact_mod_cast h.bounds

/-- A shift by one digit halves the number. -/
theorem Stands.shiftRightOne {em : ExtendedMantissa} {w : ℚ} (h : Stands em w) : Stands em.shiftRightOne (w / 2) := by
  obtain ⟨m, r, s⟩ := em
  obtain ⟨k, rfl | rfl⟩ := Nat.even_or_odd' m
  · have hhalf : 2 * k / 2 = k := by omega
    have hbit : (2 * k % 2 != 0) = false := by rw [Nat.mul_mod_right]; rfl
    rw [ExtendedMantissa.shiftRightOne, hhalf, hbit]
    cases r <;> cases s <;> simp only [Stands, Bool.or_true, Bool.or_false, Nat.cast_mul, Nat.cast_ofNat] at h ⊢
    · linarith
    all_goals constructor <;> linarith
  · have hhalf : (2 * k + 1) / 2 = k := by omega
    have hbit : ((2 * k + 1) % 2 != 0) = true := by rw [Nat.mul_add_mod]; rfl
    rw [ExtendedMantissa.shiftRightOne, hhalf, hbit]
    cases r <;> cases s <;>
      simp only [Stands, Bool.or_true, Bool.or_false, Nat.cast_add, Nat.cast_mul, Nat.cast_ofNat, Nat.cast_one] at h ⊢
    · linarith
    all_goals constructor <;> linarith

theorem Stands.shift {em : ExtendedMantissa} {w : ℚ} (h : Stands em w) (k : Nat) : Stands (em >>> k) (w / 2 ^ k) := by
  induction k with
  | zero =>
    rw [pow_zero, div_one]
    exact h
  | succ k ih =>
    have hstep := ih.shiftRightOne
    rw [div_div, ← pow_succ] at hstep
    exact hstep

/-- A mantissa is rounded like the number that it stands for. -/
theorem Stands.roundedMantissa {em : ExtendedMantissa} {w : ℚ} (h : Stands em w) :
    (em.roundedMantissa : ℤ) = roundEven w := by
  have hfloor := h.floor_eq
  obtain ⟨m, r, s⟩ := em
  have hrest : (⌊w⌋ : ℚ) = m := by
    rw [hfloor]
    exact Int.cast_natCast m
  cases r <;> cases s
  · rw [roundEven_of_lt (by rw [hrest, show w = m from h]; norm_num), hfloor]
    rfl
  · rw [roundEven_of_lt (by rw [hrest]; linarith [show w < m + 1 / 2 from h.2]), hfloor]
    rfl
  · rw [roundEven_of_eq (by rw [hrest, show w = m + 1 / 2 from h]; ring), hfloor]
    show ((m + m % 2 : Nat) : ℤ) = if (m : ℤ) % 2 = 0 then (m : ℤ) else m + 1
    split <;> omega
  · rw [roundEven_of_gt (by rw [hrest]; linarith [show m + 1 / 2 < w from h.1]), hfloor]
    rfl

/-! ## Rounding -/

theorem targetExponent_eq (m : Nat) (e : Int) :
    double.targetExponent (totalExponent m e) = max ((m.log2 : Int) + e - 52) (-1074) := by
  have hleast : double.minExponent = -1074 := by decide
  have hbits : (double.mantissaBits : Int) = 53 := by decide
  rw [Float.Model.Format.targetExponent, totalExponent, hleast, hbits]
  congr 1
  omega

theorem mantissa_ofMantissaAndAccuracy (m : Nat) (a : Accuracy) :
    (ExtendedMantissa.ofMantissaAndAccuracy m a).mantissa = m := by
  cases a with
  | exact => rfl
  | inexact o => cases o <;> rfl

/-- The logarithm of a number, from its mantissa and exponent. -/
theorem log_eq_of_bounds {m : Nat} {e : Int} {v : ℚ} (hm : m ≠ 0) (hv : 0 < v) (hlow : (m : ℚ) ≤ v / 2 ^ e)
    (hhigh : v / 2 ^ e < m + 1) : Int.log 2 v = m.log2 + e := by
  have hpos := zpow_two_pos e
  rw [le_div_iff₀ hpos] at hlow
  rw [div_lt_iff₀ hpos] at hhigh
  have hle : (2 : ℚ) ^ ((m.log2 : Int) + e) ≤ v := by
    have hself : ((2 : ℚ) ^ (m.log2 : Int)) ≤ m := by exact_mod_cast Nat.log2_self_le hm
    rw [zpow_add₀ two_ne_zero]
    exact (mul_le_mul_of_nonneg_right hself hpos.le).trans hlow
  have hlt : v < (2 : ℚ) ^ ((m.log2 : Int) + e + 1) := by
    have hself : (m : ℚ) + 1 ≤ 2 ^ ((m.log2 : Int) + 1) := by exact_mod_cast (Nat.lt_log2_self : m < 2 ^ (m.log2 + 1))
    rw [add_right_comm, zpow_add₀ two_ne_zero]
    exact hhigh.trans_le (mul_le_mul_of_nonneg_right hself hpos.le)
  have hlow' := (Int.zpow_le_iff_le_log one_lt_two hv).mp (show ((2 : ℕ) : ℚ) ^ _ ≤ v from hle)
  have hhigh' := (Int.lt_zpow_iff_log_lt one_lt_two hv).mp (show v < ((2 : ℕ) : ℚ) ^ _ from hlt)
  omega

section Rounding

variable {m : Nat} {e : Int} {a : Accuracy} {v : ℚ}

/-- A mantissa is shifted to the quantum of the number that it stands for. -/
theorem quantum_of_stands (hv : 0 < v) (h : Stands (.ofMantissaAndAccuracy m a) (v / 2 ^ e))
    (hplace : 52 ≤ m.log2 ∨ e ≤ -1074) : quantum v = double.targetExponent (totalExponent m e) := by
  obtain ⟨hlow, hhigh⟩ := h.bounds
  rw [mantissa_ofMantissaAndAccuracy] at hlow hhigh
  rw [targetExponent_eq, quantum, abs_of_pos hv]
  rcases eq_or_ne m 0 with rfl | hm
  · -- Without a digit the number is below the least quantum.
    rw [Nat.cast_zero, zero_add, div_lt_one (zpow_two_pos e)] at hhigh
    have hlog := (Int.lt_zpow_iff_log_lt one_lt_two hv).mp (show v < ((2 : ℕ) : ℚ) ^ e from hhigh)
    have hzero : Nat.log2 0 = 0 := by decide
    rw [hzero] at hplace ⊢
    omega
  · rw [log_eq_of_bounds hm hv hlow hhigh]

theorem le_roundEven {n : ℤ} {w : ℚ} (h : (n : ℚ) ≤ w) : n ≤ roundEven w := by
  have hfloor := Int.le_floor.mpr h
  rcases roundEven_cases w with ⟨-, hround⟩ | ⟨-, hround⟩ <;> omega

/-- The mantissa at the quantum: it has no more than 53 digits, or is the next power of two, and it has all 53 unless
the quantum is least. -/
theorem roundEven_quantum (hv : 0 < v) : 0 ≤ roundEven (v / 2 ^ quantum v) ∧ roundEven (v / 2 ^ quantum v) ≤ 2 ^ 53 ∧
    (2 ^ 52 ≤ roundEven (v / 2 ^ quantum v) ∨ quantum v = -1074) := by
  have hpos := zpow_two_pos (quantum v)
  have hscaled : |v / 2 ^ quantum v| ≤ (2 ^ 53 : ℕ) := by
    have hlt := abs_lt_quantum v
    rw [abs_div, abs_of_pos hpos, div_le_iff₀ hpos]
    refine hlt.le.trans (le_of_eq ?_)
    rw [zpow_add₀ two_ne_zero, mul_comm]
    norm_num
  refine ⟨le_roundEven (by rw [Int.cast_zero]; exact (div_pos hv hpos).le),
    (le_abs_self _).trans (by exact_mod_cast abs_roundEven_le hscaled), ?_⟩
  rcases eq_or_lt_of_le (show -1074 ≤ quantum v from le_max_right ..) with heq | hlt
  · exact .inr heq.symm
  · have hfull := le_abs_of_quantum hv.ne' hlt
    rw [abs_of_pos hv, add_comm, zpow_add₀ two_ne_zero, ← le_div_iff₀ hpos] at hfull
    exact .inl (le_roundEven (by exact_mod_cast hfull))

/-- A mantissa of at most 53 digits is not shifted again. -/
theorem shiftToTargetExponent_of_lt (hm : m < 2 ^ 53) (he : -1074 ≤ e) :
    shiftToTargetExponent double m e .exact = (⟨m, false, false⟩, e) := by
  have hlog : m.log2 ≤ 52 := by
    rcases eq_or_ne m 0 with rfl | hne
    · decide
    · exact Nat.lt_succ_iff.mp ((Nat.log2_lt hne).mpr hm)
  have hshift : (double.targetExponent (totalExponent m e) - e).toNat = 0 := by
    rw [targetExponent_eq]
    omega
  unfold shiftToTargetExponent shiftToExponent
  dsimp only
  rw [hshift, Nat.cast_zero, add_zero]
  rfl

/-- A carry beyond 53 digits is shifted by one. -/
theorem shiftToTargetExponent_carry (he : -1074 ≤ e) :
    shiftToTargetExponent double (2 ^ 53) e .exact = (⟨2 ^ 52, false, false⟩, e + 1) := by
  have hlog : Nat.log2 (2 ^ 53) = 53 := Nat.log2_two_pow
  have hshift : (double.targetExponent (totalExponent (2 ^ 53) e) - e).toNat = 1 := by
    rw [targetExponent_eq, hlog]
    omega
  unfold shiftToTargetExponent shiftToExponent
  dsimp only
  rw [hshift]
  rfl

/-- **A mantissa is rounded to 53 binary digits of the number that it stands for.** -/
theorem roundWithAccuracy_spec (s : Sign) (hv : 0 < v) (h : Stands (.ofMantissaAndAccuracy m a) (v / 2 ^ e))
    (hplace : 52 ≤ m.log2 ∨ e ≤ -1074) :
    IsReal (roundWithAccuracy double s m e a) ∧ valueOf (roundWithAccuracy double s m e a) = factor s * rounded v := by
  have hquantum := quantum_of_stands hv h hplace
  have hle : e ≤ quantum v := by
    rw [hquantum, targetExponent_eq]
    omega
  obtain ⟨hnonneg, hmost, hfull⟩ := roundEven_quantum hv
  have hleast : -1074 ≤ quantum v := le_max_right ..
  -- The first shift leads to the quantum.
  have hshifted := h.shift (quantum v - e).toNat
  have hexponent : e + ((quantum v - e).toNat : Int) = quantum v := by omega
  rw [div_div, ← zpow_natCast, ← zpow_add₀ two_ne_zero, hexponent] at hshifted
  have hmantissa := hshifted.roundedMantissa
  have hfirst : shiftToTargetExponent double m e a
      = (ExtendedMantissa.ofMantissaAndAccuracy m a >>> (quantum v - e).toNat, quantum v) := by
    unfold shiftToTargetExponent shiftToExponent
    dsimp only
    rw [← hquantum, hexponent]
  have hrounded : rounded v = roundEven (v / 2 ^ quantum v) * 2 ^ quantum v := rfl
  rw [hrounded, ← hmantissa]
  rw [← hmantissa] at hmost hfull
  unfold roundWithAccuracy
  rw [hfirst]
  dsimp only
  generalize (ExtendedMantissa.ofMantissaAndAccuracy m a >>> (quantum v - e).toNat).roundedMantissa = M at *
  have hmost' : M ≤ 2 ^ 53 := by exact_mod_cast hmost
  -- After rounding up there may be a digit too many. The second shift takes it off, and does nothing otherwise.
  rcases hmost'.lt_or_eq with hlt | rfl
  · rw [shiftToTargetExponent_of_lt hlt hleast]
    dsimp only
    split
    · next hzero => exact ⟨trivial, by rw [hzero, valueOf]; simp⟩
    · next hne =>
      refine ⟨⟨Nat.pos_of_ne_zero hne, hlt, hleast, hfull.imp_left fun h52 => by exact_mod_cast h52⟩, ?_⟩
      rw [valueOf, Int.cast_natCast]
  · rw [shiftToTargetExponent_carry hleast]
    dsimp only
    rw [dif_neg (by decide)]
    refine ⟨⟨by decide, by decide, by omega, .inl le_rfl⟩, ?_⟩
    rw [valueOf, zpow_add₀ two_ne_zero]
    push_cast
    ring

end Rounding

/-! ## Exact numbers -/

section Exact

variable {m : Nat} {e : Int}

theorem log2_shiftLeft (hm : m ≠ 0) (k : Nat) : (m * 2 ^ k).log2 = m.log2 + k := by
  have hne : m * 2 ^ k ≠ 0 := Nat.mul_ne_zero hm (Nat.two_pow_pos k).ne'
  rw [Nat.log2_eq_iff hne]
  constructor
  · rw [pow_add]
    exact Nat.mul_le_mul_right _ (Nat.log2_self_le hm)
  · rw [add_right_comm, pow_add]
    exact Nat.mul_lt_mul_of_pos_right Nat.lt_log2_self (Nat.two_pow_pos k)

/-- A mantissa and an exponent, rounded. -/
theorem round_spec (s : Sign) (hm : 0 < m) :
    IsReal (UnpackedFloat.round double s m e) ∧
      valueOf (UnpackedFloat.round double s m e) = factor s * rounded (m * 2 ^ e) := by
  unfold UnpackedFloat.round decreaseExponent
  rw [targetExponent_eq]
  dsimp only
  have hshift : m <<< (e - max ((m.log2 : Int) + e - 52) (-1074)).toNat
      = m * 2 ^ (e - max ((m.log2 : Int) + e - 52) (-1074)).toNat := Nat.shiftLeft_eq _ _
  have hlog := log2_shiftLeft hm.ne' (e - max ((m.log2 : Int) + e - 52) (-1074)).toNat
  rw [hshift]
  generalize hk : (e - max ((m.log2 : Int) + e - 52) (-1074)).toNat = k at *
  have hpos : (0 : ℚ) < m * 2 ^ e := mul_pos (Nat.cast_pos.mpr hm) (zpow_two_pos e)
  refine roundWithAccuracy_spec s hpos ?_ ?_
  · show (m : ℚ) * 2 ^ e / 2 ^ (e - k) = ((m * 2 ^ k : Nat) : ℚ)
    rw [mul_div_assoc, ← zpow_sub₀ two_ne_zero, sub_sub_cancel, zpow_natCast]
    push_cast
    rfl
  · rw [hlog]
    omega

theorem normalize_spec (n : Int) (zeroSign : Sign) :
    IsReal (UnpackedFloat.normalize double n e zeroSign) ∧
      valueOf (UnpackedFloat.normalize double n e zeroSign) = rounded (n * 2 ^ e) := by
  unfold UnpackedFloat.normalize
  rcases lt_trichotomy n 0 with hlt | rfl | hgt
  · rw [compare_lt_iff_lt.mpr hlt]
    obtain ⟨hreal, hvalue⟩ := @round_spec (-n).toNat e .negative (by omega)
    refine ⟨hreal, hvalue.trans ?_⟩
    have hcast : ((-n).toNat : ℚ) = -n := by
      rw [← Int.cast_natCast, Int.toNat_of_nonneg (by omega), Int.cast_neg]
    rw [hcast, neg_mul, rounded_neg, factor, neg_one_mul, neg_neg]
  · rw [compare_eq_iff_eq.mpr rfl]
    refine ⟨trivial, ?_⟩
    rw [Int.cast_zero, zero_mul, rounded_zero]
    rfl
  · rw [compare_gt_iff_gt.mpr hgt]
    obtain ⟨hreal, hvalue⟩ := @round_spec n.toNat e .positive (by omega)
    refine ⟨hreal, hvalue.trans ?_⟩
    have hcast : (n.toNat : ℚ) = n := by rw [← Int.cast_natCast, Int.toNat_of_nonneg hgt.le]
    rw [hcast, factor, one_mul]

end Exact

/-! ## Operations -/

theorem factor_neg (s : Sign) : factor (-s) = -factor s := by
  cases s
  · exact (neg_neg 1).symm
  · rfl

theorem factor_mul (s t : Sign) : factor (s * t) = factor s * factor t := by
  cases s <;> cases t
  · show (1 : ℚ) = -1 * -1
    norm_num
  · exact (mul_one (-1)).symm
  · exact (one_mul (-1)).symm
  · exact (mul_one 1).symm

theorem factor_div (s t : Sign) : factor (s / t) = factor s * factor t := by
  rw [← factor_mul]
  cases s <;> cases t <;> rfl

theorem rounded_factor_mul (s : Sign) (v : ℚ) : rounded (factor s * v) = factor s * rounded v := by
  cases s
  · rw [factor, neg_one_mul, neg_one_mul, rounded_neg]
  · rw [factor, one_mul, one_mul]

theorem cast_apply (s : Sign) (n : Int) : (s.apply n : ℚ) = factor s * n := by
  cases s
  · rw [Sign.apply, Int.cast_neg, factor, neg_one_mul]
  · rw [Sign.apply, factor, one_mul]

section Operations

variable {u v : UnpackedFloat}

theorem IsReal.hasDigits (h : IsReal u) : HasDigits (valueOf u) := by
  rcases h.cases with ⟨s, rfl⟩ | ⟨s, m, e, hm, rfl, hcanonical⟩
  · exact ⟨0, 0, by norm_num, by norm_num, by simp [valueOf]⟩
  · exact hcanonical.hasDigits s

/-- A lesser exponent changes no number. -/
theorem decreaseExponent_exact (m : Nat) {e f : Int} (h : f ≤ e) :
    ((decreaseExponent m e f).1 : ℚ) * 2 ^ f = m * 2 ^ e := by
  have hexponent : ((e - f).toNat : Int) + f = e := by omega
  unfold decreaseExponent
  dsimp only
  rw [Nat.shiftLeft_eq, Nat.cast_mul, Nat.cast_pow, Nat.cast_ofNat, mul_assoc, ← zpow_natCast, ← zpow_add₀ two_ne_zero,
    hexponent]

/-- A difference of numbers is the exact one, rounded. -/
theorem sub_spec (hu : IsReal u) (hv : IsReal v) :
    IsReal (UnpackedFloat.sub double u v) ∧
      valueOf (UnpackedFloat.sub double u v) = rounded (valueOf u - valueOf v) := by
  rcases hu.cases with ⟨s, rfl⟩ | ⟨s, m, e, hm, rfl, hcanonical⟩ <;>
    rcases hv.cases with ⟨t, rfl⟩ | ⟨t, m', e', hm', rfl, hcanonical'⟩
  · have hzero : ∃ r, UnpackedFloat.sub double (.zero s) (.zero t) = .zero r := by
      cases s <;> cases t <;> exact ⟨_, rfl⟩
    obtain ⟨r, hr⟩ := hzero
    rw [hr]
    refine ⟨trivial, ?_⟩
    rw [valueOf, valueOf, valueOf, sub_zero, rounded_zero]
  · refine ⟨hv, ?_⟩
    show factor (-t) * (m' * 2 ^ e') = rounded (0 - factor t * (m' * 2 ^ e'))
    rw [zero_sub, ← neg_mul, ← factor_neg, rounded_of_hasDigits (hcanonical'.hasDigits (-t))]
  · refine ⟨hu, ?_⟩
    show valueOf (.finite s m e hm) = rounded (valueOf (.finite s m e hm) - 0)
    rw [sub_zero, rounded_of_hasDigits hu.hasDigits]
  · -- Brought to the lesser exponent both mantissas are whole, and their difference is exact.
    obtain ⟨hreal, hvalue⟩ := @normalize_spec (min e e')
      (s.apply (decreaseExponent m e (min e e')).1 - t.apply (decreaseExponent m' e' (min e e')).1) .positive
    refine ⟨hreal, hvalue.trans ?_⟩
    rw [Int.cast_sub, cast_apply, cast_apply, Int.cast_natCast, Int.cast_natCast, sub_mul, mul_assoc, mul_assoc,
      decreaseExponent_exact m (min_le_left ..), decreaseExponent_exact m' (min_le_right ..)]
    rfl

/-- A product has enough digits, or its exponent is least. -/
theorem place_mul {m m' : Nat} {e e' : Int} (h : IsCanonical m e) (h' : IsCanonical m' e') :
    52 ≤ (m * m').log2 ∨ e + e' ≤ -1074 := by
  have hne : m * m' ≠ 0 := Nat.mul_ne_zero h.pos.ne' h'.pos.ne'
  rcases h.full with hfull | rfl
  · exact .inl ((Nat.le_log2 hne).mpr (hfull.trans (Nat.le_mul_of_pos_right _ h'.pos)))
  · rcases h'.full with hfull | rfl
    · exact .inl ((Nat.le_log2 hne).mpr (hfull.trans (Nat.le_mul_of_pos_left _ h.pos)))
    · exact .inr (by norm_num)

/-- A product of numbers is the exact one, rounded. -/
theorem mul_spec (hu : IsReal u) (hv : IsReal v) :
    IsReal (UnpackedFloat.mul double u v) ∧
      valueOf (UnpackedFloat.mul double u v) = rounded (valueOf u * valueOf v) := by
  rcases hu.cases with ⟨s, rfl⟩ | ⟨s, m, e, hm, rfl, hcanonical⟩
  · have hzero : ∃ r, UnpackedFloat.mul double (.zero s) v = .zero r := by
      rcases hv.cases with ⟨t, rfl⟩ | ⟨t, m', e', hm', rfl, -⟩ <;> exact ⟨_, rfl⟩
    obtain ⟨r, hr⟩ := hzero
    rw [hr, valueOf, valueOf, zero_mul, rounded_zero]
    exact ⟨trivial, rfl⟩
  rcases hv.cases with ⟨t, rfl⟩ | ⟨t, m', e', hm', rfl, hcanonical'⟩
  · refine ⟨trivial, ?_⟩
    show (0 : ℚ) = rounded (valueOf (.finite s m e hm) * 0)
    rw [mul_zero, rounded_zero]
  · -- The product of the mantissas is exact, so there is a single rounding.
    have hexact : (m : ℚ) * 2 ^ e * (m' * 2 ^ e') = ((m * m' : Nat) : ℚ) * 2 ^ (e + e') := by
      rw [zpow_add₀ two_ne_zero]
      push_cast
      ring
    have hvalue : valueOf (.finite s m e hm) * valueOf (.finite t m' e' hm')
        = factor (s * t) * ((m : ℚ) * 2 ^ e * (m' * 2 ^ e')) := by
      rw [valueOf, valueOf, factor_mul]
      ring
    rw [hvalue, rounded_factor_mul]
    refine roundWithAccuracy_spec (s * t) (mul_pos hcanonical.pos' hcanonical'.pos') ?_ (place_mul hcanonical hcanonical')
    show (m : ℚ) * 2 ^ e * (m' * 2 ^ e') / 2 ^ (e + e') = ((m * m' : Nat) : ℚ)
    rw [hexact, mul_div_cancel_right₀ _ (zpow_two_pos _).ne']

/-- A remainder says where a quotient stands. -/
theorem stands_quotient (n : Nat) {d : Nat} (hd : 0 < d) :
    Stands (.ofMantissaAndAccuracy (n / d) (accuracyOfFraction (n % d) d)) ((n : ℚ) / d) := by
  have hpos : (0 : ℚ) < d := Nat.cast_pos.mpr hd
  have hsplit : (n : ℚ) / d = (n / d : Nat) + (n % d : Nat) / d := by
    rw [eq_comm, ← mul_right_inj' hpos.ne', mul_add, mul_div_cancel₀ _ hpos.ne', mul_div_cancel₀ _ hpos.ne']
    exact_mod_cast Nat.div_add_mod n d
  have hlt : ((n % d : Nat) : ℚ) / d < 1 := (div_lt_one hpos).mpr (Nat.cast_lt.mpr (Nat.mod_lt n hd))
  rw [hsplit]
  unfold accuracyOfFraction
  split
  · next hzero =>
    show ((n / d : Nat) : ℚ) + (n % d : Nat) / d = (n / d : Nat)
    rw [hzero, Nat.cast_zero, zero_div, add_zero]
  · next hne =>
    have hrest : (0 : ℚ) < (n % d : Nat) / d := div_pos (Nat.cast_pos.mpr (Nat.pos_of_ne_zero hne)) hpos
    rcases lt_trichotomy (2 * (n % d)) d with hbelow | hhalf | habove
    · rw [compare_lt_iff_lt.mpr hbelow]
      have hcast : (2 : ℚ) * (n % d : Nat) < d := by exact_mod_cast hbelow
      have hless : ((n % d : Nat) : ℚ) / d < 1 / 2 := by
        rw [div_lt_iff₀ hpos]
        linarith
      exact ⟨by linarith, by linarith⟩
    · rw [compare_eq_iff_eq.mpr hhalf]
      have hcast : (2 : ℚ) * (n % d : Nat) = d := by exact_mod_cast hhalf
      show ((n / d : Nat) : ℚ) + (n % d : Nat) / d = (n / d : Nat) + 1 / 2
      rw [show ((n % d : Nat) : ℚ) / d = 1 / 2 from (div_eq_iff hpos.ne').mpr (by linarith)]
    · rw [compare_gt_iff_gt.mpr habove]
      have hcast : (d : ℚ) < 2 * (n % d : Nat) := by exact_mod_cast habove
      have hmore : 1 / 2 < ((n % d : Nat) : ℚ) / d := by
        rw [lt_div_iff₀ hpos]
        linarith
      exact ⟨by linarith, by linarith⟩

/-- A quotient has enough digits, or its exponent is least. -/
theorem place_div {m m' k : Nat} (hm : 0 < m) (hm' : 0 < m') (hk : (m'.log2 : Int) + 53 ≤ m.log2 + k) :
    52 ≤ (m * 2 ^ k / m').log2 := by
  have hlow : 2 ^ (m.log2 + k) ≤ m * 2 ^ k := by
    rw [pow_add]
    exact Nat.mul_le_mul_right _ (Nat.log2_self_le hm.ne')
  have hquotient : 2 ^ 52 ≤ m * 2 ^ k / m' := by
    rw [Nat.le_div_iff_mul_le hm']
    calc 2 ^ 52 * m' ≤ 2 ^ 52 * 2 ^ (m'.log2 + 1) := Nat.mul_le_mul_left _ Nat.lt_log2_self.le
      _ = 2 ^ (m'.log2 + 53) := by rw [← pow_add]; congr 1; omega
      _ ≤ 2 ^ (m.log2 + k) := Nat.pow_le_pow_right two_pos (by omega)
      _ ≤ m * 2 ^ k := hlow
  exact (Nat.le_log2 (by omega)).mpr hquotient

theorem targetExponent_sub (m m' : Nat) (e e' : Int) :
    double.targetExponent (totalExponent m e - totalExponent m' e')
      = max ((m.log2 : Int) - m'.log2 + (e - e') - 53) (-1074) := by
  have hleast : double.minExponent = -1074 := by decide
  have hbits : (double.mantissaBits : Int) = 53 := by decide
  rw [Float.Model.Format.targetExponent, totalExponent, totalExponent, hleast, hbits]
  congr 1
  omega

/-- The dividend is shifted until the quotient has all digits; the remainder says on which side of a half the rest is. -/
theorem divCore_spec {m m' : Nat} {e e' : Int} (hm : 0 < m) (hm' : 0 < m') :
    let q := divCore double m e m' e'
    Stands (.ofMantissaAndAccuracy q.1 q.2.2) ((m : ℚ) * 2 ^ e / (m' * 2 ^ e') / 2 ^ q.2.1) ∧
      (52 ≤ q.1.log2 ∨ q.2.1 ≤ -1074) := by
  unfold divCore
  dsimp only
  rw [targetExponent_sub, Nat.shiftLeft_eq]
  generalize hexponent : min (e - e') (max ((m.log2 : Int) - m'.log2 + (e - e') - 53) (-1074)) = f
  have hk : ((e - e' - f).toNat : Int) = e - e' - f := Int.toNat_of_nonneg (by omega)
  generalize (e - e' - f).toNat = k at *
  constructor
  · have hexact : (m : ℚ) * 2 ^ e / (m' * 2 ^ e') / 2 ^ f = ((m * 2 ^ k : Nat) : ℚ) / m' := by
      have hshift : e = (k : Int) + (e' + f) := by omega
      rw [hshift, zpow_add₀ two_ne_zero, zpow_add₀ two_ne_zero, zpow_natCast]
      push_cast
      field_simp
    rw [hexact]
    exact stands_quotient _ hm'
  · rcases le_or_gt f (-1074) with hle | hgt
    · exact .inr hle
    · exact .inl (place_div hm hm' (by omega))

/-- A quotient of numbers is the exact one, rounded. -/
theorem div_spec (hu : IsReal u) (hv : IsReal v) (hne : valueOf v ≠ 0) :
    IsReal (UnpackedFloat.div double u v) ∧
      valueOf (UnpackedFloat.div double u v) = rounded (valueOf u / valueOf v) := by
  rcases hv.cases with ⟨t, rfl⟩ | ⟨t, m', e', hm', rfl, hcanonical'⟩
  · exact absurd rfl hne
  rcases hu.cases with ⟨s, rfl⟩ | ⟨s, m, e, hm, rfl, hcanonical⟩
  · refine ⟨trivial, ?_⟩
    show (0 : ℚ) = rounded (0 / valueOf (.finite t m' e' hm'))
    rw [zero_div, rounded_zero]
  · have hvalue : valueOf (.finite s m e hm) / valueOf (.finite t m' e' hm')
        = factor (s / t) * ((m : ℚ) * 2 ^ e / (m' * 2 ^ e')) := by
      have hfactor : factor s / factor t = factor s * factor t := by
        rw [div_eq_iff (factor_ne_zero t), mul_assoc, factor_mul_self, mul_one]
      rw [valueOf, valueOf, factor_div, mul_div_mul_comm, hfactor]
    obtain ⟨hstands, hplace⟩ := @divCore_spec m m' e e' hm hm'
    rw [hvalue, rounded_factor_mul]
    exact roundWithAccuracy_spec (s / t) (div_pos hcanonical.pos' hcanonical'.pos') hstands hplace

end Operations

/-! ## Doubles -/

/-- A double is a number that is not infinite. -/
def IsFinite (x : Float) : Prop := IsReal (unpacked x)

section Float

variable {x y : Float}

theorem value_sub (hx : IsFinite x) (hy : IsFinite y) :
    IsNumber (x - y) ∧ value (x - y) = clamped (rounded (value x - value y)) := by
  obtain ⟨hreal, hvalue⟩ := sub_spec hx hy
  have hpacked := valueOf_unpack_pack hreal
  rwa [hvalue] at hpacked

theorem value_mul (hx : IsFinite x) (hy : IsFinite y) :
    IsNumber (x * y) ∧ value (x * y) = clamped (rounded (value x * value y)) := by
  obtain ⟨hreal, hvalue⟩ := mul_spec hx hy
  have hpacked := valueOf_unpack_pack hreal
  rwa [hvalue] at hpacked

theorem value_div (hx : IsFinite x) (hy : IsFinite y) (hne : value y ≠ 0) :
    IsNumber (x / y) ∧ value (x / y) = clamped (rounded (value x / value y)) := by
  obtain ⟨hreal, hvalue⟩ := div_spec hx hy hne
  have hpacked := valueOf_unpack_pack hreal
  rwa [hvalue] at hpacked

end Float

/-! ## Quotients of counts -/

theorem toNat_packComponents (exponent : BitVec double.exponentBits)
    (mantissa : BitVec double.mantissaBitsWithoutImplicit) :
    (packComponents double .positive exponent mantissa).toNat = exponent.toNat * 2 ^ 52 + mantissa.toNat := by
  have happend : (packComponents double .positive exponent mantissa).toNat
      = ((0#1 ++ exponent : BitVec (1 + double.exponentBits)) ++ mantissa).toNat := rfl
  rw [happend, BitVec.toNat_append, ← Nat.shiftLeft_add_eq_or_of_lt mantissa.isLt, Nat.shiftLeft_eq, BitVec.toNat_append,
    ← Nat.shiftLeft_add_eq_or_of_lt exponent.isLt]
  simp

/-- The bits of a positive double, as a number. -/
theorem toNat_pack {m : Nat} {e : Int} (h : IsCanonical m e) :
    (UnpackedFloat.pack double (.finite .positive m e h.pos)).toNat
      = min (if m < pow2 52 then m else (e + 1075).toNat * pow2 52 + (m - pow2 52)) (2047 * pow2 52) := by
  have hpow : pow2 52 = 2 ^ 52 := rfl
  have hlt := h.lt
  have hleast := h.least
  unfold UnpackedFloat.pack
  dsimp only
  rw [biased_eq, hpow]
  by_cases hlarge : 2 ^ double.exponentBits ≤ (e + 1075).toNat + 1
  · have hexponent : 2 ^ 11 ≤ (e + 1075).toNat + 1 := hlarge
    have hinfinity : (packedInfinity double .positive).toNat = 2047 * 2 ^ 52 := by decide
    have hfull : 2 ^ 52 ≤ m := h.full.resolve_right (by omega)
    have hfield : 2047 ≤ (e + 1075).toNat := by omega
    have hmuch : 2047 * 2 ^ 52 ≤ (e + 1075).toNat * 2 ^ 52 := Nat.mul_le_mul_right _ hfield
    have hmost : 2047 * 2 ^ 52 ≤ (e + 1075).toNat * 2 ^ 52 + (m - 2 ^ 52) := hmuch.trans (Nat.le_add_right _ _)
    rw [if_pos hlarge, hinfinity, if_neg (not_lt.mpr hfull), min_eq_right hmost]
  · have hexponent : ¬ 2 ^ 11 ≤ (e + 1075).toNat + 1 := hlarge
    have hfield : (e + 1075).toNat ≤ 2046 := by omega
    have hless : (e + 1075).toNat * 2 ^ 52 ≤ 2046 * 2 ^ 52 := Nat.mul_le_mul_right _ hfield
    rw [if_neg hlarge]
    by_cases hfull : 2 ^ 52 ≤ m
    · have hlog : m.log2 = 52 := (Nat.log2_eq_iff (by omega)).mpr ⟨hfull, hlt⟩
      have hbits : m.log2 + 1 = double.mantissaBits := by rw [hlog]; rfl
      have hrest : m - 2 ^ 52 ≤ 2 ^ 52 := by omega
      have hmost : (e + 1075).toNat * 2 ^ 52 + (m - 2 ^ 52) ≤ 2047 * 2 ^ 52 :=
        (Nat.add_le_add hless hrest).trans (by norm_num)
      have hexponent' : (e + 1075).toNat % 2 ^ 11 = (e + 1075).toNat := Nat.mod_eq_of_lt (by omega)
      have hmantissa : m % 2 ^ 52 = m - 2 ^ 52 := by omega
      rw [if_pos hbits, toNat_packComponents, BitVec.toNat_ofNat, BitVec.toNat_ofNat, if_neg (not_lt.mpr hfull),
        min_eq_left hmost]
      exact congrArg₂ (fun a b => a * 2 ^ 52 + b) hexponent' hmantissa
    · have hlog := (Nat.log2_lt h.pos.ne').mpr (not_le.mp hfull)
      have hbits : m.log2 + 1 ≠ double.mantissaBits := by
        show m.log2 + 1 ≠ 53
        omega
      have hmost : m ≤ 2047 * 2 ^ 52 := by omega
      rw [if_neg hbits, toNat_packComponents, BitVec.toNat_zero, BitVec.toNat_ofNat, if_pos (not_le.mp hfull),
        min_eq_left hmost, zero_mul, zero_add]
      exact Nat.mod_eq_of_lt (not_le.mp hfull)

section Quotient

variable {num den : Nat}

/-- Quotients are rounded like the numbers that they are. -/
theorem roundHalfEven_eq (hden : 0 < den) : (roundHalfEven num den : ℤ) = roundEven ((num : ℚ) / den) := by
  rw [← (stands_quotient num hden).roundedMantissa]
  unfold roundHalfEven accuracyOfFraction
  dsimp only
  have hlt := Nat.mod_lt num hden
  by_cases hzero : num % den = 0
  · rw [if_pos hzero, if_pos (by omega)]
    rfl
  · rw [if_neg hzero]
    rcases lt_trichotomy (2 * (num % den)) den with hbelow | hhalf | habove
    · rw [if_pos hbelow, compare_lt_iff_lt.mpr hbelow]
      rfl
    · rw [if_neg hhalf.not_lt, if_neg hhalf.not_gt, compare_eq_iff_eq.mpr hhalf]
      show ((if num / den % 2 = 0 then num / den else num / den + 1 : Nat) : ℤ) = (num / den + num / den % 2 : Nat)
      split <;> omega
    · rw [if_neg habove.not_gt, if_pos habove, compare_gt_iff_gt.mpr habove]
      rfl

theorem floorLog2_eq (hnum : 0 < num) (hden : 0 < den) : floorLog2 num den = Int.log 2 ((num : ℚ) / den) := by
  have hpos : (0 : ℚ) < den := Nat.cast_pos.mpr hden
  have hquotient : (0 : ℚ) < num / den := div_pos (Nat.cast_pos.mpr hnum) hpos
  have hlow := @floorLog2_self_le num den hnum
  have hhigh := @lt_floorLog2 num den hden
  rw [mul_comm, ← le_div_iff₀ hpos] at hlow
  rw [mul_comm, ← div_lt_iff₀ hpos] at hhigh
  have hle := (Int.zpow_le_iff_le_log one_lt_two hquotient).mp (show ((2 : ℕ) : ℚ) ^ _ ≤ _ from hlow)
  have hlt := (Int.lt_zpow_iff_log_lt one_lt_two hquotient).mp (show _ < ((2 : ℕ) : ℚ) ^ _ from hhigh)
  omega

/-- The mantissa of a quotient. -/
theorem mantissa_eq (hden : 0 < den) (q : Int) :
    ((if 0 ≤ q then roundHalfEven num (den * pow2 q.toNat) else roundHalfEven (num * pow2 (-q).toNat) den : Nat) : ℤ)
      = roundEven ((num : ℚ) / den / 2 ^ q) := by
  have hpos : (0 : ℚ) < den := Nat.cast_pos.mpr hden
  split
  · next hq =>
    have hscaled : 0 < den * pow2 q.toNat := Nat.mul_pos hden (Nat.pow_pos two_pos)
    rw [roundHalfEven_eq hscaled, Nat.cast_mul, cast_pow2 hq, div_div]
  · next hq =>
    rw [roundHalfEven_eq hden, Nat.cast_mul, cast_pow2 (by omega), zpow_neg, mul_div_assoc, div_div, div_eq_mul_inv,
      div_eq_mul_inv, mul_inv]
    ring_nf

/-- The bits of a mantissa of at most 53 digits, or of the next power of two. -/
theorem exists_pack_mantissa {M : Nat} {q : Int} (hmost : M ≤ 2 ^ 53) (hleast : -1074 ≤ q)
    (hfull : 2 ^ 52 ≤ M ∨ q = -1074) : ∃ u, IsReal u ∧ valueOf u = (M : ℚ) * 2 ^ q ∧
    min (if M < pow2 52 then M else (q + 1075).toNat * pow2 52 + (M - pow2 52)) (2047 * pow2 52)
      = (UnpackedFloat.pack double u).toNat := by
  have hpow : pow2 52 = 2 ^ 52 := rfl
  rcases Nat.eq_zero_or_pos M with rfl | hpos
  · refine ⟨.zero .positive, trivial, ?_, ?_⟩
    · rw [Nat.cast_zero, zero_mul]
      rfl
    · rw [if_pos (show 0 < pow2 52 from Nat.pow_pos two_pos), Nat.zero_min]
      decide
  rcases hmost.lt_or_eq with hlt | rfl
  · have hcanonical : IsCanonical M q := ⟨hpos, hlt, hleast, hfull⟩
    refine ⟨.finite .positive M q hpos, hcanonical, ?_, (toNat_pack hcanonical).symm⟩
    rw [valueOf, factor, one_mul]
  · -- A carry into the next digit goes on to the exponent.
    have hcanonical : IsCanonical (2 ^ 52) (q + 1) := ⟨by decide, by decide, by omega, .inl le_rfl⟩
    refine ⟨.finite .positive (2 ^ 52) (q + 1) hcanonical.pos, hcanonical, ?_, ?_⟩
    · rw [valueOf, factor, one_mul, zpow_add₀ two_ne_zero]
      push_cast
      ring
    · have hcarry : (2 ^ 53 - 2 ^ 52 : Nat) = 2 ^ 52 := by norm_num
      have hexponent : (q + 1 + 1075).toNat = (q + 1075).toNat + 1 := by omega
      rw [toNat_pack hcanonical, hpow, if_neg (by norm_num), if_neg (lt_irrefl _), hcarry, hexponent,
        Nat.add_one_mul (q + 1075).toNat, Nat.sub_self, Nat.add_zero]

/-- The bits of a quotient are those of the quotient, rounded. -/
theorem exists_pack_nearestBits (hden : 0 < den) : ∃ u, IsReal u ∧ valueOf u = rounded ((num : ℚ) / den) ∧
    nearestBits false num den = (UnpackedFloat.pack double u).toNat := by
  rcases Nat.eq_zero_or_pos num with rfl | hnum
  · refine ⟨.zero .positive, trivial, ?_, ?_⟩
    · rw [Nat.cast_zero, zero_div, rounded_zero]
      rfl
    · rw [nearestBits, if_pos rfl]
      decide
  have hv : (0 : ℚ) < num / den := div_pos (Nat.cast_pos.mpr hnum) (Nat.cast_pos.mpr hden)
  have hquantum : max (floorLog2 num den - 52) Binary.leastExponent = quantum ((num : ℚ) / den) := by
    rw [floorLog2_eq hnum hden, quantum, abs_of_pos hv]
    rfl
  have hmantissa := @mantissa_eq num den hden (quantum ((num : ℚ) / den))
  obtain ⟨-, hmost, hfull⟩ := roundEven_quantum hv
  have hleast : -1074 ≤ quantum ((num : ℚ) / den) := le_max_right ..
  have hrounded : rounded ((num : ℚ) / den)
      = roundEven ((num : ℚ) / den / 2 ^ quantum ((num : ℚ) / den)) * 2 ^ quantum ((num : ℚ) / den) := rfl
  rw [hrounded, ← hmantissa, Int.cast_natCast]
  rw [← hmantissa] at hmost hfull
  unfold nearestBits
  rw [if_neg hnum.ne']
  dsimp only
  rw [hquantum, show signBit false = 0 from rfl, zero_add]
  generalize quantum ((num : ℚ) / den) = q at *
  generalize (if 0 ≤ q then _ else _ : Nat) = M at *
  exact exists_pack_mantissa (by exact_mod_cast hmost) hleast (hfull.imp_left fun h52 => by exact_mod_cast h52)

/-- A rounded quotient of counts. -/
theorem value_nearest (hden : 0 < den) : IsNumber (nearest false num den) ∧
    value (nearest false num den) = clamped (rounded ((num : ℚ) / den)) := by
  obtain ⟨u, hreal, hvalue, hbits⟩ := @exists_pack_nearestBits num den hden
  have hvector : (nearestBits false num den).toUInt64.toBitVec = UnpackedFloat.pack double u := by
    refine BitVec.eq_of_toNat_eq ?_
    show (nearestBits false num den) % 2 ^ 64 = _
    rw [hbits]
    exact Nat.mod_eq_of_lt (UnpackedFloat.pack double u).isLt
  have hunpacked : unpacked (nearest false num den) = UnpackedFloat.unpack double (UnpackedFloat.pack double u) := by
    rw [nearest, unpacked_ofBits, hvector]
  rw [IsNumber, value, hunpacked, ← hvalue]
  exact valueOf_unpack_pack hreal

end Quotient

end CodeMetrics.Number
