import CodeMetrics.Proofs.Number.Doubles
import Mathlib

/-!
# Values of doubles

A double that is a number has a rational value; `2^1024`, which is beyond all finite doubles, stands for infinity. The
value is kept by packing unless it is too large (`valueOf_unpack_pack`), and doubles are compared by value (`lt_iff`, `le_iff`).
-/

namespace CodeMetrics.Number

open Float.Model (UnpackedFloat)
open Float.Model.UnpackedFloat

/-! ## Values -/

/-- A sign as a factor. -/
def factor : Sign → ℚ
  | .negative => -1
  | .positive => 1

/-- The number that stands for infinity. -/
@[irreducible] def beyond : ℚ := 2 ^ (1024 : ℤ)

/-- The value of an unpacked double. -/
def valueOf : UnpackedFloat → ℚ
  | .infinity s => factor s * beyond
  | .notANumber => 0
  | .zero _ => 0
  | .finite s m e _ => factor s * (m * 2 ^ e)

/-- A double, unpacked. -/
def unpacked (x : Float) : UnpackedFloat := x.toModel.unpack

/-- The value of a double. -/
def value (x : Float) : ℚ := valueOf (unpacked x)

/-! ## Mantissa and exponent -/

/-- A mantissa has 53 binary digits, or fewer at the least exponent. -/
structure IsCanonical (m : Nat) (e : Int) : Prop where
  pos : 0 < m
  lt : m < 2 ^ 53
  least : -1074 ≤ e
  full : 2 ^ 52 ≤ m ∨ e = -1074

/-- A double, unpacked, has a canonical mantissa and an exponent in range. -/
theorem isCanonical_of_unpack {b : BitVec double.numBits} {s : Sign} {m : Nat} {e : Int} {hm : 0 < m}
    (h : UnpackedFloat.unpack double b = .finite s m e hm) : IsCanonical m e ∧ e ≤ 971 := by
  have hbias : (double.exponentBias : Int) + double.mantissaBitsWithoutImplicit = 1075 := by decide
  have hmantissa := toNat_unpackMantissa_lt b
  unfold UnpackedFloat.unpack at h
  dsimp only at h
  rw [hbias] at h
  split_ifs at h with hones hfraction hzero hnone
  · injection h with _ hm' he'
    rw [hzero, BitVec.toNat_zero] at he'
    exact ⟨⟨hm, by omega, by omega, .inr (by omega)⟩, by omega⟩
  · injection h with _ hm' he'
    have hexponent := toNat_unpackExponent_lt b hones
    have hpos : (unpackExponent b).toNat ≠ 0 := fun h0 => hzero (BitVec.eq_of_toNat_eq h0)
    rw [toNat_implicit] at hm'
    exact ⟨⟨hm, by omega, by omega, .inl (by omega)⟩, by omega⟩

theorem unpackSign_packComponents {spec : Float.Model.Format} (s : Sign) (exponent : BitVec spec.exponentBits)
    (mantissa : BitVec spec.mantissaBitsWithoutImplicit) :
    Sign.ofBitVec (unpackSign (packComponents spec s exponent mantissa)) = s := by
  have hsign : unpackSign (packComponents spec s exponent mantissa) = s.toBitVec := by
    ext i hi
    have hzero : i = 0 := by omega
    subst hzero
    simp [unpackSign, packComponents, BitVec.getLsbD_eq_getElem, BitVec.getLsbD_append, BitVec.getElem_append]
  rw [hsign]
  cases s <;> rfl

theorem unpack_infinity (s : Sign) : UnpackedFloat.unpack double (packedInfinity double s) = .infinity s := by
  cases s <;> rfl

section Pack

variable {s : Sign} {m : Nat} {e : Int}

theorem biased_eq :
    (e + double.exponentBias + double.mantissaBitsWithoutImplicit).toNat = (e + 1075).toNat := by
  have hbias : (double.exponentBias : Int) + double.mantissaBitsWithoutImplicit = 1075 := by decide
  rw [add_assoc, hbias]

/-- The leading digit of a full mantissa is not packed, and is found again. -/
theorem toNat_implicit_ofNat (hfull : 2 ^ 52 ≤ m) (hlt : m < 2 ^ 53) :
    (1#1 ++ BitVec.ofNat 52 m).toNat = m := by
  rw [BitVec.toNat_append, ← Nat.shiftLeft_add_eq_or_of_lt (BitVec.ofNat 52 m).isLt, BitVec.toNat_ofNat]
  show 1 <<< 52 + m % 2 ^ 52 = m
  omega

/-- A full mantissa and its exponent are found again. -/
theorem unpack_pack_full (hm : 0 < m) (hfull : 2 ^ 52 ≤ m) (hlt : m < 2 ^ 53) (hleast : -1074 ≤ e) (he : e ≤ 971) :
    UnpackedFloat.unpack double (UnpackedFloat.pack double (.finite s m e hm)) = .finite s m e hm := by
  have hlog : m.log2 + 1 = double.mantissaBits := by
    have hlog : m.log2 = 52 := (Nat.log2_eq_iff (by omega)).mpr ⟨hfull, hlt⟩
    rw [hlog]
    rfl
  have hfits : ¬ 2 ^ double.exponentBits ≤ (e + 1075).toNat + 1 := by
    show ¬ 2 ^ 11 ≤ (e + 1075).toNat + 1
    omega
  have hfield : (BitVec.ofNat double.exponentBits (e + 1075).toNat).toNat = (e + 1075).toNat := by
    rw [BitVec.toNat_ofNat]
    show (e + 1075).toNat % 2 ^ 11 = (e + 1075).toNat
    omega
  have hones : BitVec.ofNat double.exponentBits (e + 1075).toNat ≠ -1#_ := by
    intro heq
    have hnat := congrArg BitVec.toNat heq
    rw [hfield] at hnat
    have hmax : (-BitVec.ofNat double.exponentBits 1).toNat = 2047 := by decide
    omega
  have hzero : BitVec.ofNat double.exponentBits (e + 1075).toNat ≠ 0#_ := by
    intro heq
    have hnat := congrArg BitVec.toNat heq
    rw [hfield, BitVec.toNat_zero] at hnat
    omega
  have hbias : (double.exponentBias : Int) + double.mantissaBitsWithoutImplicit = 1075 := by decide
  unfold UnpackedFloat.pack
  dsimp only
  rw [biased_eq, if_neg hfits, if_pos hlog]
  unfold UnpackedFloat.unpack
  simp only [unpackExponent_packComponents, unpackMantissa_packComponents, unpackSign_packComponents, hones, hzero,
    if_false, hfield, hbias]
  congr 1
  · exact toNat_implicit_ofNat hfull hlt
  · omega

/-- A mantissa of fewer digits is found again at the least exponent. -/
theorem unpack_pack_short (hm : 0 < m) (hlt : m < 2 ^ 52) :
    UnpackedFloat.unpack double (UnpackedFloat.pack double (.finite s m (-1074) hm)) = .finite s m (-1074) hm := by
  have hlog : m.log2 + 1 ≠ double.mantissaBits := by
    have hlog := (Nat.log2_lt hm.ne').mpr hlt
    show m.log2 + 1 ≠ 53
    omega
  have hmantissa : (BitVec.ofNat double.mantissaBitsWithoutImplicit m).toNat = m := by
    rw [BitVec.toNat_ofNat]
    exact Nat.mod_eq_of_lt hlt
  have hne : BitVec.ofNat double.mantissaBitsWithoutImplicit m ≠ 0#_ := by
    intro heq
    have hnat := congrArg BitVec.toNat heq
    rw [hmantissa, BitVec.toNat_zero] at hnat
    omega
  have hones : BitVec.ofNat double.exponentBits 0 ≠ -1#_ := by decide
  unfold UnpackedFloat.pack
  dsimp only
  rw [biased_eq, if_neg (by decide), if_neg hlog]
  unfold UnpackedFloat.unpack
  simp only [unpackExponent_packComponents, unpackMantissa_packComponents, unpackSign_packComponents, hones, hne,
    if_false, if_true, dite_false, hmantissa]
  rfl

/-- A canonical mantissa and its exponent are found again. -/
theorem unpack_pack (h : IsCanonical m e) (he : e ≤ 971) :
    UnpackedFloat.unpack double (UnpackedFloat.pack double (.finite s m e h.pos)) = .finite s m e h.pos := by
  by_cases hfull : 2 ^ 52 ≤ m
  · exact unpack_pack_full h.pos hfull h.lt h.least he
  · obtain rfl := h.full.resolve_left hfull
    exact unpack_pack_short h.pos (not_le.mp hfull)

/-- A number that is too large becomes infinite. -/
theorem unpack_pack_of_lt (hm : 0 < m) (he : 971 < e) :
    UnpackedFloat.unpack double (UnpackedFloat.pack double (.finite s m e hm)) = .infinity s := by
  have hlarge : 2 ^ double.exponentBits ≤ (e + 1075).toNat + 1 := by
    show 2 ^ 11 ≤ (e + 1075).toNat + 1
    omega
  unfold UnpackedFloat.pack
  dsimp only
  rw [biased_eq, if_pos hlarge, unpack_infinity]

end Pack

/-- Nothing but the kind of no number is lost by packing. -/
theorem unpack_pack_unpack (b : BitVec double.numBits) :
    UnpackedFloat.unpack double (UnpackedFloat.pack double (UnpackedFloat.unpack double b))
      = UnpackedFloat.unpack double b := by
  cases h : UnpackedFloat.unpack double b with
  | notANumber => rfl
  | infinity s => exact unpack_infinity s
  | zero s => cases s <;> rfl
  | finite s m e hm =>
    obtain ⟨hcanonical, he⟩ := isCanonical_of_unpack h
    exact unpack_pack hcanonical he

theorem unpacked_ofBits (b : UInt64) : unpacked (Float.ofBits b) = UnpackedFloat.unpack double b.toBitVec :=
  unpack_pack_unpack b.toBitVec

/-! ## Size -/

theorem factor_mul_self (s : Sign) : factor s * factor s = 1 := by cases s <;> norm_num [factor]

theorem factor_ne_zero (s : Sign) : factor s ≠ 0 := left_ne_zero_of_mul_eq_one (factor_mul_self s)

theorem abs_factor (s : Sign) : |factor s| = 1 := by cases s <;> norm_num [factor]

theorem beyond_eq : beyond = 2 ^ (1024 : ℤ) := by rw [beyond]

theorem beyond_pos : 0 < beyond := by
  rw [beyond_eq]
  exact zpow_two_pos 1024

namespace IsCanonical

variable {m m' : Nat} {e e' : Int}

theorem pos' (h : IsCanonical m e) : (0 : ℚ) < m * 2 ^ e :=
  mul_pos (Nat.cast_pos.mpr h.pos) (zpow_two_pos e)

theorem lt_zpow (h : IsCanonical m e) : (m : ℚ) * 2 ^ e < 2 ^ (53 + e) := by
  have hlt : (m : ℚ) < 2 ^ (53 : ℤ) := by exact_mod_cast h.lt
  rw [zpow_add₀ two_ne_zero]
  exact mul_lt_mul_of_pos_right hlt (zpow_two_pos e)

theorem zpow_le (h : IsCanonical m e) (he : -1074 < e) : (2 : ℚ) ^ (52 + e) ≤ m * 2 ^ e := by
  have hfull : (2 : ℚ) ^ (52 : ℤ) ≤ m := by exact_mod_cast h.full.resolve_right he.ne'
  rw [zpow_add₀ two_ne_zero]
  exact mul_le_mul_of_nonneg_right hfull (zpow_two_pos e).le

/-- A greater exponent makes a greater number. -/
theorem lt_of_exponent_lt (h : IsCanonical m e) (h' : IsCanonical m' e') (he : e < e') :
    (m : ℚ) * 2 ^ e < m' * 2 ^ e' :=
  calc (m : ℚ) * 2 ^ e < 2 ^ (53 + e) := h.lt_zpow
    _ ≤ 2 ^ (52 + e') := zpow_le_zpow_right₀ one_le_two (by omega)
    _ ≤ m' * 2 ^ e' := h'.zpow_le (h.least.trans_lt he)

theorem lt_beyond (h : IsCanonical m e) (he : e ≤ 971) : (m : ℚ) * 2 ^ e < beyond :=
  beyond_eq ▸ h.lt_zpow.trans_le (zpow_le_zpow_right₀ one_le_two (by omega))

theorem beyond_le (h : IsCanonical m e) (he : 971 < e) : beyond ≤ (m : ℚ) * 2 ^ e :=
  beyond_eq ▸ (zpow_le_zpow_right₀ one_le_two (by omega)).trans (h.zpow_le (by omega))

theorem hasDigits (h : IsCanonical m e) (s : Sign) : HasDigits (factor s * (m * 2 ^ e)) := by
  have hlt := h.lt
  cases s with
  | positive => exact ⟨m, e, by rw [Nat.abs_cast]; exact_mod_cast hlt.le, h.least, by simp [factor]⟩
  | negative => exact ⟨-m, e, by rw [abs_neg, Nat.abs_cast]; exact_mod_cast hlt.le, h.least, by simp [factor]⟩

end IsCanonical

/-- A number within what doubles can hold, or the one that stands for infinity. -/
def clamped (r : ℚ) : ℚ := max (-beyond) (min r beyond)

theorem clamped_mono : Monotone clamped := fun _ _ h => max_le_max_left _ (min_le_min_right _ h)

theorem clamped_of_abs_le {r : ℚ} (h : |r| ≤ beyond) : clamped r = r := by
  obtain ⟨hlow, hhigh⟩ := abs_le.mp h
  rw [clamped, min_eq_left hhigh, max_eq_right hlow]

theorem clamped_factor_of_le {r : ℚ} (h : beyond ≤ r) (s : Sign) : clamped (factor s * r) = factor s * beyond := by
  have hpos := beyond_pos
  cases s with
  | positive => rw [factor, one_mul, one_mul, clamped, min_eq_right h, max_eq_right (by linarith)]
  | negative =>
    rw [factor, neg_one_mul, neg_one_mul, clamped, min_eq_left (by linarith), max_eq_left (by linarith)]

/-! ## Numbers -/

/-- An unpacked double that is neither infinite nor no number, with a canonical mantissa. -/
def IsReal : UnpackedFloat → Prop
  | .zero _ => True
  | .finite _ m e _ => IsCanonical m e
  | _ => False

theorem IsReal.cases {u : UnpackedFloat} (h : IsReal u) :
    (∃ s, u = .zero s) ∨ ∃ s m e hm, u = .finite s m e hm ∧ IsCanonical m e := by
  cases u with
  | infinity s => exact h.elim
  | notANumber => exact h.elim
  | zero s => exact .inl ⟨s, rfl⟩
  | finite s m e hm => exact .inr ⟨s, m, e, hm, rfl, h⟩

/-- A double is a number, which may be infinite. -/
def IsNumber (x : Float) : Prop := unpacked x ≠ .notANumber

/-- What a double is. -/
theorem unpacked_cases (x : Float) : unpacked x = .notANumber ∨ (∃ s, unpacked x = .infinity s) ∨
    (IsReal (unpacked x) ∧ |value x| < beyond ∧ HasDigits (value x)) := by
  unfold value
  cases h : unpacked x with
  | notANumber => exact .inl rfl
  | infinity s => exact .inr (.inl ⟨s, rfl⟩)
  | zero s =>
    refine .inr (.inr ⟨trivial, ?_, 0, 0, by norm_num, by norm_num, by simp [valueOf]⟩)
    rw [valueOf, abs_zero]
    exact beyond_pos
  | finite s m e hm =>
    obtain ⟨hcanonical, he⟩ := isCanonical_of_unpack h
    refine .inr (.inr ⟨hcanonical, ?_, hcanonical.hasDigits s⟩)
    rw [valueOf, abs_mul, abs_factor, one_mul, abs_of_pos hcanonical.pos']
    exact hcanonical.lt_beyond he

/-- A packed number has its value, unless that is too large. -/
theorem valueOf_unpack_pack {u : UnpackedFloat} (h : IsReal u) :
    UnpackedFloat.unpack double (UnpackedFloat.pack double u) ≠ .notANumber ∧
      valueOf (UnpackedFloat.unpack double (UnpackedFloat.pack double u)) = clamped (valueOf u) := by
  rcases h.cases with ⟨s, rfl⟩ | ⟨s, m, e, hm, rfl, hcanonical⟩
  · have hzero : UnpackedFloat.unpack double (UnpackedFloat.pack double (.zero s)) = .zero s := by cases s <;> rfl
    rw [hzero, valueOf, clamped_of_abs_le (by rw [abs_zero]; exact beyond_pos.le)]
    exact ⟨nofun, rfl⟩
  · rcases le_or_gt e 971 with he | he
    · rw [unpack_pack hcanonical he, valueOf, clamped_of_abs_le]
      · exact ⟨nofun, rfl⟩
      · rw [abs_mul, abs_factor, one_mul, abs_of_pos hcanonical.pos']
        exact (hcanonical.lt_beyond he).le
    · rw [unpack_pack_of_lt hm he, valueOf, valueOf, clamped_factor_of_le (hcanonical.beyond_le he)]
      exact ⟨nofun, rfl⟩

/-! ## Order -/

/-- Exponents are compared first, then mantissas. -/
theorem compares_then {m m' : Nat} {e e' : Int} (h : IsCanonical m e) (h' : IsCanonical m' e') :
    ((compare e e').then (compare m m')).Compares ((m : ℚ) * 2 ^ e) (m' * 2 ^ e') := by
  rcases lt_trichotomy e e' with hlt | rfl | hgt
  · rw [compare_lt_iff_lt.mpr hlt]
    exact h.lt_of_exponent_lt h' hlt
  · have hpos := zpow_two_pos e
    rw [compare_eq_iff_eq.mpr rfl]
    rcases lt_trichotomy m m' with hlt | rfl | hgt
    · rw [compare_lt_iff_lt.mpr hlt]
      exact mul_lt_mul_of_pos_right (Nat.cast_lt.mpr hlt) hpos
    · rw [compare_eq_iff_eq.mpr rfl]
      exact rfl
    · rw [compare_gt_iff_gt.mpr hgt]
      exact mul_lt_mul_of_pos_right (Nat.cast_lt.mpr hgt) hpos
  · rw [compare_gt_iff_gt.mpr hgt]
    exact h'.lt_of_exponent_lt h hgt

/-- What is compared with an infinity. -/
theorem compares_infinity {u : UnpackedFloat} (h : IsReal u) (hsize : |valueOf u| < beyond) (s : Sign) :
    (∃ o, UnpackedFloat.compare u (.infinity s) = some o ∧ o.Compares (valueOf u) (valueOf (.infinity s))) ∧
      ∃ o, UnpackedFloat.compare (.infinity s) u = some o ∧ o.Compares (valueOf (.infinity s)) (valueOf u) := by
  obtain ⟨hlow, hhigh⟩ := abs_lt.mp hsize
  have hpositive : valueOf u < valueOf (.infinity .positive) := by rwa [valueOf, factor, one_mul]
  have hnegative : valueOf (.infinity .negative) < valueOf u := by rwa [valueOf, factor, neg_one_mul]
  cases u with
  | infinity s => exact h.elim
  | notANumber => exact h.elim
  | zero | finite =>
    cases s with
    | positive => exact ⟨⟨.lt, rfl, hpositive⟩, .gt, rfl, hpositive⟩
    | negative => exact ⟨⟨.gt, rfl, hnegative⟩, .lt, rfl, hnegative⟩

section Finite

variable {m m' : Nat} {e e' : Int} {hm : 0 < m} {hm' : 0 < m'}

theorem valueOf_positive (h : IsCanonical m e) : 0 < valueOf (.finite .positive m e hm) := by
  rw [valueOf, factor, one_mul]
  exact h.pos'

theorem valueOf_negative (h : IsCanonical m e) : valueOf (.finite .negative m e hm) < 0 := by
  rw [valueOf, factor, neg_one_mul, neg_lt_zero]
  exact h.pos'

theorem IsReal.exists_positive {u : UnpackedFloat} (h : IsReal u) (hpos : 0 < valueOf u) :
    ∃ m e hm, u = .finite .positive m e hm ∧ IsCanonical m e := by
  rcases h.cases with ⟨s, rfl⟩ | ⟨s, m, e, hm, rfl, hcanonical⟩
  · exact absurd hpos (lt_irrefl 0)
  · cases s with
    | positive => exact ⟨m, e, hm, rfl, hcanonical⟩
    | negative => exact absurd hpos (valueOf_negative hcanonical).not_gt

/-- Numbers other than zero are compared by their signs, then by exponents and mantissas. -/
theorem compares_finite (s t : Sign) (h : IsCanonical m e) (h' : IsCanonical m' e') :
    ∃ o, UnpackedFloat.compare (.finite s m e hm) (.finite t m' e' hm') = some o ∧
      o.Compares (valueOf (.finite s m e hm)) (valueOf (.finite t m' e' hm')) := by
  have hthen := compares_then h h'
  cases s with
  | positive =>
    cases t with
    | positive =>
      refine ⟨_, rfl, ?_⟩
      rwa [valueOf, valueOf, factor, one_mul, one_mul]
    | negative => exact ⟨.gt, rfl, (valueOf_negative h').trans (valueOf_positive h)⟩
  | negative =>
    cases t with
    | positive => exact ⟨.lt, rfl, (valueOf_negative h).trans (valueOf_positive h')⟩
    | negative =>
      refine ⟨_, rfl, ?_⟩
      rw [valueOf, valueOf, factor, neg_one_mul, neg_one_mul]
      -- Two negative numbers are compared the other way round.
      generalize (compare e e').then (compare m m') = o at hthen
      cases o with
      | lt => exact neg_lt_neg hthen
      | eq => exact congrArg Neg.neg hthen
      | gt => exact neg_lt_neg hthen

end Finite

/-- Numbers are compared by value. -/
theorem compares_of_isReal {u v : UnpackedFloat} (hu : IsReal u) (hv : IsReal v) :
    ∃ o, UnpackedFloat.compare u v = some o ∧ o.Compares (valueOf u) (valueOf v) := by
  rcases hu.cases with ⟨s, rfl⟩ | ⟨s, m, e, hm, rfl, hu⟩ <;> rcases hv.cases with ⟨t, rfl⟩ | ⟨t, m', e', hm', rfl, hv⟩
  · exact ⟨.eq, rfl, rfl⟩
  · cases t with
    | positive => exact ⟨.lt, rfl, valueOf_positive hv⟩
    | negative => exact ⟨.gt, rfl, valueOf_negative hv⟩
  · cases s with
    | positive => exact ⟨.gt, rfl, valueOf_positive hu⟩
    | negative => exact ⟨.lt, rfl, valueOf_negative hu⟩
  · exact compares_finite s t hu hv

section Float

variable {x y : Float}

theorem compares_of_isNumber (hx : IsNumber x) (hy : IsNumber y) :
    ∃ o, UnpackedFloat.compare (unpacked x) (unpacked y) = some o ∧ o.Compares (value x) (value y) := by
  rcases unpacked_cases x with hnot | ⟨s, hs⟩ | ⟨hreal, hsize, -⟩
  · exact absurd hnot hx
  · rcases unpacked_cases y with hnot | ⟨t, ht⟩ | ⟨hreal', hsize', -⟩
    · exact absurd hnot hy
    · have hpos := beyond_pos
      rw [value, value, hs, ht]
      cases s <;> cases t
      · exact ⟨.eq, rfl, rfl⟩
      · exact ⟨.lt, rfl, by norm_num [Ordering.Compares, valueOf, factor]; linarith⟩
      · exact ⟨.gt, rfl, by norm_num [Ordering.Compares, valueOf, factor]; linarith⟩
      · exact ⟨.eq, rfl, rfl⟩
    · rw [value, hs]
      exact (compares_infinity hreal' hsize' s).2
  · rcases unpacked_cases y with hnot | ⟨t, ht⟩ | ⟨hreal', -, -⟩
    · exact absurd hnot hy
    · rw [value, value, ht]
      exact (compares_infinity hreal hsize t).1
    · exact compares_of_isReal hreal hreal'

theorem lt_iff (hx : IsNumber x) (hy : IsNumber y) : x < y ↔ value x < value y := by
  obtain ⟨o, ho, hcompares⟩ := compares_of_isNumber hx hy
  have hlt : x < y ↔ (UnpackedFloat.compare (unpacked x) (unpacked y) == some .lt) = true := decide_eq_true_iff
  rw [hlt, ho, beq_iff_eq, Option.some.injEq, hcompares.eq_lt]

theorem isNumber_of_compare {o : Ordering} (h : UnpackedFloat.compare (unpacked x) (unpacked y) = some o) :
    IsNumber x ∧ IsNumber y := by
  constructor
  · intro hnot
    rw [hnot] at h
    cases h
  · intro hnot
    rw [hnot] at h
    cases hx : unpacked x <;> rw [hx] at h <;> cases h

theorem isNumber_of_lt (h : x < y) : IsNumber x ∧ IsNumber y := by
  have hlt : x < y ↔ (UnpackedFloat.compare (unpacked x) (unpacked y) == some .lt) = true := decide_eq_true_iff
  exact isNumber_of_compare (beq_iff_eq.mp (hlt.mp h))

theorem le_iff : x ≤ y ↔ IsNumber x ∧ IsNumber y ∧ value x ≤ value y := by
  have hle : x ≤ y ↔ (UnpackedFloat.compare (unpacked x) (unpacked y)).any (·.isLE) = true := decide_eq_true_iff
  rw [hle]
  constructor
  · intro h
    cases hcompare : UnpackedFloat.compare (unpacked x) (unpacked y) with
    | none =>
      rw [hcompare] at h
      cases h
    | some o =>
      obtain ⟨hx, hy⟩ := isNumber_of_compare hcompare
      obtain ⟨o', ho', hcompares⟩ := compares_of_isNumber hx hy
      rw [ho', Option.any_some] at h
      refine ⟨hx, hy, ?_⟩
      cases o' with
      | lt => exact hcompares.le
      | eq => exact le_of_eq hcompares
      | gt => cases h
  · rintro ⟨hx, hy, h⟩
    obtain ⟨o, ho, hcompares⟩ := compares_of_isNumber hx hy
    rw [ho, Option.any_some]
    cases o with
    | lt => rfl
    | eq => rfl
    | gt => exact absurd h (not_le.mpr hcompares)

end Float

end CodeMetrics.Number
