import CodeMetrics.Number.Shortest
import CodeMetrics.Proofs.Number.Arithmetic
import Mathlib

/-!
# Numbers that are read as a double

A positive double `m · 2^q` is the one closest to every number between the midpoints to its neighbours, and to the midpoints
themselves if `m` is even. `Near m q v` says that `v` is such a number, in terms of the interval in which decimals are
looked for. Such a number is rounded to the double (`rounded_of_near`), so the double is found again from it, as a quotient
(`nearest_of_near`) and as a decimal (`ofDecimal_of_near`).
-/

namespace CodeMetrics.Number

open Float.Model (UnpackedFloat)
open Float.Model.UnpackedFloat

/-! ## Rounding -/

/-- A number, in quarters of the last binary place, belongs to an interval. -/
structure Interval.Holds (i : Interval) (w : ℚ) : Prop where
  lower_le : i.lower ≤ w
  le_upper : w ≤ i.upper
  closed_of_end : w = i.lower ∨ w = i.upper → i.closed = true

/-- A number is read as `m · 2^q`. -/
def Near (m : Nat) (q : Int) (v : ℚ) : Prop := (Interval.ofBinary m q).Holds (v / 2 ^ (q - 2))

theorem roundEven_eq {w : ℚ} {n : ℤ} (h : |w - n| ≤ 1 / 2) (heven : |w - n| = 1 / 2 → n % 2 = 0) :
    roundEven w = n := by
  obtain ⟨hlow, hhigh⟩ := abs_le.mp h
  rcases le_or_gt (n : ℚ) w with hle | hlt
  · have hfloor : ⌊w⌋ = n := Int.floor_eq_iff.mpr ⟨hle, by linarith⟩
    rcases hhigh.lt_or_eq with hless | hhalf
    · rw [roundEven_of_lt (by rw [hfloor]; exact hless), hfloor]
    · rw [roundEven_of_eq (by rw [hfloor]; exact hhalf), hfloor,
        if_pos (heven (by rw [hhalf, abs_of_pos (by norm_num)]))]
  · have hfloor : ⌊w⌋ = n - 1 := by
      refine Int.floor_eq_iff.mpr ?_
      push_cast
      constructor <;> linarith
    rcases hlow.lt_or_eq with hmore | hhalf
    · rw [roundEven_of_gt (by rw [hfloor]; push_cast; linarith), hfloor, sub_add_cancel]
    · have hparity := heven (by rw [← hhalf, abs_neg, abs_of_pos (by norm_num)])
      rw [roundEven_of_eq (by rw [hfloor]; push_cast; linarith), hfloor, if_neg (by omega), sub_add_cancel]

/-- The quantum of a number that has 53 binary digits before it, or fewer at the least exponent. -/
theorem quantum_eq {v : ℚ} {q : Int} (hv : 0 < v) (hleast : -1074 ≤ q) (hlt : v / 2 ^ q < 2 ^ 53)
    (hfull : 2 ^ 52 ≤ v / 2 ^ q ∨ q = -1074) : quantum v = q := by
  have hpos := zpow_two_pos q
  have hhigh : v < ((2 : ℕ) : ℚ) ^ (53 + q) := by
    rw [Nat.cast_ofNat, zpow_add₀ two_ne_zero]
    exact (div_lt_iff₀ hpos).mp hlt
  have hlog := (Int.lt_zpow_iff_log_lt one_lt_two hv).mp hhigh
  rw [quantum, abs_of_pos hv]
  rcases hfull with hfull | rfl
  · have hlow : ((2 : ℕ) : ℚ) ^ (52 + q) ≤ v := by
      rw [Nat.cast_ofNat, zpow_add₀ two_ne_zero]
      exact (le_div_iff₀ hpos).mp hfull
    have hlog' := (Int.zpow_le_iff_le_log one_lt_two hv).mp hlow
    omega
  · omega

section Near

variable {m : Nat} {q : Int} {v : ℚ}

theorem cast_lower (hm : 0 < m) : ((Interval.ofBinary m q).lower : ℚ)
    = if m = pow2 52 ∧ Binary.leastExponent < q then 4 * (m : ℚ) - 1 else 4 * m - 2 := by
  unfold Interval.ofBinary
  dsimp only
  split
  · rw [Nat.cast_sub (by omega), Nat.cast_mul, Nat.cast_ofNat, Nat.cast_one]
  · rw [Nat.cast_sub (by omega), Nat.cast_mul, Nat.cast_ofNat, Nat.cast_ofNat]

theorem cast_upper : ((Interval.ofBinary m q).upper : ℚ) = 4 * m + 2 := by
  unfold Interval.ofBinary
  push_cast
  rfl

/-- Quarters of the last place, and halves of it one place further. -/
theorem quarters_eq (v : ℚ) (q : Int) : v / 2 ^ q = v / 2 ^ (q - 2) / 4 ∧ v / 2 ^ (q - 1) = v / 2 ^ (q - 2) / 2 := by
  constructor
  · rw [div_div, show (4 : ℚ) = 2 ^ (2 : ℤ) by norm_num, ← zpow_add₀ two_ne_zero, sub_add_cancel]
  · rw [div_div, ← zpow_add_one₀ two_ne_zero, show q - 2 + 1 = q - 1 by ring]

theorem Near.pos (hm : 0 < m) (h : Near m q v) : 0 < v := by
  have hcast : (1 : ℚ) ≤ m := by exact_mod_cast hm
  have hlow := h.lower_le
  rw [cast_lower hm] at hlow
  have hquarters : 0 < v / 2 ^ (q - 2) := by split_ifs at hlow <;> linarith
  exact (div_pos_iff_of_pos_right (zpow_two_pos _)).mp hquarters

/-- Just below a power of two the places are half as wide: a number near the power is rounded up to it. -/
theorem rounded_below_power (hv : 0 < v) (hleast : -1074 < q) (hlow : 4 * 2 ^ 52 - 1 ≤ v / 2 ^ (q - 2))
    (hless : v / 2 ^ q < 2 ^ 52) : rounded v = 2 ^ 52 * 2 ^ q := by
  obtain ⟨hunits, hhalves⟩ := quarters_eq v q
  rw [hunits] at hless
  generalize v / 2 ^ (q - 2) = w at *
  have hquantum : quantum v = q - 1 := by
    refine quantum_eq hv (by omega) ?_ (.inl ?_)
    · rw [hhalves]
      linarith
    · rw [hhalves]
      linarith
  have hround : roundEven (v / 2 ^ (q - 1)) = 2 ^ 53 := by
    refine roundEven_eq ?_ fun _ => by norm_num
    rw [hhalves, abs_le]
    push_cast
    constructor <;> linarith
  have hcarry : ((2 ^ 53 : ℤ) : ℚ) = 2 ^ 52 * 2 := by norm_num
  rw [rounded, hquantum, hround, hcarry, mul_assoc, ← zpow_one_add₀ two_ne_zero, add_sub_cancel]

/-- **A number between the midpoints is rounded to the double between them.** -/
theorem rounded_of_near (hcanonical : IsCanonical m q) (h : Near m q v) : rounded v = m * 2 ^ q := by
  have hv := h.pos hcanonical.pos
  obtain ⟨hlow, hhigh, hend⟩ := h
  obtain ⟨hunits, -⟩ := quarters_eq v q
  rw [cast_lower hcanonical.pos] at hlow hend
  rw [cast_upper] at hhigh hend
  by_cases hbelow : (m = pow2 52 ∧ Binary.leastExponent < q) ∧ v / 2 ^ q < 2 ^ 52
  · obtain ⟨⟨rfl, hleast⟩, hless⟩ := hbelow
    have hcast : ((pow2 52 : ℕ) : ℚ) = 2 ^ 52 := by
      rw [show pow2 52 = 2 ^ 52 from rfl]
      norm_num
    rw [if_pos ⟨rfl, hleast⟩, hcast] at hlow
    rw [hcast]
    exact rounded_below_power hv hleast hlow hless
  · have hlast : (m : ℚ) + 1 ≤ 2 ^ 53 := by exact_mod_cast hcanonical.lt
    have hsmall : v / 2 ^ q < 2 ^ 53 := by
      rw [hunits]
      linarith
    generalize v / 2 ^ (q - 2) = w at *
    have hlow' : 4 * (m : ℚ) - 2 ≤ w := by split_ifs at hlow <;> linarith
    have hfull : 2 ^ 52 ≤ v / 2 ^ q ∨ q = -1074 := by
      rcases hcanonical.full with hm | hleast
      · rcases hm.lt_or_eq with hmore | heq
        · have hcast : (2 : ℚ) ^ 52 + 1 ≤ m := by exact_mod_cast hmore
          refine .inl ?_
          rw [hunits]
          linarith
        · rcases hcanonical.least.lt_or_eq with hlt | heq'
          · exact .inl (not_lt.mp fun hless => hbelow ⟨⟨heq.symm, hlt⟩, hless⟩)
          · exact .inr heq'.symm
      · exact .inr hleast
    have hround : roundEven (v / 2 ^ q) = m := by
      refine roundEven_eq ?_ fun hhalf => ?_
      · rw [hunits, Int.cast_natCast, abs_le]
        constructor <;> linarith
      · -- Halfway between two doubles stands an end of the interval, which belongs to it only if the mantissa is even.
        rw [hunits, Int.cast_natCast, abs_eq (by norm_num)] at hhalf
        have hends : w = (if m = pow2 52 ∧ Binary.leastExponent < q then 4 * (m : ℚ) - 1 else 4 * m - 2) ∨
            w = 4 * m + 2 := by
          rcases hhalf with hhalf | hhalf
          · exact .inr (by linarith)
          · split_ifs at hlow ⊢ with hnarrow
            · exact absurd hlow (by linarith)
            · exact .inl (by linarith)
        have heven : m % 2 = 0 := of_decide_eq_true (hend hends)
        omega
    rw [rounded, quantum_eq hv hcanonical.least hsmall hfull, hround, Int.cast_natCast]

end Near

/-! ## Doubles from bits -/

section Bits

variable {x : Float} {negative : Bool}

theorem eq_ofBits {bits : Nat} (h : x.toBits.toNat = bits) : x = Float.ofBits bits.toUInt64 := by
  have hbits : bits.toUInt64 = x.toBits := by
    rw [← h]
    exact UInt64.ofNat_toNat
  rw [hbits, Float.ofBits_toBits]

/-- The parts of the bits, put together again. -/
theorem bits_eq (bits : Nat) (h : bits < 2 ^ 64) :
    bits = signBit (bits / pow2 63 % 2 == 1) + bits / pow2 52 % pow2 11 * pow2 52 + bits % pow2 52 := by
  have hpow : pow2 63 = 2 ^ 63 ∧ pow2 52 = 2 ^ 52 ∧ pow2 11 = 2 ^ 11 := ⟨rfl, rfl, rfl⟩
  rw [hpow.1, hpow.2.1, hpow.2.2]
  unfold signBit
  rw [hpow.1]
  split
  · next hsign =>
    have hone := beq_iff_eq.mp hsign
    omega
  · next hsign =>
    have hzero : bits / 2 ^ 63 % 2 ≠ 1 := fun h => hsign (beq_iff_eq.mpr h)
    omega

/-- The parts of a double, and how it is read from them. -/
theorem exists_parts (x : Float) : ∃ (sign : Bool) (exponent fraction : Nat), exponent < 2 ^ 11 ∧ fraction < 2 ^ 52 ∧
    x.toBits.toNat = signBit sign + exponent * pow2 52 + fraction ∧
    Binary.ofFloat x =
      if exponent = 2047 then if fraction = 0 then .infinite sign else .nan
      else if exponent = 0 then .finite sign fraction Binary.leastExponent
      else .finite sign (fraction + pow2 52) ((exponent : Int) - 1075) :=
  ⟨_, _, _, Nat.mod_lt _ (by decide), Nat.mod_lt _ (by decide), bits_eq x.toBits.toNat x.toBits.toNat_lt, rfl⟩

/-- The bits of a double that is not zero, infinite or no number. -/
theorem isCanonical_of_ofFloat {m : Nat} {q : Int} (h : Binary.ofFloat x = .finite negative m q) (hm : 0 < m) :
    q ≤ 971 ∧ ∃ hcanonical : IsCanonical m q,
      x.toBits.toNat = signBit negative + (UnpackedFloat.pack double (.finite .positive m q hcanonical.pos)).toNat := by
  obtain ⟨sign, exponent, fraction, hfield, hfraction, hparts, hread⟩ := exists_parts x
  have hpow : pow2 52 = 2 ^ 52 := rfl
  rw [hread] at h
  split_ifs at h with hones hnone hzero
  · injection h with hs hm' hq
    subst hs hm' hq
    have hcanonical : IsCanonical fraction Binary.leastExponent := ⟨hm, by omega, le_rfl, .inr rfl⟩
    refine ⟨by decide, hcanonical, ?_⟩
    rw [toNat_pack hcanonical, hpow, if_pos hfraction, min_eq_left (by omega), hparts, hzero]
    omega
  · injection h with hs hm' hq
    subst hs hm' hq
    have hcanonical : IsCanonical (fraction + pow2 52) ((exponent : Int) - 1075) :=
      ⟨hm, by omega, by omega, .inl (by omega)⟩
    have hexponent : ((exponent : Int) - 1075 + 1075).toNat = exponent := by omega
    have hsize : exponent * pow2 52 ≤ 2046 * pow2 52 := Nat.mul_le_mul_right _ (by omega)
    refine ⟨by omega, hcanonical, ?_⟩
    rw [toNat_pack hcanonical, hexponent, if_neg (by omega), Nat.add_sub_cancel, min_eq_left (by omega), hparts]
    omega

/-- A zero is its sign. -/
theorem eq_of_ofFloat_zero {q : Int} (h : Binary.ofFloat x = .finite negative 0 q) : x = nearest negative 0 1 := by
  obtain ⟨sign, exponent, fraction, -, -, hparts, hread⟩ := exists_parts x
  have hpow : pow2 52 = 2 ^ 52 := rfl
  rw [hread] at h
  split_ifs at h with hones hnone hzero
  · injection h with hs hm hq
    subst hs hm hzero
    rw [zero_mul] at hparts
    exact eq_ofBits hparts
  · injection h with hs hm hq
    omega

theorem eq_of_ofFloat_infinite (h : Binary.ofFloat x = .infinite negative) :
    x = if negative then -1.0 / 0.0 else 1.0 / 0.0 := by
  obtain ⟨sign, exponent, fraction, -, -, hparts, hread⟩ := exists_parts x
  rw [hread] at h
  split_ifs at h with hones hnone hzero
  injection h with hs
  subst hs hones hnone
  rw [eq_ofBits hparts]
  cases sign <;> rfl

/-- There is only one double that is no number. -/
theorem eq_of_ofFloat_nan (h : Binary.ofFloat x = .nan) : x = 0.0 / 0.0 := by
  have hmodulus : (@unpackMantissa double x.toBits.toBitVec).toNat = x.toBits.toNat % 2 ^ 52 := by
    rw [unpackMantissa, BitVec.toNat_cast, BitVec.extractLsb_toNat]
    rfl
  have hfield := toNat_unpackExponent x.toBits
  unfold Binary.ofFloat Binary.ofBits at h
  dsimp only at h
  split_ifs at h with hones hnone hzero
  have hones' : @unpackExponent double x.toBits.toBitVec = -1#_ := by
    refine BitVec.eq_of_toNat_eq (hfield.trans (Eq.trans hones ?_))
    decide
  have hfraction : @unpackMantissa double x.toBits.toBitVec ≠ 0#_ := by
    intro hzero
    refine hnone (hmodulus.symm.trans ?_)
    rw [hzero]
    rfl
  have hbits := x.toModel.valid.eq_packedNaN hones' hfraction
  have hsame : x.toBits = (0.0 / 0.0 : Float).toBits := UInt64.toBitVec_inj.mp hbits
  rw [← Float.ofBits_toBits x, hsame, Float.ofBits_toBits]

end Bits

/-! ## Doubles from numbers -/

section Digits

variable {c : Nat}

theorem lt_pow_length_toDigits (c : Nat) : c < 10 ^ (Nat.toDigits 10 c).length :=
  (Nat.length_toDigits_le_iff (by decide) Nat.length_toDigits_pos).mp le_rfl

theorem pow_length_toDigits_le (hc : 0 < c) : 10 ^ ((Nat.toDigits 10 c).length - 1) ≤ c := by
  rcases Nat.eq_zero_or_pos ((Nat.toDigits 10 c).length - 1) with hzero | hpos
  · rw [hzero]
    exact hc
  · by_contra hlt
    have hle := (Nat.length_toDigits_le_iff (by decide) hpos).mpr (not_le.mp hlt)
    omega

theorem pow10_pos (n : Nat) : 0 < pow10 n := Nat.pow_pos (by decide)

theorem cast_pow10 {e : Int} (h : 0 ≤ e) : (pow10 e.toNat : ℚ) = 10 ^ e := by
  have hpow : pow10 e.toNat = 10 ^ e.toNat := rfl
  rw [hpow, Nat.cast_pow, Nat.cast_ofNat, ← zpow_natCast, Int.toNat_of_nonneg h]

/-- The size of a decimal, from the number of its digits. -/
theorem decimal_bounds (hc : 0 < c) (e : Int) :
    (10 : ℚ) ^ ((Nat.toDigits 10 c).length + e - 1) ≤ c * 10 ^ e ∧
      (c : ℚ) * 10 ^ e < 10 ^ ((Nat.toDigits 10 c).length + e) := by
  have hten : (10 : ℚ) ≠ 0 := by norm_num
  have hpos : (0 : ℚ) < 10 ^ e := zpow_pos (by norm_num) e
  have hlength : 0 < (Nat.toDigits 10 c).length := Nat.length_toDigits_pos
  constructor
  · have hlow : (10 : ℚ) ^ ((Nat.toDigits 10 c).length - 1) ≤ c := by exact_mod_cast pow_length_toDigits_le hc
    have hexponent : ((Nat.toDigits 10 c).length : Int) + e - 1 = ((Nat.toDigits 10 c).length - 1 : Nat) + e := by omega
    rw [hexponent, zpow_add₀ hten, zpow_natCast]
    exact mul_le_mul_of_nonneg_right hlow hpos.le
  · have hhigh : (c : ℚ) < 10 ^ (Nat.toDigits 10 c).length := by exact_mod_cast lt_pow_length_toDigits c
    rw [zpow_add₀ hten, zpow_natCast]
    exact mul_lt_mul_of_pos_right hhigh hpos

end Digits

section Reading

variable {x : Float} {negative : Bool} {m : Nat} {q : Int} {v : ℚ}

/-- A canonical mantissa and its exponent are known from their value. -/
theorem eq_finite_of_valueOf {u : UnpackedFloat} (hreal : IsReal u) (h : IsCanonical m q)
    (hvalue : valueOf u = m * 2 ^ q) : u = .finite .positive m q h.pos := by
  obtain ⟨m', q', hm', rfl, hcanonical⟩ := hreal.exists_positive (hvalue ▸ h.pos')
  rw [valueOf, factor, one_mul] at hvalue
  rcases lt_trichotomy q' q with hlt | rfl | hgt
  · exact absurd hvalue (hcanonical.lt_of_exponent_lt h hlt).ne
  · have hm : m' = m := by exact_mod_cast mul_right_cancel₀ (zpow_two_pos q').ne' hvalue
    subst hm
    rfl
  · exact absurd hvalue (h.lt_of_exponent_lt hcanonical hgt).ne'

theorem nearestBits_eq {num : Nat} (hnum : num ≠ 0) (negative : Bool) (den : Nat) :
    nearestBits negative num den = signBit negative + nearestBits false num den := by
  unfold nearestBits
  rw [if_neg hnum, if_neg hnum, show signBit false = 0 from rfl, zero_add]

/-- **A double is the one closest to each quotient that is read as it.** -/
theorem nearest_of_near (hx : Binary.ofFloat x = .finite negative m q) (hm : 0 < m) {num den : Nat} (hden : 0 < den)
    (h : Near m q ((num : ℚ) / den)) : nearest negative num den = x := by
  obtain ⟨-, hcanonical, hbits⟩ := isCanonical_of_ofFloat hx hm
  have hnum : num ≠ 0 := by
    rintro rfl
    have hpos := h.pos hm
    rw [Nat.cast_zero, zero_div] at hpos
    exact hpos.false
  obtain ⟨u, hreal, hvalue, hnearest⟩ := @exists_pack_nearestBits num den hden
  rw [rounded_of_near hcanonical h] at hvalue
  rw [eq_finite_of_valueOf hreal hcanonical hvalue] at hnearest
  rw [← hnearest, ← nearestBits_eq hnum] at hbits
  rw [nearest, ← eq_ofBits hbits]

theorem Near.lt (h : Near m q v) (hcanonical : IsCanonical m q) : v < 2 ^ (53 + q) := by
  have hhigh := h.le_upper
  have hlast : (m : ℚ) + 1 ≤ 2 ^ 53 := by exact_mod_cast hcanonical.lt
  rw [cast_upper, div_le_iff₀ (zpow_two_pos _)] at hhigh
  have hsplit : (2 : ℚ) ^ (53 + q) = 2 ^ (55 : ℤ) * 2 ^ (q - 2) := by
    rw [← zpow_add₀ two_ne_zero]
    congr 1
    ring
  rw [hsplit]
  refine hhigh.trans_lt (mul_lt_mul_of_pos_right ?_ (zpow_two_pos _))
  norm_num at hlast ⊢
  linarith

theorem Near.le (h : Near m q v) (hm : 0 < m) : 2 ^ (q - 1) ≤ v := by
  have hcast : (1 : ℚ) ≤ m := by exact_mod_cast hm
  have hlow := h.lower_le
  rw [cast_lower hm] at hlow
  have hquarters : 2 ≤ v / 2 ^ (q - 2) := by split_ifs at hlow <;> linarith
  have hsplit : (2 : ℚ) ^ (q - 1) = 2 * 2 ^ (q - 2) := by
    rw [← zpow_one_add₀ two_ne_zero]
    congr 1
    ring
  rw [hsplit]
  exact (le_div_iff₀ (zpow_two_pos _)).mp hquarters

/-- Thirteen binary digits are less than four decimal ones. -/
theorem pow2_le_pow10 (n : Nat) : pow2 (13 * n) ≤ pow10 (4 * n) :=
  calc 2 ^ (13 * n) = (2 ^ 13) ^ n := Nat.pow_mul ..
    _ ≤ (10 ^ 4) ^ n := Nat.pow_le_pow_left (by decide) n
    _ = 10 ^ (4 * n) := (Nat.pow_mul ..).symm

/-- A decimal near a double has its first digit within 400 places of the point. -/
theorem Near.places (hcanonical : IsCanonical m q) (hq : q ≤ 971) {c : Nat} (hc : 0 < c) {e : Int}
    (h : Near m q (c * 10 ^ e)) :
    -400 ≤ (Nat.toDigits 10 c).length + e ∧ (Nat.toDigits 10 c).length + e ≤ 400 := by
  have hten : (1 : ℚ) < 10 := by norm_num
  have hleast := hcanonical.least
  have hpower : (2 : ℚ) ^ (1300 : ℤ) ≤ 10 ^ (400 : ℤ) := by
    rw [← cast_pow2 (by norm_num), ← cast_pow10 (by norm_num)]
    exact Nat.cast_le.mpr (pow2_le_pow10 100)
  obtain ⟨hlow, hhigh⟩ := decimal_bounds hc e
  constructor
  · by_contra hlt
    have hraised : (10 : ℚ) ^ ((Nat.toDigits 10 c).length + e) ≤ 10 ^ (-400 : ℤ) :=
      zpow_le_zpow_right₀ hten.le (by omega)
    have hmost : (2 : ℚ) ^ (-1300 : ℤ) ≤ 2 ^ (q - 1) := zpow_le_zpow_right₀ one_le_two (by omega)
    have hinverse : (10 : ℚ) ^ (-400 : ℤ) ≤ 2 ^ (-1300 : ℤ) := by
      rw [zpow_neg, zpow_neg]
      exact inv_anti₀ (zpow_two_pos _) hpower
    exact (hmost.trans (h.le hcanonical.pos)).not_gt (hhigh.trans_le (hraised.trans hinverse))
  · by_contra hgt
    have hraised : (10 : ℚ) ^ (400 : ℤ) ≤ 10 ^ ((Nat.toDigits 10 c).length + e - 1) :=
      zpow_le_zpow_right₀ hten.le (by omega)
    have hmost : (2 : ℚ) ^ (53 + q) ≤ 2 ^ (1300 : ℤ) := zpow_le_zpow_right₀ one_le_two (by omega)
    exact ((hpower.trans hraised).trans hlow).not_gt ((h.lt hcanonical).trans_le hmost)

/-- **A double is read from each decimal between the midpoints to its neighbours.** -/
theorem ofDecimal_of_near (hx : Binary.ofFloat x = .finite negative m q) (hm : 0 < m) {c : Nat} {e : Int}
    (h : Near m q (c * 10 ^ e)) : ofDecimal negative c e = x := by
  obtain ⟨hq, hcanonical, -⟩ := isCanonical_of_ofFloat hx hm
  have hc : 0 < c := by
    refine Nat.pos_of_ne_zero ?_
    rintro rfl
    have hpos := h.pos hm
    rw [Nat.cast_zero, zero_mul] at hpos
    exact hpos.false
  obtain ⟨hsmall, hlarge⟩ := h.places hcanonical hq hc
  unfold ofDecimal
  extract_lets places
  rw [if_neg hc.ne', if_neg (by omega), if_neg (by omega)]
  split
  · next he =>
    refine nearest_of_near hx hm one_pos ?_
    rwa [Nat.cast_one, div_one, Nat.cast_mul, cast_pow10 he]
  · next he =>
    refine nearest_of_near hx hm (pow10_pos _) ?_
    rwa [cast_pow10 (by omega), zpow_neg, div_inv_eq_mul]

end Reading

end CodeMetrics.Number
