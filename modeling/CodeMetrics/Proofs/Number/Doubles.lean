import CodeMetrics.Number.Num
import CodeMetrics.Proofs.Number.Rounding
import Mathlib

/-!
# Rounded quotients

A double that is made from bits has these bits, unless they are those of no number. So what is known of the bits of a
rounded quotient is known of the double: it is finite unless the quotient is very large, and a whole number with at most
53 binary digits is not changed by rounding.

* `toBits_ofBits` — bits of a finite double are kept
* `ofFloat_nearest`, `ofBits_parts` — rounded quotients, taken apart
* `isFinite_nearest` — quotients that do not become infinite
* `exact_nearest` — whole numbers that are doubles
-/

namespace CodeMetrics.Number

open Float.Model (UnpackedFloat)
open Float.Model.UnpackedFloat

/-- The format of doubles. -/
abbrev double : Float.Model.Format := .binary64

/-! ## Sign, exponent and mantissa -/

section Components

variable (b : BitVec double.numBits)

/-- Bits are put together again from their three parts. -/
theorem packComponents_parts :
    packComponents double (Sign.ofBitVec (unpackSign b)) (unpackExponent b) (unpackMantissa b) = b := by
  have hsign : (Sign.ofBitVec (unpackSign b)).toBitVec = unpackSign b := by
    generalize unpackSign b = s
    revert s
    decide
  rw [packComponents, hsign]
  refine BitVec.eq_of_getLsbD_eq fun i hi => ?_
  simp only [unpackSign, unpackExponent, unpackMantissa, BitVec.getLsbD_append, BitVec.getLsbD_cast,
    BitVec.getLsbD_extractLsb]
  by_cases hmantissa : i < 52
  · simp [hmantissa]
  · by_cases hexponent : i < 63
    · have hshift : 52 + (i - 52) = i := by omega
      have hwidth : i - 52 < 11 := by omega
      simp [hmantissa, hshift, hwidth]
    · have hlast : i = 63 := by
        have hbits : i < 64 := hi
        omega
      subst hlast
      simp
      rfl

theorem toNat_unpackExponent_lt (h : unpackExponent b ≠ -1#_) : (unpackExponent b).toNat < 2047 := by
  have hne : (unpackExponent b).toNat ≠ 2047 := fun heq => h (BitVec.eq_of_toNat_eq (by rw [heq]; decide))
  have hlt : (unpackExponent b).toNat < 2 ^ 11 := (unpackExponent b).isLt
  omega

theorem toNat_unpackMantissa_lt : (unpackMantissa b).toNat < 2 ^ 52 := (unpackMantissa b).isLt

/-- The leading bit of a normal number is not among the bits. -/
theorem toNat_implicit : (1#1 ++ unpackMantissa b).toNat = 2 ^ 52 + (unpackMantissa b).toNat := by
  rw [BitVec.toNat_append, ← Nat.shiftLeft_add_eq_or_of_lt (unpackMantissa b).isLt]
  rfl

theorem log2_implicit : (1#1 ++ unpackMantissa b).toNat.log2 + 1 = double.mantissaBits := by
  have hlt := toNat_unpackMantissa_lt b
  have hlog : (2 ^ 52 + (unpackMantissa b).toNat).log2 = 52 := by
    rw [Nat.log2_eq_iff (by omega)]
    omega
  rw [toNat_implicit, hlog]
  rfl

theorem ofNat_implicit : BitVec.ofNat 52 (1#1 ++ unpackMantissa b).toNat = unpackMantissa b := by
  refine BitVec.eq_of_toNat_eq ?_
  have hlt := toNat_unpackMantissa_lt b
  rw [toNat_implicit, BitVec.toNat_ofNat]
  omega

/-- The bits of a finite double are found again from its sign, mantissa and exponent. -/
theorem pack_unpack (h : unpackExponent b ≠ -1#_) : UnpackedFloat.pack double (UnpackedFloat.unpack double b) = b := by
  have hparts := packComponents_parts b
  have hexponent := toNat_unpackExponent_lt b h
  unfold UnpackedFloat.unpack
  rw [if_neg h]
  split
  · -- Exponent field zero: the number is zero or subnormal, and there is no leading bit.
    next hzero =>
    rw [hzero] at hparts
    split
    · next hmantissa =>
      rw [hmantissa] at hparts
      exact hparts
    · next hmantissa =>
      have hlt := toNat_unpackMantissa_lt b
      have hpos : (unpackMantissa b).toNat ≠ 0 := fun h0 => hmantissa (BitVec.eq_of_toNat_eq h0)
      have hsubnormal : (unpackMantissa b).toNat.log2 + 1 ≠ double.mantissaBits := by
        have hlog := (Nat.log2_lt hpos).mpr hlt
        show (unpackMantissa b).toNat.log2 + 1 ≠ 53
        omega
      have hbiased : (((unpackExponent b).toNat : Int) - (double.exponentBias + double.mantissaBitsWithoutImplicit) + 1
          + double.exponentBias + double.mantissaBitsWithoutImplicit).toNat = 1 := by
        rw [hzero, BitVec.toNat_zero]
        omega
      unfold UnpackedFloat.pack
      dsimp only
      rw [hbiased, if_neg (by decide), if_neg hsubnormal, BitVec.ofNat_toNat, BitVec.setWidth_eq]
      exact hparts
  · next hnormal =>
    have hbiased : (((unpackExponent b).toNat : Int) - (double.exponentBias + double.mantissaBitsWithoutImplicit)
        + double.exponentBias + double.mantissaBitsWithoutImplicit).toNat = (unpackExponent b).toNat := by omega
    have hfits : ¬ 2 ^ double.exponentBits ≤ (unpackExponent b).toNat + 1 := by
      show ¬ 2 ^ 11 ≤ (unpackExponent b).toNat + 1
      omega
    unfold UnpackedFloat.pack
    dsimp only
    rw [hbiased, if_neg hfits, if_pos (log2_implicit b), ofNat_implicit, BitVec.ofNat_toNat, BitVec.setWidth_eq]
    exact hparts

end Components

/-! ## Doubles -/

theorem toNat_unpackExponent (b : UInt64) : (@unpackExponent double b.toBitVec).toNat = b.toNat / 2 ^ 52 % 2 ^ 11 := by
  rw [unpackExponent, BitVec.toNat_cast, BitVec.extractLsb_toNat, Nat.shiftRight_eq_div_pow]
  rfl

/-- The exponent field of a finite double is not all ones. -/
theorem unpackExponent_ne {b : UInt64} (h : b.toNat / 2 ^ 52 % 2 ^ 11 ≠ 2047) :
    @unpackExponent double b.toBitVec ≠ -1#_ := by
  intro heq
  have hones : (@unpackExponent double b.toBitVec).toNat = 2047 := by
    rw [heq]
    decide
  exact h ((toNat_unpackExponent b).symm.trans hones)

/-- Bits of a finite double are kept. -/
theorem toBits_ofBits {b : UInt64} (h : b.toNat / 2 ^ 52 % 2 ^ 11 ≠ 2047) : (Float.ofBits b).toBits = b :=
  congrArg UInt64.ofBitVec (pack_unpack b.toBitVec (unpackExponent_ne h))

/-- The bits of a rounded quotient are a sign and a size, which is at most that of infinity. -/
theorem exists_nearestBits (negative : Bool) (num den : Nat) :
    ∃ size ≤ 2047 * pow2 52, nearestBits negative num den = signBit negative + size := by
  unfold nearestBits
  split
  · exact ⟨0, Nat.zero_le _, rfl⟩
  · exact ⟨_, min_le_right _ _, rfl⟩

/-- A double that is rounded from a quotient, taken apart. -/
theorem ofFloat_nearest (negative : Bool) (num den : Nat) :
    Binary.ofFloat (nearest negative num den) = Binary.ofBits (nearestBits negative num den) := by
  obtain ⟨size, hsize, hbits⟩ := exists_nearestBits negative num den
  have hpow : pow2 52 = 2 ^ 52 ∧ pow2 63 = 2 ^ 63 := ⟨rfl, rfl⟩
  have hsign : signBit negative = 0 ∨ signBit negative = 2 ^ 63 := by cases negative <;> simp [signBit, hpow.2]
  have hnat : (nearestBits negative num den).toUInt64.toNat = nearestBits negative num den :=
    Nat.mod_eq_of_lt (by rw [hpow.1] at hsize; omega)
  have hkept : (Float.ofBits (nearestBits negative num den).toUInt64).toBits = (nearestBits negative num den).toUInt64 := by
    rcases hsize.lt_or_eq with hlt | rfl
    · refine toBits_ofBits ?_
      rw [hnat, hbits]
      rw [hpow.1] at hlt
      omega
    · rw [hbits]
      cases negative <;> rfl
  rw [Binary.ofFloat, nearest, hkept, hnat]

theorem isFinite_ofBits {bits : Nat} (h : bits / pow2 52 % pow2 11 ≠ 2047) : (Binary.ofBits bits).isFinite = true := by
  unfold Binary.ofBits
  simp only [h, if_false]
  split <;> rfl

/-! ## Size -/

theorem cast_pow2 {e : Int} (h : 0 ≤ e) : (pow2 e.toNat : ℚ) = 2 ^ e := by
  have hpow : pow2 e.toNat = 2 ^ e.toNat := rfl
  rw [hpow, Nat.cast_pow, Nat.cast_ofNat, ← zpow_natCast, Int.toNat_of_nonneg h]

section Quotient

variable {num den : Nat}

/-- The difference of the logarithms is the logarithm of the quotient, or one too many if the quotient does not reach the
power of two. -/
theorem floorLog2_cases (num den : Nat) :
    (floorLog2 num den = (num.log2 : Int) - den.log2 ∧ (den : ℚ) * 2 ^ ((num.log2 : Int) - den.log2) ≤ num) ∨
    (floorLog2 num den = (num.log2 : Int) - den.log2 - 1 ∧ (num : ℚ) < den * 2 ^ ((num.log2 : Int) - den.log2)) := by
  unfold floorLog2
  dsimp only
  generalize (num.log2 : Int) - den.log2 = guess
  have hreached : (if 0 ≤ guess then den * pow2 guess.toNat ≤ num else den ≤ num * pow2 (-guess).toNat) ↔
      (den : ℚ) * 2 ^ guess ≤ num := by
    split
    · next hsign =>
      rw [← cast_pow2 hsign]
      exact_mod_cast Iff.rfl
    · next hsign =>
      -- A quotient below one is compared through its inverse.
      rw [← Nat.cast_le (α := ℚ), Nat.cast_mul, cast_pow2 (by omega), zpow_neg, ← div_eq_mul_inv,
        le_div_iff₀ (zpow_two_pos _)]
  by_cases h : (den : ℚ) * 2 ^ guess ≤ num
  · exact .inl ⟨if_pos (hreached.mpr h), h⟩
  · exact .inr ⟨if_neg fun hnot => h (hreached.mp hnot), not_le.mp h⟩

/-- The quotient is below the power of two that follows its logarithm. -/
theorem lt_floorLog2 (hden : 0 < den) : (num : ℚ) < den * 2 ^ (floorLog2 num den + 1) := by
  have htop : (num : ℚ) < 2 ^ ((num.log2 : Int) + 1) := by
    have hlt : num < 2 ^ (num.log2 + 1) := Nat.lt_log2_self
    exact_mod_cast hlt
  have hbottom : (2 : ℚ) ^ (den.log2 : Int) ≤ den := by
    have hle : 2 ^ den.log2 ≤ den := Nat.log2_self_le hden.ne'
    exact_mod_cast hle
  have hguess : (num : ℚ) < den * 2 ^ ((num.log2 : Int) - den.log2 + 1) :=
    calc (num : ℚ) < 2 ^ ((num.log2 : Int) + 1) := htop
      _ = 2 ^ (den.log2 : Int) * 2 ^ ((num.log2 : Int) - den.log2 + 1) := by
        rw [← zpow_add₀ two_ne_zero]
        congr 1
        omega
      _ ≤ den * 2 ^ ((num.log2 : Int) - den.log2 + 1) :=
        mul_le_mul_of_nonneg_right hbottom (zpow_two_pos _).le
  rcases floorLog2_cases num den with ⟨heq, -⟩ | ⟨heq, hlt⟩
  · rwa [heq]
  · rwa [heq, sub_add_cancel]

/-- The quotient reaches the power of two of its logarithm. -/
theorem floorLog2_self_le (hnum : 0 < num) : (den : ℚ) * 2 ^ floorLog2 num den ≤ num := by
  have hbottom : (2 : ℚ) ^ (num.log2 : Int) ≤ num := by
    have hle : 2 ^ num.log2 ≤ num := Nat.log2_self_le hnum.ne'
    exact_mod_cast hle
  have htop : (den : ℚ) < 2 ^ ((den.log2 : Int) + 1) := by
    have hlt : den < 2 ^ (den.log2 + 1) := Nat.lt_log2_self
    exact_mod_cast hlt
  have hguess : (den : ℚ) * 2 ^ ((num.log2 : Int) - den.log2 - 1) ≤ num :=
    calc (den : ℚ) * 2 ^ ((num.log2 : Int) - den.log2 - 1)
        ≤ 2 ^ ((den.log2 : Int) + 1) * 2 ^ ((num.log2 : Int) - den.log2 - 1) :=
          mul_le_mul_of_nonneg_right htop.le (zpow_two_pos _).le
      _ = 2 ^ (num.log2 : Int) := by
        rw [← zpow_add₀ two_ne_zero]
        congr 1
        omega
      _ ≤ num := hbottom
  rcases floorLog2_cases num den with ⟨heq, hle⟩ | ⟨heq, -⟩
  · rwa [heq]
  · rwa [heq]

theorem floorLog2_le : floorLog2 num den ≤ num.log2 := by
  unfold floorLog2
  dsimp only
  split <;> omega

theorem roundHalfEven_le : roundHalfEven num den ≤ num / den + 1 := by
  unfold roundHalfEven
  dsimp only
  split
  · omega
  · split
    · omega
    · split <;> omega

theorem roundHalfEven_one : roundHalfEven num 1 = num := by
  simp [roundHalfEven, Nat.mod_one]

/-- Rounding at an exponent that leaves 53 binary digits. -/
theorem rounded_le (hden : 0 < den) {q : Int} (hq : floorLog2 num den - 52 ≤ q) :
    (if 0 ≤ q then roundHalfEven num (den * pow2 q.toNat) else roundHalfEven (num * pow2 (-q).toNat) den)
      ≤ 2 ^ 53 := by
  have hlt : (num : ℚ) < den * 2 ^ (q + 53) := by
    refine (lt_floorLog2 hden).trans_le (mul_le_mul_of_nonneg_left ?_ (Nat.cast_nonneg den))
    exact zpow_le_zpow_right₀ one_le_two (by omega)
  rw [zpow_add₀ two_ne_zero, ← mul_assoc] at hlt
  have hdown : ∀ n d : Nat, n < d * 2 ^ 53 → roundHalfEven n d ≤ 2 ^ 53 := fun n d hnd =>
    roundHalfEven_le.trans (Nat.div_lt_of_lt_mul hnd)
  split
  · next hsign =>
    refine hdown _ _ ?_
    rw [← cast_pow2 hsign] at hlt
    exact_mod_cast hlt
  · next hsign =>
    refine hdown _ _ ?_
    have hscaled : (num : ℚ) * 2 ^ (-q) < den * 2 ^ (53 : Int) :=
      calc (num : ℚ) * 2 ^ (-q) < den * 2 ^ q * 2 ^ (53 : Int) * 2 ^ (-q) :=
            mul_lt_mul_of_pos_right hlt (zpow_two_pos _)
        _ = den * 2 ^ (53 : Int) := by
          rw [mul_right_comm, mul_assoc (den : ℚ), ← zpow_add₀ two_ne_zero, add_neg_cancel, zpow_zero, mul_one]
    rw [← cast_pow2 (by omega)] at hscaled
    exact_mod_cast hscaled

theorem nearestBits_lt (hnum : num.log2 < 1023) (hden : 0 < den) : nearestBits false num den < 2047 * pow2 52 := by
  have hpow : pow2 52 = 2 ^ 52 := rfl
  unfold nearestBits
  split
  · exact Nat.mul_pos (by decide) (Nat.pow_pos two_pos)
  · have hexponent := @floorLog2_le num den
    dsimp only
    have hq : floorLog2 num den - 52 ≤ max (floorLog2 num den - 52) Binary.leastExponent := le_max_left ..
    have hle : max (floorLog2 num den - 52) Binary.leastExponent ≤ 970 := max_le (by omega) (by decide)
    have hm := rounded_le hden hq
    generalize max (floorLog2 num den - 52) Binary.leastExponent = q at hm hle
    generalize (if 0 ≤ q then _ else _ : Nat) = m at hm
    have hsign : signBit false = 0 := rfl
    rw [hsign, hpow]
    split <;> omega

/-- A quotient that is not very large is rounded to a finite double. -/
theorem isFinite_nearest (hnum : num.log2 < 1023) (hden : 0 < den) :
    (Binary.ofFloat (nearest false num den)).isFinite = true := by
  have hbits := nearestBits_lt hnum hden
  rw [ofFloat_nearest]
  refine isFinite_ofBits ?_
  show nearestBits false num den / 2 ^ 52 % 2 ^ 11 ≠ 2047
  have hlt : nearestBits false num den < 2047 * 2 ^ 52 := hbits
  omega

end Quotient

/-! ## Whole numbers -/

section Whole

variable {c : Nat}

theorem floorLog2_one (h : 0 < c) : floorLog2 c 1 = c.log2 := by
  have hone : Nat.log2 1 = 0 := by decide
  have hle : pow2 c.log2 ≤ c := Nat.log2_self_le h.ne'
  simp [floorLog2, hone, hle]

/-- Enough binary places are added that the leading one is the 53rd digit. -/
theorem whole_digits (hpos : 0 < c) (h : c.log2 ≤ 52) :
    pow2 52 ≤ c * pow2 (52 - c.log2) ∧ c * pow2 (52 - c.log2) < pow2 53 := by
  have hsplit : ∀ n, c.log2 ≤ n → pow2 n = pow2 c.log2 * pow2 (n - c.log2) := fun n hn => by
    show 2 ^ n = 2 ^ c.log2 * 2 ^ (n - c.log2)
    rw [← pow_add, Nat.add_sub_cancel' hn]
  have hpow : pow2 53 = pow2 (c.log2 + 1) * pow2 (52 - c.log2) := by
    show 2 ^ 53 = 2 ^ (c.log2 + 1) * 2 ^ (52 - c.log2)
    rw [← pow_add]
    congr 1
    omega
  constructor
  · rw [hsplit 52 h]
    exact Nat.mul_le_mul_right _ (Nat.log2_self_le hpos.ne')
  · rw [hpow]
    exact Nat.mul_lt_mul_of_pos_right Nat.lt_log2_self (Nat.pow_pos two_pos)

/-- The bits of a whole number. -/
theorem nearestBits_whole (hpos : 0 < c) (h : c.log2 ≤ 52) :
    nearestBits false c 1 = (c.log2 + 1023) * pow2 52 + (c * pow2 (52 - c.log2) - pow2 52) := by
  obtain ⟨hlow, hhigh⟩ := whole_digits hpos h
  have hleast : max ((c.log2 : Int) - 52) Binary.leastExponent = (c.log2 : Int) - 52 :=
    max_eq_left (by unfold Binary.leastExponent; omega)
  have hdigits : (if 0 ≤ (c.log2 : Int) - 52 then roundHalfEven c (1 * pow2 ((c.log2 : Int) - 52).toNat)
      else roundHalfEven (c * pow2 (-((c.log2 : Int) - 52)).toNat) 1) = c * pow2 (52 - c.log2) := by
    split
    · have hlog : c.log2 = 52 := by omega
      rw [hlog]
      show roundHalfEven c 1 = c * 1
      rw [roundHalfEven_one, mul_one]
    · have hplaces : (-((c.log2 : Int) - 52)).toNat = 52 - c.log2 := by omega
      rw [hplaces, roundHalfEven_one]
  have hfield : ((c.log2 : Int) - 52 + 1075).toNat = c.log2 + 1023 := by omega
  have hsize : (c.log2 + 1023) * pow2 52 + (c * pow2 (52 - c.log2) - pow2 52) ≤ 2047 * pow2 52 := by
    have hpow : pow2 53 = 2 * pow2 52 := rfl
    have hfits : (c.log2 + 1023) * pow2 52 ≤ 1075 * pow2 52 := Nat.mul_le_mul_right _ (by omega)
    omega
  unfold nearestBits
  rw [if_neg hpos.ne', floorLog2_one hpos]
  dsimp only
  rw [hleast, hdigits, if_neg (not_lt.mpr hlow), hfield, min_eq_left hsize]
  exact zero_add _

/-- Bits that are put together from a sign, an exponent and a fraction, taken apart. -/
theorem ofBits_parts (negative : Bool) {exponent fraction : Nat} (hexponent : exponent < 2 ^ 11)
    (hfraction : fraction < pow2 52) : Binary.ofBits (signBit negative + exponent * pow2 52 + fraction) =
      if exponent = 2047 then if fraction = 0 then .infinite negative else .nan
      else if exponent = 0 then .finite negative fraction Binary.leastExponent
      else .finite negative (fraction + pow2 52) ((exponent : Int) - 1075) := by
  have hlt : fraction < 2 ^ 52 := hfraction
  have hsize : signBit negative = if negative then 2 ^ 63 else 0 := rfl
  have hsign : ((signBit negative + exponent * pow2 52 + fraction) / pow2 63 % 2 == 1) = negative := by
    show ((signBit negative + exponent * 2 ^ 52 + fraction) / 2 ^ 63 % 2 == 1) = negative
    rw [hsize]
    cases negative with
    | true => rw [if_pos rfl, beq_iff_eq]; omega
    | false => rw [if_neg Bool.false_ne_true, beq_eq_false_iff_ne]; omega
  have hfield : (signBit negative + exponent * pow2 52 + fraction) / pow2 52 % pow2 11 = exponent := by
    show (signBit negative + exponent * 2 ^ 52 + fraction) / 2 ^ 52 % 2 ^ 11 = exponent
    rw [hsize]
    split <;> omega
  have hrest : (signBit negative + exponent * pow2 52 + fraction) % pow2 52 = fraction := by
    show (signBit negative + exponent * 2 ^ 52 + fraction) % 2 ^ 52 = fraction
    rw [hsize]
    split <;> omega
  unfold Binary.ofBits
  simp only [hsign, hfield, hrest]

theorem scaled_zero (q : Int) : scaled 0 q = 0 := by
  simp [scaled]

theorem scaled_whole (h : c.log2 ≤ 52) : scaled (c * pow2 (52 - c.log2)) ((c.log2 : Int) - 52) = c := by
  unfold scaled
  split
  · have hlog : c.log2 = 52 := by omega
    rw [hlog]
    show ((c * 1 * 1 : Nat) : ℚ) = c
    rw [mul_one, mul_one]
  · have hplaces : (-((c.log2 : Int) - 52)).toNat = 52 - c.log2 := by omega
    have hne : (pow2 (52 - c.log2) : ℚ) ≠ 0 := Nat.cast_ne_zero.mpr (Nat.pow_pos two_pos).ne'
    rw [hplaces, Rat.mkRat_eq_div]
    push_cast
    exact mul_div_cancel_right₀ _ hne

/-- A whole number with at most 53 binary digits is not changed by rounding. -/
theorem exact_nearest (h : c < 2 ^ 53) : Exact.ofFloat (nearest false c 1) = .finite c := by
  rcases Nat.eq_zero_or_pos c with rfl | hpos
  · unfold Exact.ofFloat
    have hbits : Binary.ofBits (nearestBits false 0 1) = .finite false 0 Binary.leastExponent := by decide
    rw [ofFloat_nearest, hbits]
    simp [scaled_zero]
  · have hlog : c.log2 ≤ 52 := Nat.lt_succ_iff.mp ((Nat.log2_lt hpos.ne').mpr h)
    obtain ⟨hlow, hhigh⟩ := whole_digits hpos hlog
    have hpow : pow2 53 = 2 * pow2 52 := rfl
    have hexponent : ((c.log2 + 1023 : Nat) : Int) - 1075 = (c.log2 : Int) - 52 := by omega
    have hparts := @ofBits_parts false (c.log2 + 1023) (c * pow2 (52 - c.log2) - pow2 52) (by omega) (by omega)
    rw [show signBit false = 0 from rfl, zero_add, if_neg (by omega), if_neg (by omega), hexponent,
      Nat.sub_add_cancel hlow] at hparts
    unfold Exact.ofFloat
    rw [ofFloat_nearest, nearestBits_whole hpos hlog, hparts]
    exact congrArg Exact.finite (scaled_whole hlog)

end Whole

end CodeMetrics.Number
