import Mathlib.Algebra.Order.Floor.Ring
import Mathlib.Algebra.Order.Round
import Mathlib.Data.Int.Log
import Mathlib.Data.Rat.Floor
import Mathlib.Tactic.FieldSimp
import Mathlib.Tactic.Linarith
import Mathlib.Tactic.Positivity
import Mathlib.Tactic.Ring

/-!
# Rounding to 53 binary digits

A rational number is rounded to a whole multiple of a power of two, its quantum: the one that leaves 53 binary digits, but
none below `2^-1074`. The result is closest to the number among all numbers with that many digits (`abs_rounded_sub_le`),
so rounding keeps order and leaves such numbers as they are.

* `abs_rounded_sub_le` — no number with 53 digits is closer
* `rounded_mono`, `rounded_of_hasDigits` — what follows from it
-/

namespace CodeMetrics.Number

/-! ## To whole numbers -/

/-- A number rounded to a whole one, a half going to the even neighbour. -/
def roundEven (w : ℚ) : ℤ :=
  if w - ⌊w⌋ < 1 / 2 then ⌊w⌋
  else if 1 / 2 < w - ⌊w⌋ then ⌊w⌋ + 1
  else if ⌊w⌋ % 2 = 0 then ⌊w⌋ else ⌊w⌋ + 1

section Half

variable {w : ℚ}

theorem roundEven_of_lt (h : w - ⌊w⌋ < 1 / 2) : roundEven w = ⌊w⌋ := if_pos h

theorem roundEven_of_gt (h : 1 / 2 < w - ⌊w⌋) : roundEven w = ⌊w⌋ + 1 := by
  rw [roundEven, if_neg (not_lt.mpr h.le), if_pos h]

theorem roundEven_of_eq (h : w - ⌊w⌋ = 1 / 2) : roundEven w = if ⌊w⌋ % 2 = 0 then ⌊w⌋ else ⌊w⌋ + 1 := by
  rw [roundEven, if_neg (not_lt.mpr h.ge), if_neg (not_lt.mpr h.le)]

end Half

/-- A number is rounded down up to a half, and up from a half on. -/
theorem roundEven_cases (w : ℚ) :
    (w - ⌊w⌋ ≤ 1 / 2 ∧ roundEven w = ⌊w⌋) ∨ (1 / 2 ≤ w - ⌊w⌋ ∧ roundEven w = ⌊w⌋ + 1) := by
  rcases lt_trichotomy (w - ⌊w⌋) (1 / 2) with hbelow | hhalf | habove
  · exact .inl ⟨hbelow.le, roundEven_of_lt hbelow⟩
  · rw [roundEven_of_eq hhalf]
    split
    · exact .inl ⟨hhalf.le, rfl⟩
    · exact .inr ⟨hhalf.ge, rfl⟩
  · exact .inr ⟨habove.le, roundEven_of_gt habove⟩

/-- No whole number is closer. -/
theorem abs_roundEven_sub_le (w : ℚ) (n : ℤ) : |(roundEven w : ℚ) - w| ≤ |(n : ℚ) - w| := by
  have hlow := Int.floor_le w
  have hhigh := Int.lt_floor_add_one w
  rcases le_or_gt n ⌊w⌋ with hn | hn
  · have hcast : (n : ℚ) ≤ ⌊w⌋ := Int.cast_le.mpr hn
    rw [abs_of_nonpos (by linarith : (n : ℚ) - w ≤ 0)]
    rcases roundEven_cases w with ⟨_, hround⟩ | ⟨hhalf, hround⟩
    · rw [hround, abs_of_nonpos (by linarith)]
      linarith
    · rw [hround, Int.cast_add, Int.cast_one, abs_of_nonneg (by linarith)]
      linarith
  · have hcast : (⌊w⌋ : ℚ) + 1 ≤ n := by exact_mod_cast hn
    rw [abs_of_nonneg (by linarith : 0 ≤ (n : ℚ) - w)]
    rcases roundEven_cases w with ⟨hhalf, hround⟩ | ⟨_, hround⟩
    · rw [hround, abs_of_nonpos (by linarith)]
      linarith
    · rw [hround, Int.cast_add, Int.cast_one, abs_of_nonneg (by linarith)]
      linarith

theorem roundEven_intCast (n : ℤ) : roundEven n = n := by
  simp [roundEven]

theorem roundEven_neg (w : ℚ) : roundEven (-w) = -roundEven w := by
  by_cases hwhole : (⌊w⌋ : ℚ) = w
  · rw [← hwhole, roundEven_intCast, ← Int.cast_neg, roundEven_intCast]
  · have hlow : (⌊w⌋ : ℚ) < w := lt_of_le_of_ne (Int.floor_le w) hwhole
    have hhigh := Int.lt_floor_add_one w
    have hfloor : ⌊-w⌋ = -⌊w⌋ - 1 := by
      rw [Int.floor_eq_iff]
      push_cast
      constructor <;> linarith
    have hrest : -w - ⌊-w⌋ = 1 - (w - ⌊w⌋) := by
      rw [hfloor]
      push_cast
      ring
    rcases lt_trichotomy (w - ⌊w⌋) (1 / 2) with hbelow | hhalf | habove
    · rw [roundEven_of_lt hbelow, roundEven_of_gt (by rw [hrest]; linarith), hfloor]
      omega
    · rw [roundEven_of_eq hhalf, roundEven_of_eq (by rw [hrest]; linarith), hfloor]
      split_ifs <;> omega
    · rw [roundEven_of_gt habove, roundEven_of_lt (by rw [hrest]; linarith), hfloor]
      omega

theorem abs_roundEven_le {w : ℚ} {n : ℕ} (h : |w| ≤ n) : |roundEven w| ≤ n := by
  obtain ⟨hlow, hhigh⟩ := abs_le.mp h
  have hfloor : -(n : ℤ) ≤ ⌊w⌋ := Int.le_floor.mpr (by push_cast; exact hlow)
  rcases hhigh.lt_or_eq with hlt | rfl
  · have hfloor' : ⌊w⌋ < n := Int.floor_lt.mpr (by exact_mod_cast hlt)
    rw [abs_le]
    rcases roundEven_cases w with ⟨_, hround⟩ | ⟨_, hround⟩ <;> omega
  · have hround : roundEven (n : ℚ) = n := by exact_mod_cast roundEven_intCast n
    rw [hround, Nat.abs_cast]

/-! ## To binary digits -/

theorem zpow_two_pos (e : ℤ) : (0 : ℚ) < 2 ^ e := zpow_pos two_pos e

/-- The exponent of the last digit that is kept. -/
def quantum (v : ℚ) : ℤ := max (Int.log 2 |v| - 52) (-1074)

/-- A number rounded to 53 binary digits. -/
def rounded (v : ℚ) : ℚ := roundEven (v / 2 ^ quantum v) * 2 ^ quantum v

/-- A number has at most 53 binary digits, none of them below `2^-1074`. -/
def HasDigits (g : ℚ) : Prop := ∃ m e : ℤ, |m| ≤ 2 ^ 53 ∧ -1074 ≤ e ∧ g = m * 2 ^ e

theorem quantum_neg (v : ℚ) : quantum (-v) = quantum v := by rw [quantum, quantum, abs_neg]

theorem rounded_neg (v : ℚ) : rounded (-v) = -rounded v := by
  rw [rounded, rounded, quantum_neg, neg_div, roundEven_neg, Int.cast_neg, neg_mul]

theorem rounded_zero : rounded 0 = 0 := by
  have hround : roundEven 0 = 0 := by exact_mod_cast roundEven_intCast 0
  rw [rounded, zero_div, hround, Int.cast_zero, zero_mul]

theorem abs_lt_quantum (v : ℚ) : |v| < 2 ^ (quantum v + 53) := by
  have hlog : |v| < 2 ^ (Int.log 2 |v| + 1) := Int.lt_zpow_succ_log_self one_lt_two |v|
  refine hlog.trans_le (zpow_le_zpow_right₀ one_le_two ?_)
  have hle : Int.log 2 |v| - 52 ≤ quantum v := le_max_left ..
  omega

/-- Above the least quantum all 53 digits are there. -/
theorem le_abs_of_quantum {v : ℚ} (hv : v ≠ 0) (h : -1074 < quantum v) : 2 ^ (quantum v + 52) ≤ |v| := by
  have hq : quantum v = Int.log 2 |v| - 52 := by
    unfold quantum at h ⊢
    omega
  rw [hq, sub_add_cancel]
  exact Int.zpow_log_le_self one_lt_two (abs_pos.mpr hv)

theorem hasDigits_rounded (v : ℚ) : HasDigits (rounded v) := by
  refine ⟨roundEven (v / 2 ^ quantum v), quantum v, ?_, le_max_right .., rfl⟩
  have hscaled : |v / 2 ^ quantum v| ≤ (2 ^ 53 : ℕ) := by
    rw [abs_div, abs_of_pos (zpow_two_pos _), div_le_iff₀ (zpow_two_pos _)]
    refine (abs_lt_quantum v).le.trans (le_of_eq ?_)
    rw [zpow_add₀ two_ne_zero, mul_comm]
    norm_num
  exact_mod_cast abs_roundEven_le hscaled

/-- The distance to a whole multiple of the quantum. -/
theorem abs_rounded_sub_le_mul (v : ℚ) (n : ℤ) : |rounded v - v| ≤ |n * 2 ^ quantum v - v| := by
  have hpos := zpow_two_pos (quantum v)
  have hscale : ∀ k : ℤ, |(k : ℚ) * 2 ^ quantum v - v| = |(k : ℚ) - v / 2 ^ quantum v| * 2 ^ quantum v := by
    intro k
    rw [← abs_of_pos hpos, ← abs_mul, abs_of_pos hpos, sub_mul, div_mul_cancel₀ v hpos.ne']
  rw [rounded, hscale, hscale]
  exact mul_le_mul_of_nonneg_right (abs_roundEven_sub_le _ n) hpos.le

/-- **No number with 53 binary digits is closer than the rounded one.** -/
theorem abs_rounded_sub_le {g : ℚ} (hg : HasDigits g) (v : ℚ) : |rounded v - v| ≤ |g - v| := by
  obtain ⟨m, e, hm, he, rfl⟩ := hg
  rcases eq_or_ne v 0 with rfl | hv
  · rw [rounded_zero, sub_zero, abs_zero]
    exact abs_nonneg _
  rcases le_or_gt (quantum v) e with hle | hlt
  · -- A multiple of a larger power of two is a multiple of the quantum.
    have hmultiple : (m : ℚ) * 2 ^ e = ((m * 2 ^ (e - quantum v).toNat : ℤ) : ℚ) * 2 ^ quantum v := by
      have hexponent : e = ((e - quantum v).toNat : ℤ) + quantum v := by omega
      push_cast
      rw [mul_assoc, ← zpow_natCast, ← zpow_add₀ two_ne_zero, ← hexponent]
    rw [hmultiple]
    exact abs_rounded_sub_le_mul v _
  · -- Other numbers are on the near side of the first one with all digits, which is a multiple of the quantum.
    have htop := le_abs_of_quantum hv (he.trans_lt hlt)
    have hbound : |(m : ℚ) * 2 ^ e| ≤ 2 ^ (quantum v + 52) := by
      have hcast : |(m : ℚ)| ≤ 2 ^ (53 : ℤ) := by exact_mod_cast hm
      calc |(m : ℚ) * 2 ^ e| = |(m : ℚ)| * 2 ^ e := by rw [abs_mul, abs_of_pos (zpow_two_pos e)]
        _ ≤ 2 ^ (53 : ℤ) * 2 ^ e := mul_le_mul_of_nonneg_right hcast (zpow_two_pos e).le
        _ = 2 ^ (53 + e) := (zpow_add₀ two_ne_zero 53 e).symm
        _ ≤ 2 ^ (quantum v + 52) := zpow_le_zpow_right₀ one_le_two (by omega)
    have hsplit : (2 : ℚ) ^ (quantum v + 52) = ((2 ^ 52 : ℤ) : ℚ) * 2 ^ quantum v := by
      rw [add_comm, zpow_add₀ two_ne_zero]
      norm_num
    obtain ⟨hlow, hhigh⟩ := abs_le.mp hbound
    rcases le_total 0 v with hsign | hsign
    · rw [abs_of_nonneg hsign] at htop
      have hnear := abs_rounded_sub_le_mul v (2 ^ 52)
      rw [← hsplit, abs_of_nonpos (sub_nonpos.mpr htop)] at hnear
      rw [abs_of_nonpos (a := (m : ℚ) * 2 ^ e - v) (by linarith)]
      linarith
    · rw [abs_of_nonpos hsign] at htop
      have hnear := abs_rounded_sub_le_mul v (-2 ^ 52)
      rw [show (((-2 ^ 52 : ℤ) : ℚ)) = -((2 ^ 52 : ℤ) : ℚ) by push_cast; ring, neg_mul, ← hsplit,
        abs_of_nonneg (a := -(2 : ℚ) ^ (quantum v + 52) - v) (by linarith)] at hnear
      rw [abs_of_nonneg (a := (m : ℚ) * 2 ^ e - v) (by linarith)]
      linarith

/-- Numbers with 53 binary digits are left as they are. -/
theorem rounded_of_hasDigits {g : ℚ} (hg : HasDigits g) : rounded g = g := by
  have hclose := abs_rounded_sub_le hg g
  rw [sub_self, abs_zero] at hclose
  exact sub_eq_zero.mp (abs_nonpos_iff.mp hclose)

/-- Of two numbers the greater is the closer one only beyond their middle. -/
theorem add_le_of_abs_le {a b v : ℚ} (hab : b < a) (h : |a - v| ≤ |b - v|) : a + b ≤ 2 * v := by
  have hsquare := sq_le_sq.mpr h
  nlinarith

/-- **Rounding keeps order.** -/
theorem rounded_mono : Monotone rounded := by
  intro v v' h
  rcases h.lt_or_eq with hlt | rfl
  · by_contra hgt
    rw [not_le] at hgt
    have hv := add_le_of_abs_le hgt (abs_rounded_sub_le (hasDigits_rounded v') v)
    -- The lesser of the two is closer to the greater number, so the middle is between the numbers the wrong way.
    have hv' := add_le_of_abs_le (neg_lt_neg hgt) (a := -rounded v') (b := -rounded v) (v := -v') (by
      rw [← abs_neg, ← abs_neg (-rounded v - -v')]
      simpa [sub_eq_add_neg, add_comm] using abs_rounded_sub_le (hasDigits_rounded v) v')
    linarith
  · exact le_rfl

end CodeMetrics.Number
