import CodeMetrics.Metrics.Halstead
import CodeMetrics.Metrics.Maintainability
import CodeMetrics.Proofs.Number.Order

/-!
# The maintainability index in doubles

Of the arithmetic of doubles all is known but the logarithms, which are given. They are taken to be in order and exact at
1 and 2 (`MonotoneLogs`). The index then falls with volume, complexity and lines, and starts at 100. What keeps it from
being more is that no volume lies between 0 and 2: there are no more distinct tokens than tokens, so two distinct ones
make a volume of 2 at least.

* `Maintainability.points_between`, `Maintainability.points_anti` — the index from its parts
* `Halstead.volumeOf_cases`, `Halstead.volumeOf_mono` — volumes
* `Maintainability.pointsOf_between`, `Maintainability.pointsOf_anti` — the index of measured code
* `Maintainability.lt_index` — the index of a volume below 1
-/

namespace CodeMetrics

open Number

/-- Doubles with given logarithms. -/
@[reducible] def Scalar.doubles (ln log2 : Float → Float) : Scalar Float :=
  { (inferInstance : Scalar Float) with ln := ln, log2 := log2 }

/-- The program's own arithmetic is that of doubles with their own logarithms. -/
theorem Scalar.doubles_log : Scalar.doubles Float.log Float.log2 = (inferInstance : Scalar Float) := rfl

/-- The choice that is made for positive numbers. -/
theorem Scalar.ite_zero_lt (ln log2 : Float → Float) (x y : Float) :
    (if @Scalar.lt Float (.doubles ln log2) (@Scalar.zero Float (.doubles ln log2)) x = true then y
      else @Scalar.zero Float (.doubles ln log2)) = if 0 < x then y else 0 := by
  rw [zero_eq]
  show (if decide _ = true then _ else _) = _
  simp only [decide_eq_true_eq]
  rfl

/-- Logarithms of positive doubles that are in order, and exact at 1 and 2. -/
structure MonotoneLogs (ln log2 : Float → Float) : Prop where
  ln_mono : ∀ x y, 0 < x → x ≤ y → ln x ≤ ln y
  ln_one : ln 1 = 0
  log2_mono : ∀ x y, 0 < x → x ≤ y → log2 x ≤ log2 y
  log2_one : log2 1 = 0
  log2_two : log2 2 = 1

namespace Number

/-! ## Weights -/

/-- A positive number that is not infinite. -/
structure IsWeight (k : Float) : Prop where
  finite : IsFinite k
  pos : 0 < value k

theorem isWeight_nearest {num den : Nat} (hden : 0 < den) (hlow : den ≤ num * 2 ^ 10) (hhigh : num ≤ 2 ^ 53 * den) :
    IsWeight (nearest false num den) := by
  have hwithin : Within (nearest false num den) 0 (2 ^ 53) :=
    within_nearest hden (by omega) (by exact_mod_cast hhigh) (by decide) (by decide)
  refine ⟨hwithin.finite, ?_⟩
  have hdigits : HasDigits (1 / 2 ^ 10) := ⟨1, -10, by norm_num, by norm_num, by norm_num⟩
  have hpos : (0 : ℚ) < den := Nat.cast_pos.mpr hden
  have hle : (1 / 2 ^ 10 : ℚ) ≤ num / den := by
    rw [div_le_div_iff₀ (by norm_num) hpos, one_mul]
    exact_mod_cast hlow
  have hsize : |(1 / 2 ^ 10 : ℚ)| ≤ beyond := by
    have hone := natCast_lt_beyond (n := 1) (by norm_num)
    rw [Nat.cast_one] at hone
    norm_num
    linarith
  rw [(value_nearest hden).2]
  exact lt_of_lt_of_le (by norm_num) (le_clamped_rounded hdigits hsize hle)

section Weight

variable {k x x' t t' : Float} (hk : IsWeight k)

include hk

/-- A part of what is not negative is not negative. -/
theorem IsWeight.zero_le_mul (ht : 0 ≤ t) : 0 ≤ k * t := by
  have hmono := mul_mono hk.finite.isNumber hk.pos ht (.inl hk.finite)
  rwa [mul_zero_of_pos hk.pos hk.finite] at hmono

/-- Less is left if more is taken away. -/
theorem IsWeight.sub_mul_mono (hx : x ≤ x') (hlt : value x' < beyond) (ht : 0 ≤ t) (htt' : t ≤ t') :
    x - k * t' ≤ x' - k * t := by
  have hnonneg := (zero_le_iff.mp (hk.zero_le_mul ht)).2
  refine sub_mono hx hlt (mul_mono hk.finite.isNumber hk.pos htt' (.inl hk.finite)) ?_
  linarith [beyond_pos]

theorem IsWeight.sub_mul_le (hx : IsNumber x) (hlt : value x < beyond) (ht : 0 ≤ t) : x - k * t ≤ x := by
  obtain ⟨hnumber, hnonneg⟩ := zero_le_iff.mp (hk.zero_le_mul ht)
  obtain ⟨hsub, hle⟩ := sub_le_self hx hlt hnumber hnonneg
  exact le_iff.mpr ⟨hsub, hx, hle⟩

/-- Products of a weight and what is not negative grow with both factors. -/
theorem IsWeight.mul_mono_weight {k' : Float} (hk' : IsWeight k') (hkk' : k ≤ k') (ht : 0 ≤ t) (htt' : t ≤ t') :
    k * t ≤ k' * t' := by
  have hleft : k * t ≤ k * t' := mul_mono hk.finite.isNumber hk.pos htt' (.inl hk.finite)
  have ht' := double_le_trans ht htt'
  obtain ⟨hnumber, hnonneg⟩ := zero_le_iff.mp ht'
  rcases hnonneg.eq_or_lt with hzero | hpos
  · -- Nothing is left of either product.
    have hle : t' ≤ 0 := le_iff.mpr ⟨hnumber, isFinite_zero.isNumber, by rw [← hzero, value_zero]⟩
    have hnone : k * t' ≤ k * 0 := mul_mono hk.finite.isNumber hk.pos hle (.inl hk.finite)
    rw [mul_zero_of_pos hk.pos hk.finite] at hnone
    exact double_le_trans hleft (double_le_trans hnone (hk'.zero_le_mul ht'))
  · have hright : t' * k ≤ t' * k' := mul_mono hnumber hpos hkk' (.inr hk.pos)
    rw [double_mul_comm t' k, double_mul_comm t' k'] at hright
    exact double_le_trans hleft hright

end Weight

/-- A count that is not zero, if a double can hold it. -/
theorem isWeight_ofNat {n : Nat} (hpos : 0 < n) (hfinite : IsFinite (nearest false n 1)) :
    IsWeight (nearest false n 1) :=
  ⟨hfinite, (zero_lt_iff.mp (zero_lt_of_le double_one_pos (one_le_ofNat hpos))).2⟩

end Number

/-! ## The score -/

namespace Maintainability

/-- What is left of 171 when the three parts have been taken away. -/
def rest (a b c : Float) : Float :=
  nearest false 171 1 - nearest false 52 (pow10 1) * a - nearest false 23 (pow10 2) * b - nearest false 162 (pow10 1) * c

/-- What is left, scaled to 100. -/
def percentage (a b c : Float) : Float := rest a b c * nearest false 100 1 / nearest false 171 1

/-- The score: what is left, or zero if nothing is. -/
def points (a b c : Float) : Float := if 0 < percentage a b c then percentage a b c else 0

theorem score_eq (ln log2 : Float → Float) (a b c : Float) : @score Float (.doubles ln log2) a b c = points a b c :=
  Scalar.ite_zero_lt ln log2 (percentage a b c) (percentage a b c)

theorem isWeight_volume : IsWeight (nearest false 52 (pow10 1)) := isWeight_nearest (by decide) (by decide) (by decide)

theorem isWeight_complexity : IsWeight (nearest false 23 (pow10 2)) := isWeight_nearest (by decide) (by decide) (by decide)

theorem isWeight_lines : IsWeight (nearest false 162 (pow10 1)) := isWeight_nearest (by decide) (by decide) (by decide)

theorem isWeight_hundred : IsWeight (nearest false 100 1) := isWeight_nearest (by decide) (by decide) (by decide)

theorem isWeight_full : IsWeight (nearest false 171 1) := isWeight_nearest (by decide) (by decide) (by decide)

/-- All of 171 makes 100. -/
theorem hundredths_full : nearest false 171 1 * nearest false 100 1 / nearest false 171 1 = 100 := by decide

theorem hundredths_mono {x x' : Float} (h : x ≤ x') :
    x * nearest false 100 1 / nearest false 171 1 ≤ x' * nearest false 100 1 / nearest false 171 1 := by
  refine div_mono isWeight_full.finite isWeight_full.pos ?_
  rw [double_mul_comm x, double_mul_comm x']
  exact mul_mono isWeight_hundred.finite.isNumber isWeight_hundred.pos h (.inl isWeight_hundred.finite)

section Parts

variable {a a' b b' c c' : Float} (ha : 0 ≤ a) (hb : 0 ≤ b) (hc : 0 ≤ c)

theorem lt_beyond_of_le_full {x : Float} (h : x ≤ nearest false 171 1) : value x < beyond :=
  (le_iff.mp h).2.2.trans_lt (abs_lt.mp isWeight_full.finite.abs_lt).2

include ha in
theorem less_volume_le : nearest false 171 1 - nearest false 52 (pow10 1) * a ≤ nearest false 171 1 :=
  isWeight_volume.sub_mul_le isWeight_full.finite.isNumber (abs_lt.mp isWeight_full.finite.abs_lt).2 ha

include ha hb in
theorem less_complexity_le :
    nearest false 171 1 - nearest false 52 (pow10 1) * a - nearest false 23 (pow10 2) * b ≤ nearest false 171 1 := by
  have hle := less_volume_le ha
  exact double_le_trans (isWeight_complexity.sub_mul_le (le_iff.mp hle).1 (lt_beyond_of_le_full hle) hb) hle

include ha hb hc in
theorem rest_le : rest a b c ≤ nearest false 171 1 := by
  have hle := less_complexity_le ha hb
  exact double_le_trans (isWeight_lines.sub_mul_le (le_iff.mp hle).1 (lt_beyond_of_le_full hle) hc) hle

include ha hb hc in
theorem rest_anti (haa' : a ≤ a') (hbb' : b ≤ b') (hcc' : c ≤ c') : rest a' b' c' ≤ rest a b c := by
  have hfull : nearest false 171 1 ≤ nearest false 171 1 := double_le_refl isWeight_full.finite.isNumber
  have hvolume := isWeight_volume.sub_mul_mono hfull (lt_beyond_of_le_full hfull) ha haa'
  have hcomplexity := isWeight_complexity.sub_mul_mono hvolume (lt_beyond_of_le_full (less_volume_le ha)) hb hbb'
  exact isWeight_lines.sub_mul_mono hcomplexity (lt_beyond_of_le_full (less_complexity_le ha hb)) hc hcc'

include ha hb hc

/-- Parts that are not negative give a score from 0 to 100. -/
theorem points_between : 0 ≤ points a b c ∧ points a b c ≤ 100 := by
  unfold points
  split
  · next hpos =>
    obtain ⟨hnumber, hvalue⟩ := zero_lt_iff.mp hpos
    refine ⟨zero_le_iff.mpr ⟨hnumber, hvalue.le⟩, ?_⟩
    exact hundredths_full ▸ hundredths_mono (rest_le ha hb hc)
  · exact ⟨double_le_refl isFinite_zero.isNumber, by decide⟩

/-- Greater parts give a smaller score. -/
theorem points_anti (haa' : a ≤ a') (hbb' : b ≤ b') (hcc' : c ≤ c') : points a' b' c' ≤ points a b c := by
  have hle : percentage a' b' c' ≤ percentage a b c := hundredths_mono (rest_anti ha hb hc haa' hbb' hcc')
  by_cases hpos' : 0 < percentage a' b' c'
  · rw [points, points, if_pos hpos', if_pos (zero_lt_of_le hpos' hle)]
    exact hle
  · have hzero : points a' b' c' = 0 := if_neg hpos'
    rw [hzero]
    exact (points_between ha hb hc).1

end Parts

end Maintainability

/-! ## Logarithms -/

/-- The logarithm of a positive number, and zero for the others. -/
def lnPositive (ln : Float → Float) (x : Float) : Float := if 0 < x then ln x else 0

theorem lnOrZero_eq (ln log2 : Float → Float) (x : Float) :
    @Scalar.lnOrZero Float (.doubles ln log2) x = lnPositive ln x := Scalar.ite_zero_lt ln log2 x (ln x)

namespace MonotoneLogs

variable {ln log2 : Float → Float} (hlogs : MonotoneLogs ln log2) {x x' : Float}

include hlogs

/-- The logarithm of a number that is not between 0 and 1 is not negative. -/
theorem zero_le_lnPositive (h : 0 < x → 1 ≤ x) : 0 ≤ lnPositive ln x := by
  unfold lnPositive
  split
  · next hpos => exact hlogs.ln_one ▸ hlogs.ln_mono 1 x double_one_pos (h hpos)
  · exact double_le_refl isFinite_zero.isNumber

theorem lnPositive_mono (h : 0 < x → x ≤ x') (h' : 0 < x' → 1 ≤ x') : lnPositive ln x ≤ lnPositive ln x' := by
  by_cases hpos : 0 < x
  · rw [lnPositive, lnPositive, if_pos hpos, if_pos (zero_lt_of_le hpos (h hpos))]
    exact hlogs.ln_mono x x' hpos (h hpos)
  · have hzero : lnPositive ln x = 0 := if_neg hpos
    rw [hzero]
    exact hlogs.zero_le_lnPositive h'

/-- Numbers with a negative logarithm are below 1. -/
theorem lt_one_of_ln_neg (hpos : 0 < x) (h : ln x ≤ -1) : x < 1 := by
  by_contra hnot
  have hone : 1 ≤ x := (double_not_lt (zero_lt_iff.mp hpos).1 (isNumber_of_lt double_one_pos).2).mp hnot
  have hlog := hlogs.zero_le_lnPositive fun _ => hone
  rw [lnPositive, if_pos hpos] at hlog
  exact absurd (double_le_trans hlog h) (by decide)

/-- A count is 0, or 1 at least. -/
theorem zero_le_ln_ofNat (n : Nat) : 0 ≤ lnPositive ln (nearest false n 1) :=
  hlogs.zero_le_lnPositive one_le_ofNat_of_pos

theorem ln_ofNat_mono {n n' : Nat} (h : n ≤ n') : lnPositive ln (nearest false n 1) ≤ lnPositive ln (nearest false n' 1) :=
  hlogs.lnPositive_mono (fun _ => ofNat_mono h) one_le_ofNat_of_pos

/-- Two distinct tokens have a positive logarithm. -/
theorem one_le_log2 {n : Nat} (h : 2 ≤ n) : 1 ≤ log2 (nearest false n 1) :=
  hlogs.log2_two ▸ hlogs.log2_mono 2 _ (by decide) (two_eq ▸ ofNat_mono h)

end MonotoneLogs

/-! ## Volumes -/

namespace Halstead

variable {ln log2 : Float → Float}

/-- The volume of a number of tokens and of distinct ones. -/
def volumeOf (log2 : Float → Float) (vocabulary length : Nat) : Float :=
  if vocabulary = 0 then 0 else nearest false length 1 * log2 (nearest false vocabulary 1)

theorem volume_eq (ln log2 : Float → Float) (h : Halstead) :
    @volume Float (.doubles ln log2) h = volumeOf log2 h.vocabulary h.length := by
  rw [volumeOf, zero_eq]
  rfl

section Volumes

variable (hlogs : MonotoneLogs ln log2) {n n' k k' : Nat}

include hlogs

/-- A single distinct token makes no volume. -/
theorem volumeOf_one (hpos : 0 < k) :
    ¬ 0 < volumeOf log2 1 k ∧ (k ≤ 2 ^ 1023 → volumeOf log2 1 k = 0) := by
  have hlength : 0 < nearest false k 1 := zero_lt_of_le double_one_pos (one_le_ofNat hpos)
  rw [volumeOf, if_neg one_ne_zero, ← one_eq, hlogs.log2_one]
  exact ⟨not_pos_mul_zero hlength, fun hle => mul_zero_of_pos (zero_lt_iff.mp hlength).2 (isFinite_ofNat hle)⟩

/-- With two distinct tokens the volume grows with the tokens. -/
theorem volumeOf_mono (htwo : 2 ≤ n) (hpos : 0 < k) (hn : n ≤ n') (hk : k ≤ k') :
    volumeOf log2 n k ≤ volumeOf log2 n' k' := by
  have hlength : 0 < nearest false k 1 := zero_lt_of_le double_one_pos (one_le_ofNat hpos)
  have hvocabulary : 0 < nearest false n 1 := zero_lt_of_le double_one_pos (one_le_ofNat (by omega))
  rw [volumeOf, volumeOf, if_neg (by omega), if_neg (by omega)]
  exact mul_mono_both hlength (ofNat_mono hk) (zero_lt_of_le double_one_pos (hlogs.one_le_log2 htwo))
    (hlogs.log2_mono _ _ hvocabulary (ofNat_mono hn))

/-- Two distinct tokens make a volume of 2 at least. -/
theorem two_le_volumeOf (htwo : 2 ≤ n) (hle : n ≤ k) : 2 ≤ volumeOf log2 n k := by
  have hproduct : volumeOf log2 2 2 = 2 := by
    rw [volumeOf, if_neg two_ne_zero, ← two_eq, hlogs.log2_two]
    decide
  exact hproduct ▸ volumeOf_mono hlogs le_rfl two_pos htwo (htwo.trans hle)

/-- No volume lies between 0 and 2. -/
theorem volumeOf_cases (hle : n ≤ k) :
    (n < 2 ∧ ¬ 0 < volumeOf log2 n k ∧ (k ≤ 2 ^ 1023 → volumeOf log2 n k = 0)) ∨ (2 ≤ n ∧ 2 ≤ volumeOf log2 n k) := by
  rcases Nat.lt_or_ge n 2 with hfew | htwo
  · refine .inl ⟨hfew, ?_⟩
    interval_cases n
    · exact ⟨(by decide : ¬ (0 : Float) < 0), fun _ => rfl⟩
    · exact volumeOf_one hlogs hle
  · exact .inr ⟨htwo, two_le_volumeOf hlogs htwo hle⟩

theorem one_le_volumeOf (hle : n ≤ k) (hpos : 0 < volumeOf log2 n k) : 1 ≤ volumeOf log2 n k := by
  rcases volumeOf_cases hlogs hle with ⟨-, hnot, -⟩ | ⟨-, htwo⟩
  · exact absurd hpos hnot
  · exact double_le_trans (by decide) htwo

theorem ln_volumeOf_mono (hle : n ≤ k) (hle' : n' ≤ k') (hn : n ≤ n') (hk : k ≤ k') :
    lnPositive ln (volumeOf log2 n k) ≤ lnPositive ln (volumeOf log2 n' k') := by
  refine hlogs.lnPositive_mono (fun hpos => ?_) (one_le_volumeOf hlogs hle')
  rcases volumeOf_cases hlogs hle with ⟨-, hnot, -⟩ | ⟨htwo, -⟩
  · exact absurd hpos hnot
  · exact volumeOf_mono hlogs htwo (by omega) hn hk

end Volumes

end Halstead

/-! ## The index -/

namespace Maintainability

variable {ln log2 : Float → Float}

theorem finiteOrZero_of_isFinite {x : Float} (h : IsFinite x) : @Scalar.finiteOrZero Float (.doubles ln log2) x = x :=
  if_pos (isFinite_ofFloat h)

theorem within_hundred : Within 100 100 100 := hundred_eq ▸ within_ofNat (by norm_num)

/-- A score from 0 to 100 is finite. -/
theorem finiteOrZero_of_between {x : Float} (h : 0 ≤ x ∧ x ≤ 100) :
    @Scalar.finiteOrZero Float (.doubles ln log2) x = x := by
  obtain ⟨hnumber, hlow⟩ := zero_le_iff.mp h.1
  obtain ⟨-, -, hhigh⟩ := le_iff.mp h.2
  refine finiteOrZero_of_isFinite (isFinite_of_abs_lt hnumber ?_)
  rw [abs_of_nonneg hlow]
  exact hhigh.trans_lt (abs_lt.mp within_hundred.finite.abs_lt).2

theorem index_eq (v : Float) (complexity lines : Nat) : @index Float (.doubles ln log2) v complexity lines
    = @Scalar.finiteOrZero Float (.doubles ln log2)
      (points (lnPositive ln v) (nearest false complexity 1) (lnPositive ln (nearest false lines 1))) := by
  rw [← score_eq ln log2, ← lnOrZero_eq ln log2, ← lnOrZero_eq ln log2]
  rfl

section Measured

variable (hlogs : MonotoneLogs ln log2) {n n' k k' complexity complexity' lines lines' : Nat}

/-- The score of counts: distinct tokens, tokens, complexity and lines. -/
def pointsOf (ln log2 : Float → Float) (n k complexity lines : Nat) : Float :=
  points (lnPositive ln (Halstead.volumeOf log2 n k)) (nearest false complexity 1) (lnPositive ln (nearest false lines 1))

include hlogs

/-- The score of measured code lies between 0 and 100. -/
theorem pointsOf_between (hle : n ≤ k) (complexity lines : Nat) :
    0 ≤ pointsOf ln log2 n k complexity lines ∧ pointsOf ln log2 n k complexity lines ≤ 100 :=
  points_between (hlogs.zero_le_lnPositive (Halstead.one_le_volumeOf hlogs hle)) (zero_le_ofNat complexity)
    (hlogs.zero_le_ln_ofNat lines)

/-- More code has a smaller score. -/
theorem pointsOf_anti (hle : n ≤ k) (hle' : n' ≤ k') (hn : n ≤ n') (hk : k ≤ k') (hcomplexity : complexity ≤ complexity')
    (hlines : lines ≤ lines') : pointsOf ln log2 n' k' complexity' lines' ≤ pointsOf ln log2 n k complexity lines :=
  points_anti (hlogs.zero_le_lnPositive (Halstead.one_le_volumeOf hlogs hle)) (zero_le_ofNat complexity)
    (hlogs.zero_le_ln_ofNat lines) (Halstead.ln_volumeOf_mono hlogs hle hle' hn hk) (ofNat_mono hcomplexity)
    (hlogs.ln_ofNat_mono hlines)

/-- The index of measured code is its score. -/
theorem index_volume {h : Halstead} (hle : h.vocabulary ≤ h.length) (complexity lines : Nat) :
    @index Float (.doubles ln log2) (@Halstead.volume Float (.doubles ln log2) h) complexity lines
      = pointsOf ln log2 h.vocabulary h.length complexity lines := by
  rw [index_eq, Halstead.volume_eq]
  exact finiteOrZero_of_between (pointsOf_between hlogs hle complexity lines)

end Measured

/-! ## Volumes below 1 -/

theorem within_of_le {x : Float} (hlow : -1000 ≤ x) (hhigh : x ≤ -1) : Within x (-1000) (-1) := by
  have hzero : Within 0 0 0 := zero_eq ▸ within_ofNat (Nat.zero_le _)
  have hleast : Within (-1000) (-1000) (-1000) := by
    rw [show (-1000 : Float) = 0 - nearest false 1000 1 by decide]
    exact hzero.sub (within_ofNat (by norm_num)) (by decide) (by decide)
  have hmost : Within (-1) (-1) (-1) := by
    rw [show (-1 : Float) = 0 - nearest false 1 1 by decide]
    exact hzero.sub (within_ofNat (by norm_num)) (by decide) (by decide)
  obtain ⟨-, hnumber, hle⟩ := le_iff.mp hlow
  obtain ⟨-, -, hge⟩ := le_iff.mp hhigh
  have hlow' := hleast.low_le.trans hle
  have hhigh' := hge.trans hmost.le_high
  refine ⟨isFinite_of_abs_lt hnumber (abs_lt.mpr ⟨?_, ?_⟩), hlow', hhigh'⟩
  · have := abs_lt.mp hleast.finite.abs_lt
    linarith
  · have := abs_lt.mp hmost.finite.abs_lt
    linarith

/-- A logarithm well below 0 leaves more than 171. -/
theorem percentage_within {a : Float} (ha : Within a (-1000) (-1)) :
    Within (percentage a (nearest false 1 1) 0) 102 4000 := by
  have hvolume : Within (nearest false 52 (pow10 1) * a) (-6000) (-5) := by
    have hweight : Within (nearest false 52 (pow10 1)) 5 6 :=
      within_nearest (by decide) (by decide) (by decide) (by decide) (by decide)
    exact hweight.mul ha (by decide) (by decide) (by decide)
  have hcomplexity : Within (nearest false 23 (pow10 2) * nearest false 1 1) 0 1 := by
    have hweight : Within (nearest false 23 (pow10 2)) 0 1 :=
      within_nearest (by decide) (by decide) (by decide) (by decide) (by decide)
    exact hweight.mul (within_ofNat (by norm_num)) (by decide) (by decide) (by decide)
  have hlines : Within (nearest false 162 (pow10 1) * 0) 0 0 := by
    rw [mul_zero_of_pos isWeight_lines.pos isWeight_lines.finite, zero_eq]
    exact within_ofNat (Nat.zero_le _)
  have hfull : Within (nearest false 171 1) 171 171 := within_ofNat (by norm_num)
  -- From 171 at least 5 are given back and at most 1 is taken.
  have hrest : Within (rest a (nearest false 1 1) 0) 175 6171 :=
    ((hfull.sub hvolume (by decide) (by decide)).sub hcomplexity (by decide) (by decide)).sub hlines (by decide) (by decide)
  have hscaled : Within (rest a (nearest false 1 1) 0 * nearest false 100 1) 17500 617100 :=
    hrest.mul (within_ofNat (by norm_num)) (by decide) (by decide) (by decide)
  exact hscaled.div_ofNat (by decide) (by norm_num) (by decide) (by decide) (by decide) (by decide)

/-- The index is not kept below 100 by itself: a volume with a logarithm well below 0 has a greater one. -/
theorem lt_index (hlogs : MonotoneLogs ln log2) {v : Float} (hpos : 0 < v) (hleast : -1000 ≤ ln v) (hmost : ln v ≤ -1) :
    100 < @index Float (.doubles ln log2) v 1 1 := by
  have hwithin := percentage_within (within_of_le hleast hmost)
  have hlow : (102 : ℚ) ≤ value (percentage (ln v) (nearest false 1 1) 0) := by exact_mod_cast hwithin.low_le
  have hhigh : value 100 ≤ 100 := by exact_mod_cast within_hundred.le_high
  have hpercentage : 0 < percentage (ln v) (nearest false 1 1) 0 :=
    zero_lt_iff.mpr ⟨hwithin.finite.isNumber, by linarith⟩
  have hlines : lnPositive ln (nearest false 1 1) = 0 := by
    rw [← one_eq, lnPositive, if_pos double_one_pos, hlogs.ln_one]
  have hvolume : lnPositive ln v = ln v := if_pos hpos
  rw [index_eq, hlines, hvolume, points, if_pos hpercentage, finiteOrZero_of_isFinite hwithin.finite,
    lt_iff within_hundred.finite.isNumber hwithin.finite.isNumber]
  linarith

end Maintainability

end CodeMetrics
