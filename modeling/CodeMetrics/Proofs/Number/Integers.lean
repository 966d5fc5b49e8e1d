import CodeMetrics.Proofs.Number.Order
import CodeMetrics.Proofs.Number.Spelling
import Mathlib

/-!
# The spelling of integers as operands

An integer below `10^21` is spelled by all its digits, and the double closest to it by those of its shortest decimal. The
two agree exactly if that decimal is the integer itself. This holds of all integers up to `2^53`, and no longer of the next
one. From `10^21` on an integer is spelled as the closest double.

* `ofFloat_closest` — the closest double, taken apart
* `onGrid_whole`, `shortest_whole` — the shortest decimal of an integer below `2^53`
* `decimal_eq_toDigits` — a decimal that is a natural number is written like one
* `operandText_closest_iff`, `hasDoubleSpelling_of_le` — which integers have the spelling of the closest double
* `spelling_of_integer` — integers and doubles as literals
-/

namespace CodeMetrics.Number

open Json

/-! ## The closest double -/

/-- The double closest to an integer, which is an infinity if the integer is too large. -/
def closest (n : Int) : Float := nearest (decide (n < 0)) n.natAbs 1

/-- The bits of a canonical mantissa and exponent, with a sign, taken apart. -/
theorem ofBits_canonical (negative : Bool) {m : Nat} {q : Int} (h : IsCanonical m q) :
    Binary.ofBits (signBit negative +
        min (if m < pow2 52 then m else (q + 1075).toNat * pow2 52 + (m - pow2 52)) (2047 * pow2 52)) =
      if q ≤ 971 then .finite negative m q else .infinite negative := by
  have hpow : pow2 52 = 2 ^ 52 := rfl
  have hlt := h.lt
  have hleast := h.least
  rw [hpow]
  by_cases hshort : m < 2 ^ 52
  · have hq : q = -1074 := h.full.resolve_left (not_le.mpr hshort)
    have hparts := @ofBits_parts negative 0 m (by decide) hshort
    rw [Nat.zero_mul, Nat.add_zero, if_neg (by decide), if_pos rfl] at hparts
    rw [if_pos hshort, min_eq_left (by omega), hparts, hq]
    rfl
  · rw [if_neg hshort]
    by_cases hlarge : q ≤ 971
    · have hparts := @ofBits_parts negative (q + 1075).toNat (m - 2 ^ 52) (by omega) (by rw [hpow]; omega)
      have hexponent : ((q + 1075).toNat : Int) - 1075 = q := by omega
      have hsize : (q + 1075).toNat * 2 ^ 52 + (m - 2 ^ 52) ≤ 2047 * 2 ^ 52 := by
        have hfield : (q + 1075).toNat ≤ 2046 := by omega
        omega
      rw [hpow, if_neg (by omega), if_neg (by omega), hexponent, Nat.sub_add_cancel (not_lt.mp hshort),
        Nat.add_assoc] at hparts
      rw [if_pos hlarge, min_eq_left hsize, hparts]
    · have hparts := @ofBits_parts negative 2047 0 (by decide) (by rw [hpow]; decide)
      have hsize : 2047 * 2 ^ 52 ≤ (q + 1075).toNat * 2 ^ 52 + (m - 2 ^ 52) := by
        have hfield : 2047 ≤ (q + 1075).toNat := by omega
        omega
      rw [hpow, if_pos rfl, if_pos rfl, Nat.add_zero] at hparts
      rw [if_neg hlarge, min_eq_right hsize, hparts]

theorem rounded_natCast_pos {k : Nat} (hk : 0 < k) : 0 < rounded k := by
  have hone : rounded 1 = 1 := rounded_of_hasDigits ⟨1, 0, by norm_num, by norm_num, by norm_num⟩
  have hcast : (1 : ℚ) ≤ k := by exact_mod_cast hk
  have hmono := rounded_mono hcast
  rw [hone] at hmono
  linarith

/-- The double closest to an integer that is not zero has its sign, and its size rounded. -/
theorem ofFloat_closest {n : Int} (hn : n ≠ 0) : ∃ m q, IsCanonical m q ∧ (m : ℚ) * 2 ^ q = rounded n.natAbs ∧
    Binary.ofFloat (closest n) =
      if q ≤ 971 then .finite (decide (n < 0)) m q else .infinite (decide (n < 0)) := by
  have hpos : 0 < n.natAbs := Int.natAbs_pos.mpr hn
  obtain ⟨u, hreal, hvalue, hbits⟩ := @exists_pack_nearestBits n.natAbs 1 one_pos
  rw [Nat.cast_one, div_one] at hvalue
  have hrounded := rounded_natCast_pos hpos
  rw [← hvalue] at hrounded
  obtain ⟨m, q, hm, rfl, hcanonical⟩ := hreal.exists_positive hrounded
  rw [valueOf, factor, one_mul] at hvalue
  refine ⟨m, q, hcanonical, hvalue, ?_⟩
  rw [closest, ofFloat_nearest, nearestBits_eq hpos.ne', hbits, toNat_pack hcanonical, ofBits_canonical _ hcanonical]

/-! ## Shortest decimals of integers -/

section Shortest

variable {m : Nat} {q : Int} {k : Nat}

/-- The number is less than the power of ten of its scale. -/
theorem lt_scaleOf (m : Nat) (q : Int) : (m : ℚ) * 2 ^ q < 10 ^ scaleOf m q := by
  have hten : (0 : ℚ) < 10 ^ (340 : ℤ) := zpow_pos (by norm_num) _
  have hraise : (pow10 340 : ℚ) = 10 ^ (340 : ℤ) := cast_pow10 (e := 340) (by norm_num)
  have hraised := scaleOf_eq m q
  have hlt := Nat.lt_floor_add_one ((m : ℚ) * 2 ^ q * pow10 340)
  generalize ⌊(m : ℚ) * 2 ^ q * pow10 340⌋₊ = raised at *
  have hdigits : ((raised : ℚ) + 1) ≤ 10 ^ (Nat.toDigits 10 raised).length := by
    exact_mod_cast lt_pow_length_toDigits raised
  rw [hraised, zpow_sub₀ (by norm_num), zpow_natCast, lt_div_iff₀ hten, ← hraise]
  exact hlt.trans_le hdigits

/-- Up to `2^53` an integral double is the only integer that is read as it, but for the one next to `2^53`. -/
theorem eq_of_near_whole (h : IsCanonical m q) (hk : (m : ℚ) * 2 ^ q = k) (hle : k ≤ 2 ^ 53) {w : Nat}
    (hnear : Near m q w) (hne : w ≠ 2 ^ 53 + 1) : w = k := by
  have hrounded : rounded w = k := (rounded_of_near h hnear).trans hk
  rcases le_or_gt w (2 ^ 53) with hsmall | hlarge
  · rw [rounded_of_hasDigits (hasDigits_natCast hsmall)] at hrounded
    exact_mod_cast hrounded
  · -- a greater number is rounded to no less than the double that follows `2^53`
    have hnext : HasDigits ((2 ^ 53 + 2 : Nat) : ℚ) := ⟨2 ^ 52 + 1, 1, by norm_num, by norm_num, by norm_num⟩
    have hcast : ((2 ^ 53 + 2 : Nat) : ℚ) ≤ w := by exact_mod_cast (by omega : 2 ^ 53 + 2 ≤ w)
    have hmono := rounded_mono hcast
    rw [rounded_of_hasDigits hnext, hrounded] at hmono
    have hgreater : 2 ^ 53 + 2 ≤ k := by exact_mod_cast hmono
    omega

theorem onGrid_of_exact {s : Int} {down : Nat} (hexact : 4 * m * (gridFactors q s).2 = down * (gridFactors q s).1)
    (h : (Interval.ofBinary m q).contains (gridFactors q s).1 (gridFactors q s).2 down = true) :
    onGrid m q s = some down := by
  have ha := (gridFactors_pos q s).1
  have hdown : 4 * m * (gridFactors q s).2 / (gridFactors q s).1 = down := by rw [hexact, Nat.mul_div_cancel _ ha]
  have hbelow : 4 * m * (gridFactors q s).2 - down * (gridFactors q s).1 = 0 := by rw [hexact, Nat.sub_self]
  have habove : 0 < (down + 1) * (gridFactors q s).1 - 4 * m * (gridFactors q s).2 := by
    rw [hexact, Nat.add_one_mul, Nat.add_sub_cancel_left]
    exact ha
  have hvalue : (Interval.ofBinary m q).value = 4 * m := rfl
  unfold onGrid
  dsimp only
  rw [hvalue, hdown, h, hbelow]
  cases (Interval.ofBinary m q).contains (gridFactors q s).1 (gridFactors q s).2 (down + 1) with
  | true => exact congrArg some (if_pos habove)
  | false => rfl

/-- On the grid of whole numbers an integral double is found as it is. -/
theorem onGrid_whole (h : IsCanonical m q) (hk : (m : ℚ) * 2 ^ q = k) : onGrid m q 0 = some k := by
  obtain ⟨ha, hb⟩ := gridFactors_pos q 0
  have hplaces : (4 : ℚ) * m = k / 2 ^ (q - 2) := by
    rw [← hk, zpow_sub₀ two_ne_zero, div_div_eq_mul_div, eq_div_iff (zpow_two_pos q).ne']
    norm_num
    ring
  have hstep : (k : ℚ) * ((gridFactors q 0).1 / (gridFactors q 0).2) = 4 * m := by
    rw [gridFactors_div, zpow_zero, hplaces, mul_one_div]
  have hexact : 4 * m * (gridFactors q 0).2 = k * (gridFactors q 0).1 := by
    have hcast := hstep
    rw [← mul_div_assoc, div_eq_iff (Nat.cast_pos.mpr hb).ne'] at hcast
    exact_mod_cast hcast.symm
  refine onGrid_of_exact hexact ((Interval.contains_iff hb).mpr ?_)
  rw [hstep]
  have hlower : ((Interval.ofBinary m q).lower : ℚ) < 4 * m := by
    rw [cast_lower h.pos]
    split_ifs <;> linarith
  have hupper : (4 : ℚ) * m < (Interval.ofBinary m q).upper := by
    rw [cast_upper]
    linarith
  exact ⟨hlower.le, hupper.le, fun hend => hend.elim (fun h => absurd h hlower.ne') fun h => absurd h hupper.ne⟩

/-- The first place in a row at which there is something is not behind one at which there is. -/
theorem exists_of_findSome?_range {α : Type} {f : Nat → Option α} {i n : Nat} (hi : i < n) (h : (f i).isSome = true) :
    ∃ j ≤ i, ∃ a, f j = some a ∧ (List.range n).findSome? f = some a := by
  obtain ⟨a, ha⟩ : ∃ a, (List.range (i + 1)).findSome? f = some a := by
    rw [← Option.isSome_iff_exists, List.findSome?_isSome_iff]
    exact ⟨i, List.mem_range.mpr (Nat.lt_succ_self i), h⟩
  obtain ⟨j, hj, hfj⟩ := List.exists_of_findSome?_eq_some ha
  refine ⟨j, Nat.lt_succ_iff.mp (List.mem_range.mp hj), a, hfj, ?_⟩
  rw [show n = i + 1 + (n - (i + 1)) by omega, List.range_add, List.findSome?_append, ha]
  rfl

/-- What is found on a grid of whole numbers is an integer up to `2^53` itself: on a coarser grid it is a multiple of ten,
and so not the number that follows `2^53`. -/
theorem onGrid_eq_whole (h : IsCanonical m q) (hk : (m : ℚ) * 2 ^ q = k) (hle : k ≤ 2 ^ 53) {s c : Nat}
    (hgrid : onGrid m q s = some c) : c * 10 ^ s = k := by
  rcases Nat.eq_zero_or_pos s with rfl | hcoarse
  · rw [Nat.cast_zero, onGrid_whole h hk] at hgrid
    rw [pow_zero, mul_one, Option.some.inj hgrid]
  · have hnear := near_onGrid hgrid
    rw [zpow_natCast] at hnear
    refine eq_of_near_whole h hk hle (by exact_mod_cast hnear) fun hnext => ?_
    have hten : 10 ∣ c * 10 ^ s := (dvd_pow_self 10 hcoarse.ne').mul_left c
    rw [hnext] at hten
    omega

theorem scaleOf_whole_pos (h : IsCanonical m q) (hk : (m : ℚ) * 2 ^ q = k) : 0 < scaleOf m q := by
  by_contra hnot
  have hpos : (1 : ℚ) ≤ k := by
    have hzero := h.pos'
    rw [hk] at hzero
    exact_mod_cast hzero
  have hless := lt_scaleOf m q
  have hone : (10 : ℚ) ^ scaleOf m q ≤ 1 := zpow_le_one_of_nonpos₀ (by norm_num) (not_lt.mp hnot)
  rw [hk] at hless
  linarith

theorem scaleOf_whole_le (h : IsCanonical m q) (hk : (m : ℚ) * 2 ^ q = k) (hle : k ≤ 2 ^ 53) : scaleOf m q ≤ 16 := by
  by_contra hnot
  have hless := scaleOf_le h
  have hmany : (10 : ℚ) ^ (16 : ℤ) ≤ 10 ^ (scaleOf m q - 1) := zpow_le_zpow_right₀ (by norm_num) (by omega)
  have hcast : (k : ℚ) ≤ 2 ^ 53 := by exact_mod_cast hle
  have hfew : (k : ℚ) < 10 ^ (16 : ℤ) := hcast.trans_lt (by norm_num)
  rw [hk] at hless
  linarith

/-- **The shortest decimal of an integer up to `2^53` is the integer.** -/
theorem shortest_whole (h : IsCanonical m q) (hk : (m : ℚ) * 2 ^ q = k) (hle : k ≤ 2 ^ 53) :
    (shortest m q).value = k := by
  -- the integer has sixteen digits at most, so that the grid of whole numbers is tried
  have hlow := scaleOf_whole_pos h hk
  have hhigh := scaleOf_whole_le h hk hle
  let attempt : Nat → Option Decimal := fun i =>
    (onGrid m q (scaleOf m q - 1 - (i : Int))).map fun c => ⟨c, scaleOf m q - 1 - (i : Int)⟩
  have hplace : (scaleOf m q - 1).toNat < 17 := by omega
  have hhit : (attempt (scaleOf m q - 1).toNat).isSome = true := by
    have hzero : scaleOf m q - 1 - ((scaleOf m q - 1).toNat : Int) = 0 := by omega
    rw [Option.isSome_map, hzero, onGrid_whole h hk]
    rfl
  obtain ⟨i, hi, d, hd, hfound⟩ := exists_of_findSome?_range hplace hhit
  obtain ⟨c, hgrid, rfl⟩ := Option.map_eq_some_iff.mp hd
  obtain ⟨s, hs⟩ : ∃ s : Nat, scaleOf m q - 1 - (i : Int) = s := ⟨(scaleOf m q - 1 - (i : Int)).toNat, by omega⟩
  rw [hs] at hgrid
  unfold shortest
  extract_lets scale found
  have hsearch : found = some ⟨c, scaleOf m q - 1 - (i : Int)⟩ := hfound
  rw [hsearch, Option.getD_some, Decimal.value_normalize, Decimal.value, hs, zpow_natCast]
  exact_mod_cast onGrid_eq_whole h hk hle hgrid

end Shortest

/-! ## Digits of integers -/

theorem toDigits_mul_pow {c : Nat} (hc : 0 < c) (e : Nat) :
    Nat.toDigits 10 (c * 10 ^ e) = Nat.toDigits 10 c ++ List.replicate e '0' := by
  induction e with
  | zero => rw [pow_zero, mul_one, List.replicate_zero, List.append_nil]
  | succ e ih =>
    have hsplit : c * 10 ^ (e + 1) = c * 10 ^ e * 10 := by rw [pow_succ, mul_assoc]
    have hbase : 10 ≤ c * 10 ^ e * 10 := Nat.le_mul_of_pos_left 10 (Nat.mul_pos hc (Nat.pow_pos (by decide)))
    rw [hsplit, Nat.toDigits_of_base_le (by decide) hbase, Nat.mul_div_cancel _ (by decide), Nat.mul_mod_left, ih,
      List.replicate_succ', List.append_assoc]
    rfl

/-- A decimal that is a natural number has no negative exponent. -/
theorem exponent_nonneg {d : Decimal} (hmod : d.coefficient % 10 ≠ 0) {k : Nat} (hvalue : d.value = k) :
    0 ≤ d.exponent := by
  by_contra hnegative
  obtain ⟨t, ht⟩ : ∃ t : Nat, d.exponent = -((t + 1 : Nat) : Int) := ⟨(-d.exponent - 1).toNat, by omega⟩
  have hpower : (10 : ℚ) ^ (t + 1) ≠ 0 := pow_ne_zero _ (by norm_num)
  rw [Decimal.value, ht, zpow_neg, zpow_natCast, ← div_eq_mul_inv, div_eq_iff hpower] at hvalue
  have hmultiple : d.coefficient = k * 10 ^ (t + 1) := by exact_mod_cast hvalue
  rw [hmultiple, pow_succ, ← mul_assoc] at hmod
  exact hmod (Nat.mul_mod_left _ _)

/-- **A decimal that is a natural number below `10^21` is written like one.** -/
theorem decimal_eq_toDigits {d : Decimal} (hd : 0 < d.coefficient) (hmod : d.coefficient % 10 ≠ 0) {k : Nat}
    (hvalue : d.value = k) (hk : k < pow10 21) : Style.operand.decimal d = Nat.toDigits 10 k := by
  obtain ⟨e, he⟩ := Int.eq_ofNat_of_zero_le (exponent_nonneg hmod hvalue)
  have hnat : k = d.coefficient * 10 ^ e := by
    rw [Decimal.value, he, zpow_natCast] at hvalue
    exact_mod_cast hvalue.symm
  have hdigits : Nat.toDigits 10 k = d.digits ++ List.replicate e '0' := by
    rw [hnat, toDigits_mul_pow hd]
    rfl
  have hlength := length_toDigits_le (by decide) hk
  rw [hdigits, List.length_append, List.length_replicate] at hlength
  have hfirst := length_digits_pos hd
  have hscale : d.scale = e + d.digits.length := by rw [Decimal.scale, he]
  have hzeros : d.scale.toNat - d.digits.length = e := by omega
  rw [operand_decimal_eq, if_pos ⟨by omega, by omega⟩, operand_positional_eq, if_neg (by omega), if_pos (by omega), hzeros,
    hdigits]

/-! ## Spellings -/

/-- The number that the shortest decimal of a finite double is. -/
def shortestValue? (x : Float) : Option ℚ :=
  match Binary.ofFloat x with
  | .finite negative m q => some (if m = 0 then 0 else (if negative then -1 else 1) * (shortest m q).value)
  | _ => none

/-- An integer has the spelling of the closest double if it is large, and else if it is the shortest decimal of that double. -/
def HasDoubleSpelling (n : Int) : Prop := 10 ^ 21 ≤ |n| ∨ shortestValue? (closest n) = some (n : ℚ)

section Spelling

variable {n : Int} {m : Nat} {q : Int}

/-- An integer with its sign, from its size. -/
theorem sign_mul_natAbs (n : Int) : (if decide (n < 0) = true then -1 else 1) * (n.natAbs : ℚ) = n := by
  simp only [decide_eq_true_eq]
  rw [Nat.cast_natAbs]
  split
  · next h => rw [abs_of_neg h, Int.cast_neg, neg_one_mul, neg_neg]
  · next h => rw [abs_of_nonneg (not_lt.mp h), one_mul]

theorem shortestValue?_closest (hx : Binary.ofFloat (closest n) = .finite (decide (n < 0)) m q) (hm : m ≠ 0) :
    shortestValue? (closest n) = some (n : ℚ) ↔ (shortest m q).value = n.natAbs := by
  have hsign : (if decide (n < 0) = true then -1 else 1 : ℚ) ≠ 0 := by split <;> norm_num
  rw [shortestValue?, hx]
  dsimp only
  rw [if_neg hm, Option.some_inj, ← sign_mul_natAbs n, mul_right_inj' hsign]

/-- The closest double of a smaller integer is finite. -/
theorem ofFloat_closest_of_lt (hn : n ≠ 0) (hsmall : n.natAbs < pow10 21) : ∃ m q, IsCanonical m q ∧
    (m : ℚ) * 2 ^ q = rounded n.natAbs ∧ Binary.ofFloat (closest n) = .finite (decide (n < 0)) m q := by
  obtain ⟨m, q, hcanonical, hvalue, hfloat⟩ := ofFloat_closest hn
  refine ⟨m, q, hcanonical, hvalue, hfloat.trans (if_pos ?_)⟩
  by_contra hlarge
  have hbeyond := hcanonical.beyond_le (not_le.mp hlarge)
  have hpower : HasDigits ((2 ^ 70 : Nat) : ℚ) := ⟨1, 70, by norm_num, by norm_num, by norm_num⟩
  have hle : ((n.natAbs : Nat) : ℚ) ≤ (2 ^ 70 : Nat) := by
    have hten : pow10 21 ≤ 2 ^ 70 := by decide
    exact_mod_cast hsmall.le.trans hten
  have hmono := rounded_mono hle
  rw [rounded_of_hasDigits hpower, ← hvalue] at hmono
  have hless : ((2 ^ 70 : Nat) : ℚ) < beyond := by
    rw [beyond_eq, Nat.cast_pow, Nat.cast_ofNat, ← zpow_natCast]
    exact zpow_lt_zpow_right₀ one_lt_two (by norm_num)
  exact absurd (hbeyond.trans hmono) (not_le.mpr hless)

theorem operandText_int_of_lt (hsmall : n.natAbs < pow10 21) : (Num.int n).operandText = intText n := if_pos hsmall

/-- An integer from `10^21` on has the spelling of the closest double. -/
theorem operandText_int_of_le (hlarge : pow10 21 ≤ n.natAbs) :
    (Num.int n).operandText = (Num.float (closest n)).operandText := by
  have hn : n ≠ 0 := by
    rintro rfl
    exact absurd hlarge (by decide)
  have htext : (Num.int n).operandText =
      (ofInt? n).elim (signed (decide (n < 0)) Style.operand.infinity) Style.operand.text := by
    rw [Num.operandText, if_neg (not_lt.mpr hlarge)]
    cases ofInt? n <;> rfl
  have hclosest : ofInt? n = if (Binary.ofFloat (closest n)).isFinite then some (closest n) else none := rfl
  obtain ⟨m, q, -, -, hfloat⟩ := ofFloat_closest hn
  rw [htext, hclosest, Num.operandText]
  by_cases hq : q ≤ 971
  · rw [hfloat, if_pos hq]
    rfl
  · rw [Style.text, hfloat, if_neg hq]
    rfl

/-- The text of a smaller integer is read back as the integer. -/
theorem value?_operandText_int (hsmall : n.natAbs < pow10 21) :
    (Parts.of (Num.int n).operandText.toList).value? = some (n : ℚ) := by
  rw [operandText_int_of_lt hsmall, toList_intText, Parts.value?_numeral, value_natural, sign_mul_natAbs]

theorem operandText_zero : (Num.int 0).operandText = (Num.float (closest 0)).operandText ∧
    shortestValue? (closest 0) = some ((0 : Int) : ℚ) := by
  have hfloat : Binary.ofFloat (closest 0) = .finite false 0 Binary.leastExponent := by
    rw [closest, ofFloat_nearest]
    decide
  constructor
  · rw [Num.operandText, Num.operandText, Style.text, hfloat]
    rfl
  · rw [shortestValue?, hfloat]
    exact congrArg some Int.cast_zero.symm

/-- **An integer and the closest double have one spelling if the integer is large or the shortest decimal of the double.** -/
theorem operandText_closest_iff (n : Int) :
    (Num.int n).operandText = (Num.float (closest n)).operandText ↔ HasDoubleSpelling n := by
  have habs : 10 ^ 21 ≤ |n| ↔ pow10 21 ≤ n.natAbs := by
    rw [Int.abs_eq_natAbs]
    exact_mod_cast Iff.rfl
  rw [HasDoubleSpelling, habs]
  rcases lt_or_ge n.natAbs (pow10 21) with hsmall | hlarge
  · rw [or_iff_right (not_le.mpr hsmall)]
    by_cases hn : n = 0
    · subst hn
      exact iff_of_true operandText_zero.1 operandText_zero.2
    obtain ⟨m, q, hcanonical, -, hfloat⟩ := ofFloat_closest_of_lt hn hsmall
    have hm := hcanonical.pos.ne'
    obtain ⟨-, -, hcoefficient, hmod⟩ := shortest_spec hfloat hm
    rw [shortestValue?_closest hfloat hm]
    constructor
    · intro hsame
      have hread := value?_operandText hfloat hm
      rw [← hsame, value?_operandText_int hsmall, Option.some_inj, ← sign_mul_natAbs n] at hread
      have hsign : (if decide (n < 0) = true then -1 else 1 : ℚ) ≠ 0 := by split <;> norm_num
      exact (mul_left_cancel₀ hsign hread).symm
    · intro hvalue
      rw [← String.toList_inj, operandText_int_of_lt hsmall, toList_intText, toList_operandText hfloat hm, text_natural,
        decimal_eq_toDigits hcoefficient hmod hvalue hsmall]
  · exact iff_of_true (operandText_int_of_le hlarge) (.inl hlarge)

/-- Integers up to `2^53` have the spelling of the closest double. -/
theorem hasDoubleSpelling_of_le (h : |n| ≤ 2 ^ 53) : HasDoubleSpelling n := by
  have hle : n.natAbs ≤ 2 ^ 53 := by
    rw [Int.abs_eq_natAbs] at h
    exact_mod_cast h
  have hsmall : n.natAbs < pow10 21 := hle.trans_lt (by decide)
  by_cases hn : n = 0
  · subst hn
    exact .inr operandText_zero.2
  obtain ⟨m, q, hcanonical, hvalue, hfloat⟩ := ofFloat_closest_of_lt hn hsmall
  rw [rounded_of_hasDigits (hasDigits_natCast hle)] at hvalue
  exact .inr ((shortestValue?_closest hfloat hcanonical.pos.ne').mpr (shortest_whole hcanonical hvalue hle))

end Spelling

/-! ## Literals -/

/-- A literal contributes the text of its value. -/
theorem token?_of_literal {a : Node} {v : Value} {text : String} (hkind : a.kind = .literal)
    (hvalue : Fields.get? a.attrs "value" = some v) (htext : v.literalText = .ok text) :
    a.token? = .ok (some (.operand (.str text))) := by
  rw [Node.token?, hkind]
  simp only [Kind.hasOperator, Bool.false_eq_true, if_false, hvalue, Option.getD_some, htext]
  rfl

/-- **Integers and the doubles closest to them.** Both have one spelling, and are one operand, exactly if the integer is
at least `10^21` in size or is itself the shortest decimal of the double. All integers up to `2^53` are. Below `10^21` the
spelling of an integer is a numeral that is read back as the integer. -/
theorem spelling_of_integer (n : Int) :
    ((Value.int n).numberText = (Value.float (closest n)).numberText ↔ HasDoubleSpelling n) ∧
    (∀ a b : Node, a.kind = .literal → Fields.get? a.attrs "value" = some (.int n) →
      b.kind = .literal → Fields.get? b.attrs "value" = some (.float (closest n)) →
      (a.token? = b.token? ↔ HasDoubleSpelling n)) ∧
    (|n| ≤ 2 ^ 53 → HasDoubleSpelling n) ∧
    (|n| < 10 ^ 21 → (Parts.of (Num.int n).operandText.toList).value? = some (n : ℚ)) := by
  have hspelling := operandText_closest_iff n
  refine ⟨?_, ?_, hasDoubleSpelling_of_le, ?_⟩
  · rw [← hspelling]
    exact ⟨Except.ok.inj, congrArg Except.ok⟩
  · intro a b ha hav hb hbv
    rw [token?_of_literal ha hav rfl, token?_of_literal hb hbv rfl, ← hspelling]
    simp
  · intro hlt
    refine value?_operandText_int ?_
    rw [Int.abs_eq_natAbs] at hlt
    exact_mod_cast hlt

/-- A literal with a value. -/
def literalNode (v : Value) : Node := ⟨1, .literal, "Literal", none, [], [("value", v)]⟩

/-- `2^53` is one operand, written as an integer or as a double. -/
theorem spelling_of_greatestExact :
    |(9007199254740992 : Int)| ≤ 2 ^ 53 ∧
    (Value.int 9007199254740992).numberText = (Value.float (closest 9007199254740992)).numberText ∧
    (literalNode (.int 9007199254740992)).token? = (literalNode (.float (closest 9007199254740992))).token? ∧
    (Parts.of (Num.int 9007199254740992).operandText.toList).value? = some ((9007199254740992 : Int) : ℚ) := by
  obtain ⟨htext, htoken, hexact, hread⟩ := spelling_of_integer 9007199254740992
  have hspelling := hexact (by decide)
  exact ⟨by decide, htext.mpr hspelling, (htoken _ _ rfl rfl rfl rfl).mpr hspelling, hread (by decide)⟩

/-- The next integer is none: it is spelled by its own digits, and the closest double is `2^53`. Two literals that denote
one number are two operands. -/
theorem next_integer_keeps_digits :
    (Value.int 9007199254740993).numberText = .ok "9007199254740993" ∧
    (Value.float (closest 9007199254740993)).numberText = .ok "9007199254740992" ∧
    (literalNode (.int 9007199254740993)).token? = .ok (some (.operand (.str "9007199254740993"))) ∧
    (literalNode (.float (closest 9007199254740993))).token? = .ok (some (.operand (.str "9007199254740992"))) := by
  have hint : (Num.int 9007199254740993).operandText = "9007199254740993" := by rfl
  have hbits : nearestBits false 9007199254740993 1 = nearestBits false 9007199254740992 1 := by decide
  have hclosest : closest 9007199254740993 = closest 9007199254740992 :=
    congrArg (fun bits : Nat => Float.ofBits bits.toUInt64) hbits
  have hfloat : (Num.float (closest 9007199254740993)).operandText = "9007199254740992" := by
    rw [hclosest, ← (operandText_closest_iff 9007199254740992).mpr (hasDoubleSpelling_of_le (by decide))]
    rfl
  refine ⟨congrArg Except.ok hint, congrArg Except.ok hfloat, ?_, ?_⟩
  · exact token?_of_literal rfl rfl (congrArg Except.ok hint)
  · exact token?_of_literal rfl rfl (congrArg Except.ok hfloat)

end CodeMetrics.Number
