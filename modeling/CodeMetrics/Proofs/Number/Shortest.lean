import CodeMetrics.Proofs.Number.Near

/-!
# Shortest decimals are read back

The shortest decimal of a double is one that is read as the double. A grid has a hit as soon as its step is less than the
distance of the midpoints, for then one of the two neighbours of the double on the grid lies between them; the grid of
seventeen digits is fine enough for every double, so the search does not come to its end without one.

* `onGrid_isSome` — when a grid has a hit
* `near_shortest` — the shortest decimal
-/

namespace CodeMetrics.Number

/-! ## Values of decimals -/

/-- The number that a decimal is. -/
def Decimal.value (d : Decimal) : ℚ := d.coefficient * 10 ^ d.exponent

theorem Decimal.value_dropZeros (fuel c : Nat) (e : Int) : (dropZeros fuel c e).value = c * 10 ^ e := by
  induction fuel generalizing c e with
  | zero => rfl
  | succ fuel ih =>
    unfold dropZeros
    split
    · next hzero =>
      have hc : (c : ℚ) = 10 * (c / 10 : Nat) := by exact_mod_cast (Nat.mul_div_cancel' (Nat.dvd_of_mod_eq_zero hzero.2)).symm
      rw [ih, hc, zpow_add_one₀ (by norm_num)]
      ring
    · rfl

theorem Decimal.value_normalize (d : Decimal) : d.normalize.value = d.value := value_dropZeros ..

/-- A positive number has a positive coefficient. -/
theorem Decimal.coefficient_pos {d : Decimal} (h : 0 < d.value) : 0 < d.coefficient := by
  refine Nat.pos_of_ne_zero fun hzero => h.ne' ?_
  rw [value, hzero, Nat.cast_zero, zero_mul]

/-! ## Grids -/

/-- A power with an integral exponent, as a quotient of natural powers. -/
theorem pow_toNat_div (b : Nat) (e : Int) : ((b ^ e.toNat : Nat) : ℚ) / (b ^ (-e).toNat : Nat) = (b : ℚ) ^ e := by
  rcases le_total 0 e with he | he
  · rw [Int.toNat_eq_zero.mpr (by omega : -e ≤ 0), pow_zero, Nat.cast_one, div_one, Nat.cast_pow, ← zpow_natCast,
      Int.toNat_of_nonneg he]
  · rw [Int.toNat_eq_zero.mpr he, pow_zero, Nat.cast_one, Nat.cast_pow, one_div, ← zpow_natCast,
      Int.toNat_of_nonneg (by omega), ← zpow_neg, neg_neg]

theorem gridFactors_pos (q s : Int) : 0 < (gridFactors q s).1 ∧ 0 < (gridFactors q s).2 :=
  ⟨Nat.mul_pos (Nat.pow_pos (by decide)) (Nat.pow_pos (by decide)),
    Nat.mul_pos (Nat.pow_pos (by decide)) (Nat.pow_pos (by decide))⟩

/-- The quotient of the factors is the step of the grid, in quarters of the last binary place. -/
theorem gridFactors_div (q s : Int) :
    ((gridFactors q s).1 : ℚ) / (gridFactors q s).2 = 10 ^ s / 2 ^ (q - 2) := by
  have hten := pow_toNat_div 10 s
  have htwo := pow_toNat_div 2 (q - 2)
  rw [Nat.cast_ofNat] at hten htwo
  have hfactors : gridFactors q s = (10 ^ s.toNat * 2 ^ (-(q - 2)).toNat, 2 ^ (q - 2).toNat * 10 ^ (-s).toNat) := rfl
  rw [← hten, ← htwo, hfactors, Nat.cast_mul, Nat.cast_mul, div_div_div_eq, mul_comm ((10 ^ (-s).toNat : Nat) : ℚ)]

theorem Interval.contains_iff {i : Interval} {a b c : Nat} (hb : 0 < b) :
    i.contains a b c = true ↔ i.Holds ((c : ℚ) * (a / b)) := by
  have hpos : (0 : ℚ) < b := Nat.cast_pos.mpr hb
  have hle : (i.lower : ℚ) ≤ c * (a / b) ↔ i.lower * b ≤ c * a := by
    rw [← mul_div_assoc, le_div_iff₀ hpos]
    exact_mod_cast Iff.rfl
  have hge : (c : ℚ) * (a / b) ≤ i.upper ↔ c * a ≤ i.upper * b := by
    rw [← mul_div_assoc, div_le_iff₀ hpos]
    exact_mod_cast Iff.rfl
  have heqLower : (c : ℚ) * (a / b) = i.lower ↔ c * a = i.lower * b := by
    rw [← mul_div_assoc, div_eq_iff hpos.ne']
    exact_mod_cast Iff.rfl
  have heqUpper : (c : ℚ) * (a / b) = i.upper ↔ c * a = i.upper * b := by
    rw [← mul_div_assoc, div_eq_iff hpos.ne']
    exact_mod_cast Iff.rfl
  have hholds : i.Holds ((c : ℚ) * (a / b)) ↔ i.lower * b ≤ c * a ∧ c * a ≤ i.upper * b ∧
      (c * a = i.lower * b ∨ c * a = i.upper * b → i.closed = true) :=
    ⟨fun ⟨h₁, h₂, h₃⟩ => ⟨hle.mp h₁, hge.mp h₂, fun h => h₃ (h.imp heqLower.mpr heqUpper.mpr)⟩,
      fun ⟨h₁, h₂, h₃⟩ => ⟨hle.mpr h₁, hge.mpr h₂, fun h => h₃ (h.imp heqLower.mp heqUpper.mp)⟩⟩
  rw [hholds]
  unfold contains
  cases i.closed with
  | true => simp
  | false =>
    simp only [Bool.false_eq_true, if_false, Bool.and_eq_true, decide_eq_true_eq, imp_false, not_or]
    omega

section Grid

variable {m : Nat} {q s : Int}

/-- What is found on a grid is read as the double. -/
theorem near_onGrid {c : Nat} (h : onGrid m q s = some c) : Near m q (c * 10 ^ s) := by
  have hb := (gridFactors_pos q s).2
  have hcontains : (Interval.ofBinary m q).contains (gridFactors q s).1 (gridFactors q s).2 c = true := by
    unfold onGrid at h
    dsimp only at h
    split at h
    · next hdown hup =>
      have hc := Option.some.inj h
      split_ifs at hc <;> subst hc
      · exact hdown
      · exact hup
      · exact hdown
      · exact hup
    · next hdown _ =>
      cases h
      exact hdown
    · next _ hup =>
      cases h
      exact hup
    · cases h
  rw [Interval.contains_iff hb, gridFactors_div, ← mul_div_assoc] at hcontains
  exact hcontains

theorem onGrid_isSome_of_contains {down : Nat} (hdown : down = 4 * m * (gridFactors q s).2 / (gridFactors q s).1)
    (h : (Interval.ofBinary m q).contains (gridFactors q s).1 (gridFactors q s).2 down = true ∨
      (Interval.ofBinary m q).contains (gridFactors q s).1 (gridFactors q s).2 (down + 1) = true) :
    (onGrid m q s).isSome = true := by
  subst hdown
  unfold onGrid
  dsimp only
  split
  · rfl
  · rfl
  · rfl
  · next hnone hnone' => exact absurd h (not_or.mpr ⟨Bool.eq_false_iff.mp hnone, Bool.eq_false_iff.mp hnone'⟩)

/-- **A grid has a hit if its step is less than the width of the interval.** -/
theorem onGrid_isSome (hm : 0 < m)
    (hstep : 10 ^ s / 2 ^ (q - 2) < ((Interval.ofBinary m q).upper : ℚ) - (Interval.ofBinary m q).lower) :
    (onGrid m q s).isSome = true := by
  obtain ⟨ha, hb⟩ := gridFactors_pos q s
  have hstep' := gridFactors_div q s
  have hpos : (0 : ℚ) < (gridFactors q s).1 / (gridFactors q s).2 :=
    div_pos (Nat.cast_pos.mpr ha) (Nat.cast_pos.mpr hb)
  obtain ⟨down, hdown⟩ : ∃ down, down = 4 * m * (gridFactors q s).2 / (gridFactors q s).1 := ⟨_, rfl⟩
  -- The double stands between its two neighbours.
  have hbelow : (down : ℚ) * ((gridFactors q s).1 / (gridFactors q s).2) ≤ 4 * m := by
    rw [← mul_div_assoc, div_le_iff₀ (Nat.cast_pos.mpr hb), hdown]
    exact_mod_cast Nat.div_mul_le_self (4 * m * (gridFactors q s).2) (gridFactors q s).1
  have habove : 4 * m < ((down + 1 : Nat) : ℚ) * ((gridFactors q s).1 / (gridFactors q s).2) := by
    rw [← mul_div_assoc, lt_div_iff₀ (Nat.cast_pos.mpr hb), hdown]
    exact_mod_cast Nat.lt_mul_of_div_lt (Nat.lt_succ_self _) ha
  refine onGrid_isSome_of_contains hdown ?_
  rw [Interval.contains_iff hb, Interval.contains_iff hb]
  rw [← hstep'] at hstep
  generalize ((gridFactors q s).1 : ℚ) / (gridFactors q s).2 = step at *
  have hupper := @cast_upper m q
  have hlower : ((Interval.ofBinary m q).lower : ℚ) < 4 * m := by
    rw [cast_lower hm]
    split_ifs <;> linarith
  push_cast at habove ⊢
  by_cases hlow : ((Interval.ofBinary m q).lower : ℚ) < down * step
  · refine .inl ⟨hlow.le, by linarith, fun hend => ?_⟩
    rcases hend with hend | hend <;> linarith
  · refine .inr ⟨by linarith, by linarith, fun hend => ?_⟩
    rcases hend with hend | hend <;> linarith

end Grid

/-! ## Shortest decimals -/

section Shortest

variable {m : Nat} {q : Int}

/-- The number is scaled up by a power of ten, of which the whole part has digits. -/
theorem scaleOf_eq (m : Nat) (q : Int) :
    scaleOf m q = ((Nat.toDigits 10 ⌊(m : ℚ) * 2 ^ q * pow10 340⌋₊).length : Int) - 340 := by
  have hwhole : (if 0 ≤ q then m * pow2 q.toNat * pow10 340 else m * pow10 340 / pow2 (-q).toNat)
      = ⌊(m : ℚ) * 2 ^ q * pow10 340⌋₊ := by
    split
    · next hq => rw [← cast_pow2 hq, ← Nat.cast_mul, ← Nat.cast_mul, Nat.floor_natCast]
    · next hq =>
      have hquotient : (m : ℚ) * 2 ^ q * pow10 340 = (m * pow10 340 : Nat) / (pow2 (-q).toNat : Nat) := by
        rw [Nat.cast_mul, cast_pow2 (by omega), zpow_neg, div_inv_eq_mul, mul_right_comm]
      rw [hquotient, Nat.floor_div_eq_div]
  unfold scaleOf
  dsimp only
  rw [hwhole]

theorem one_le_raised (h : IsCanonical m q) : (1 : ℚ) ≤ m * 2 ^ q * pow10 340 := by
  have hm : (1 : ℚ) ≤ m := by exact_mod_cast h.pos
  have hleast : (2 : ℚ) ^ (-1105 : ℤ) ≤ 2 ^ q := zpow_le_zpow_right₀ one_le_two (by have hq := h.least; omega)
  have hpower : (2 : ℚ) ^ (1105 : ℤ) ≤ pow10 340 := by
    rw [← cast_pow2 (by norm_num)]
    exact_mod_cast pow2_le_pow10 85
  calc (1 : ℚ) = 1 * 2 ^ (-1105 : ℤ) * 2 ^ (1105 : ℤ) := by rw [mul_assoc, ← zpow_add₀ two_ne_zero]; norm_num
    _ ≤ m * 2 ^ q * pow10 340 := by gcongr

theorem scaleOf_le (h : IsCanonical m q) : (10 : ℚ) ^ (scaleOf m q - 1) ≤ m * 2 ^ q := by
  have hten : (10 : ℚ) ≠ 0 := by norm_num
  have hraised := scaleOf_eq m q
  have hpos := Nat.floor_pos.mpr (one_le_raised h)
  have hle := Nat.floor_le (zero_le_one.trans (one_le_raised h))
  generalize ⌊(m : ℚ) * 2 ^ q * pow10 340⌋₊ = raised at *
  have hlow : (10 : ℚ) ^ ((Nat.toDigits 10 raised).length - 1) ≤ raised := by exact_mod_cast pow_length_toDigits_le hpos
  have hlength : 0 < (Nat.toDigits 10 raised).length := Nat.length_toDigits_pos
  have hraise : (pow10 340 : ℚ) = 10 ^ (340 : ℤ) := cast_pow10 (e := 340) (by norm_num)
  have hexponent : scaleOf m q - 1 = (((Nat.toDigits 10 raised).length - 1 : Nat) : Int) - 340 := by omega
  rw [hexponent, zpow_sub₀ hten, zpow_natCast, div_le_iff₀ (zpow_pos (by norm_num) _), ← hraise]
  exact hlow.trans hle

/-- Seventeen digits suffice. -/
theorem onGrid_seventeen (h : IsCanonical m q) : (onGrid m q (scaleOf m q - 1 - 16)).isSome = true := by
  refine onGrid_isSome h.pos ?_
  have hlast : (m : ℚ) + 1 ≤ 2 ^ 53 := by exact_mod_cast h.lt
  have hstep : (10 : ℚ) ^ (scaleOf m q - 1 - 16) / 2 ^ (q - 2) ≤ 4 * m / 10 ^ 16 := by
    rw [div_le_iff₀ (zpow_two_pos _), zpow_sub₀ (by norm_num), div_mul_eq_mul_div]
    refine div_le_div_of_nonneg_right ((scaleOf_le h).trans (le_of_eq ?_)) (by positivity)
    rw [mul_comm 4, mul_assoc, show (4 : ℚ) = 2 ^ (2 : ℤ) by norm_num, ← zpow_add₀ two_ne_zero, add_sub_cancel]
  rw [cast_upper, cast_lower h.pos]
  split_ifs with hnarrow
  · have hm : (m : ℚ) = 2 ^ 52 := by
      rw [hnarrow.1]
      norm_num [pow2]
    rw [hm] at hstep ⊢
    norm_num at hstep ⊢
    linarith
  · norm_num at hstep hlast ⊢
    linarith

/-- **The shortest decimal is read as the double.** -/
theorem near_shortest (h : IsCanonical m q) : Near m q (shortest m q).value := by
  obtain ⟨c, hc⟩ := Option.isSome_iff_exists.mp (onGrid_seventeen h)
  unfold shortest
  extract_lets k found
  rw [Decimal.value_normalize]
  cases hfound : found with
  | none =>
    have hmiss := List.findSome?_eq_none_iff.mp hfound 16 (by decide)
    rw [Option.map_eq_none_iff] at hmiss
    cases hmiss.symm.trans hc
  | some d =>
    obtain ⟨i, -, hi⟩ := List.exists_of_findSome?_eq_some hfound
    obtain ⟨c', hgrid, rfl⟩ := Option.map_eq_some_iff.mp hi
    exact near_onGrid hgrid

end Shortest

end CodeMetrics.Number
