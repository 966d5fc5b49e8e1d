import CodeMetrics.Metrics.Halstead
import CodeMetrics.Proofs.Json.Numerals
import Mathlib

/-!
# The spelling of doubles as operands

A double that is neither zero nor infinite is spelled by the digits of its shortest decimal, with a point among them or
with an exponent behind them. The spelling is a decimal numeral of exactly the value of these digits, and nothing in it
can be left out; it belongs to one double only, since a decimal that reads back as a double does so for no other.

* `isSignificant_digits`, `shortest_mod_ne` — the digits of shortest decimals
* `Parts.of_numeral`, `Parts.value?_numeral` — numerals are read back
* `exists_tight_numeral` — spellings are numerals without needless zeros
* `isSpelling_decimal` — the layouts
-/

namespace CodeMetrics.Number

open Json

/-! ## Digits that count -/

/-- Digits that neither begin nor end with a zero. -/
structure IsSignificant (digits : List Char) : Prop where
  isDigits : IsDigits digits
  head : ∃ d ∈ digits.head?, d ≠ '0'
  last : ∃ d ∈ digits.getLast?, d ≠ '0'

theorem dropZeros_mod_ne {fuel c : Nat} (e : Int) (hc : 0 < c) (hlt : c < 10 ^ fuel) :
    (Decimal.dropZeros fuel c e).coefficient % 10 ≠ 0 := by
  induction fuel generalizing c e with
  | zero => omega
  | succ fuel ih =>
    unfold Decimal.dropZeros
    split
    · next hzero => exact ih _ (by omega) (by rw [pow_succ] at hlt; omega)
    · next hzero => exact fun hmod => hzero ⟨hc.ne', hmod⟩

/-- The coefficient of a shortest decimal is no multiple of ten. -/
theorem shortest_mod_ne {m : Nat} {q : Int} (h : 0 < (shortest m q).value) : (shortest m q).coefficient % 10 ≠ 0 := by
  obtain ⟨d, hd⟩ : ∃ d : Decimal, shortest m q = d.normalize := ⟨_, rfl⟩
  rw [hd, Decimal.value_normalize] at h
  rw [hd]
  exact dropZeros_mod_ne _ (Decimal.coefficient_pos h) (lt_pow_length_toDigits _)

theorem getLast?_toDigits (n : Nat) : (Nat.toDigits 10 n).getLast? = some (n % 10).digitChar := by
  rcases Nat.lt_or_ge n 10 with hlt | hge
  · rw [Nat.toDigits_of_lt_base hlt, Nat.mod_eq_of_lt hlt]
    rfl
  · rw [Nat.toDigits_of_base_le (by decide) hge, List.getLast?_append]
    rfl

theorem digitChar_mod_ne {n : Nat} (h : n % 10 ≠ 0) : (n % 10).digitChar ≠ '0' := by
  have hall : ∀ k < 10, k ≠ 0 → k.digitChar ≠ '0' := by decide
  exact hall (n % 10) (Nat.mod_lt _ (by decide)) h

theorem isSignificant_digits {d : Decimal} (hd : 0 < d.coefficient) (hmod : d.coefficient % 10 ≠ 0) :
    IsSignificant d.digits := by
  obtain ⟨first, others, hdigits, hfirst⟩ := head_toDigits_ne hd
  refine ⟨isDigits_digits d, ⟨first, ?_, hfirst⟩, _, getLast?_toDigits d.coefficient, digitChar_mod_ne hmod⟩
  rw [Decimal.digits, hdigits]
  exact rfl

/-- The number `0.d₁d₂… · 10^n`. -/
def significantValue (digits : List Char) (n : Int) : ℚ := digitsNat digits / 10 ^ digits.length * 10 ^ n

theorem significantValue_digits (d : Decimal) : significantValue d.digits d.scale = d.value := by
  rw [significantValue, Decimal.value, digitsNat_digits, exponent_eq d, zpow_sub₀ (by norm_num), zpow_natCast]
  ring

/-! ## Numerals taken apart -/

/-- The parts of a text that is read as a decimal numeral, and what is left of it. -/
structure Parts where
  negative : Bool
  whole : List Char
  places : List Char
  power : Option (Bool × List Char)
  rest : List Char

namespace Parts

/-- Takes a text apart: a sign, digits, a point with digits behind it, an exponent. -/
def of (cs : List Char) : Parts :=
  let negative := cs.head? == some '-'
  let body := if negative then cs.tail else cs
  let whole := body.takeWhile isDigit
  let afterWhole := fraction (body.drop whole.length)
  let afterPlaces := exponent afterWhole.2
  { negative, whole, places := afterWhole.1, power := afterPlaces.1, rest := afterPlaces.2 }

/-- The number that is read, unless there are no digits or something is left. -/
def value? (p : Parts) : Option ℚ :=
  if p.whole.isEmpty || !p.rest.isEmpty then none
  else some ((if p.negative then -1 else 1) * (digitsNat (p.whole ++ p.places) *
    10 ^ (exponentValue p.power - p.places.length)))

/-- No zero can be left out: neither in front of the other digits, nor behind the point at the end, nor in front of the
exponent. -/
structure IsTight (p : Parts) : Prop where
  whole : p.whole = ['0'] ∨ p.whole.head? ≠ some '0'
  places : p.places.getLast? ≠ some '0'
  power : ∀ e ∈ p.power, e.2.head? ≠ some '0'

theorem follows_nil : Follows [] := nofun

theorem of_numeral (negative : Bool) (n : Numeral) :
    Parts.of (minus negative ++ n.text) = ⟨negative, n.whole, n.places, n.power, []⟩ := by
  obtain ⟨d, others, hcons, hd⟩ := n.exists_first
  have hminus : d ≠ '-' := by
    rintro rfl
    cases hd
  have htext : n.text = n.whole ++ (n.placesText ++ n.powerText) := List.append_assoc ..
  have hnegative : ((minus negative ++ n.text).head? == some '-') = negative := by
    cases negative with
    | true => rfl
    | false => simp [minus, htext, hcons, hminus]
  have hbody : (if negative then (minus negative ++ n.text).tail else minus negative ++ n.text) = n.text := by
    cases negative <;> rfl
  -- what stands behind the whole digits does not go on with a digit, be it a point, an exponent or nothing
  have hwhole : n.text.takeWhile isDigit = n.whole := by
    have hnext := Numeral.noDigit_placesText (n := n) follows_nil
    rw [List.append_nil] at hnext
    rw [htext]
    exact (takeWhile_digits n.whole_digits hnext).1
  have hdrop : n.text.drop n.whole.length = n.placesText ++ n.powerText := by rw [htext, List.drop_left]
  have hplaces := Numeral.fraction_placesText (n := n) follows_nil
  have hpower := Numeral.exponent_powerText (n := n) follows_nil
  rw [List.append_nil] at hplaces hpower
  unfold Parts.of
  dsimp only
  rw [hnegative, hbody, hwhole, hdrop, hplaces]
  dsimp only
  rw [hpower]

theorem value?_numeral (negative : Bool) (n : Numeral) :
    (Parts.of (minus negative ++ n.text)).value? = some ((if negative then -1 else 1) * n.value) := by
  obtain ⟨d, others, hcons, -⟩ := n.exists_first
  have hwhole : n.whole.isEmpty = false := by rw [hcons]; rfl
  rw [of_numeral, value?, hwhole]
  rfl

end Parts

/-- Behind digits that follow something else than a point there is no point before the last one. -/
theorem not_point_zero_of_digits {before digits : List Char} {c : Char} (hc : c ≠ '.') (hdigits : IsDigits digits)
    (hne : digits ≠ []) : ¬['.', '0'] <:+ before ++ c :: digits := by
  rintro ⟨front, hfront⟩
  have hlast := congrArg List.dropLast hfront
  rw [List.dropLast_append_of_ne_nil (by simp), List.dropLast_append_of_ne_nil (by simp),
    List.dropLast_cons_of_ne_nil hne] at hlast
  have hpoint := congrArg List.getLast? hlast
  rw [List.getLast?_append_of_ne_nil _ (by simp), List.getLast?_append_of_ne_nil _ (by simp)] at hpoint
  have hmem : '.' ∈ c :: digits.dropLast := List.mem_of_getLast? hpoint.symm
  rcases List.mem_cons.mp hmem with hsame | hmem
  · exact hc hsame.symm
  · cases hdigits '.' (List.mem_of_mem_dropLast hmem)

/-- A numeral in which no zero can be left out. -/
structure IsTightNumeral (n : Numeral) : Prop where
  places : n.places.getLast? ≠ some '0'
  power : ∀ e ∈ n.power, e.2.head? ≠ some '0'

namespace IsTightNumeral

variable {n : Numeral}

theorem parts (h : IsTightNumeral n) (negative : Bool) : (Parts.of (minus negative ++ n.text)).IsTight := by
  rw [Parts.of_numeral]
  refine ⟨n.whole_start.imp_right ?_, h.places, h.power⟩
  rintro ⟨d, rest, hwhole, hd⟩
  rw [hwhole]
  exact fun hzero => hd (Option.some.inj hzero)

theorem not_point_zero (h : IsTightNumeral n) (negative : Bool) : ¬['.', '0'] <:+ minus negative ++ n.text := by
  unfold Numeral.text Numeral.placesText Numeral.powerText
  cases hpower : n.power with
  | some e =>
    -- the text ends in the digits of the exponent, behind its sign
    obtain ⟨hne, hdigits⟩ := n.power_digits e hpower
    obtain ⟨sign, digits⟩ := e
    have hsplit : minus negative ++ (n.whole ++ (if n.places.isEmpty then [] else '.' :: n.places) ++
        'e' :: (if sign then '-' else '+') :: digits) =
        (minus negative ++ n.whole ++ (if n.places.isEmpty then [] else '.' :: n.places) ++ ['e']) ++
          (if sign then '-' else '+') :: digits := by simp
    dsimp only
    rw [hsplit]
    refine not_point_zero_of_digits ?_ hdigits hne
    cases sign <;> decide
  | none =>
    rintro ⟨front, hfront⟩
    cases hplaces : n.places with
    | nil =>
      have hpoint : '.' ∈ minus negative ++ n.whole := by
        rw [hplaces] at hfront
        simpa using congrArg ('.' ∈ ·) hfront
      rcases List.mem_append.mp hpoint with hsign | hwhole
      · cases negative <;> simp [minus] at hsign
      · cases n.whole_digits '.' hwhole
    | cons c places =>
      have hlast := congrArg List.getLast? hfront
      refine h.places ?_
      rw [hplaces] at hlast ⊢
      simpa using hlast.symm

end IsTightNumeral

/-- There is an exponent exactly if there is an `e`. -/
theorem e_mem_iff (n : Numeral) (negative : Bool) : 'e' ∈ minus negative ++ n.text ↔ n.power ≠ none := by
  have hdigits : ∀ cs, IsDigits cs → 'e' ∉ cs := fun cs hcs he => by cases hcs 'e' he
  have hminus : 'e' ∉ minus negative := by cases negative <;> decide
  have hplaces : 'e' ∉ n.placesText := by
    unfold Numeral.placesText
    split
    · exact List.not_mem_nil
    · exact List.not_mem_cons_of_ne_of_not_mem (by decide) (hdigits _ n.places_digits)
  rw [Numeral.text, List.mem_append, List.mem_append, List.mem_append, Numeral.powerText]
  cases n.power with
  | none => simp [hminus, hplaces, hdigits _ n.whole_digits]
  | some e => simp

/-! ## Layouts -/

/-- How digits are written for a scale: as a whole number, with a point among them, with zeros behind a point, or with
an exponent. -/
structure IsSpelling (digits : List Char) (n : Int) (body : List Char) : Prop where
  whole : digits.length ≤ n → n ≤ 21 → body = digits ++ List.replicate (n - digits.length).toNat '0'
  within : 0 < n → n < digits.length → n ≤ 21 → body = digits.take n.toNat ++ '.' :: digits.drop n.toNat
  below : -6 < n → n ≤ 0 → body = '0' :: '.' :: (List.replicate (-n).toNat '0' ++ digits)
  exponential : ¬(-6 < n ∧ n ≤ 21) → body = digits.take 1 ++ (if digits.tail = [] then [] else '.' :: digits.tail) ++
    'e' :: (if 0 ≤ n - 1 then '+' else '-') :: Nat.toDigits 10 (n - 1).natAbs

theorem padLeft_one (k : Nat) : padLeft 1 (Nat.toDigits 10 k) = Nat.toDigits 10 k := by
  have hpos := List.length_pos_iff.mpr (Nat.toDigits_ne_nil : Nat.toDigits 10 k ≠ [])
  rw [padLeft, Nat.sub_eq_zero_of_le hpos]
  rfl

section Layout

variable {d : Decimal}

theorem operand_decimal_eq (d : Decimal) : Style.operand.decimal d =
    if -5 ≤ d.scale ∧ d.scale ≤ 21 then Style.operand.positional d.digits d.scale
    else Style.operand.exponential d.digits d.scale := rfl

theorem operand_positional_eq (digits : List Char) (n : Int) : Style.operand.positional digits n =
    if n ≤ 0 then '0' :: '.' :: (List.replicate (-n).toNat '0' ++ digits)
    else if (digits.length : Int) ≤ n then digits ++ List.replicate (n.toNat - digits.length) '0'
    else digits.take n.toNat ++ '.' :: digits.drop n.toNat := by
  unfold Style.positional
  congr 2
  exact List.append_nil _

theorem operand_exponential_eq {digits : List Char} (h : digits ≠ []) (n : Int) : Style.operand.exponential digits n =
    digits.take 1 ++ (if digits.tail = [] then [] else '.' :: digits.tail) ++
      'e' :: (if 0 ≤ n - 1 then '+' else '-') :: Nat.toDigits 10 (n - 1).natAbs := by
  have hpad : padLeft Style.operand.exponentDigits (Nat.toDigits 10 (n - 1).natAbs) = _ := padLeft_one _
  have hsign : (if n - 1 < 0 then '-' else '+') = if 0 ≤ n - 1 then '+' else '-' := by
    split <;> split <;> first | rfl | omega
  unfold Style.exponential
  dsimp only
  rw [hpad, hsign]
  cases digits with
  | nil => exact absurd rfl h
  | cons first others => cases others <;> simp

theorem getLast?_digits_ne (hmod : d.coefficient % 10 ≠ 0) : d.digits.getLast? ≠ some '0' := by
  rw [Decimal.digits, getLast?_toDigits]
  exact fun hzero => digitChar_mod_ne hmod (Option.some.inj hzero)

variable (hd : 0 < d.coefficient)

include hd

theorem length_digits_pos : 0 < d.digits.length := by
  obtain ⟨first, others, hdigits, -⟩ := head_toDigits_ne hd
  rw [Decimal.digits, hdigits]
  exact Nat.succ_pos _

theorem isSpelling_decimal : IsSpelling d.digits d.scale (Style.operand.decimal d) := by
  have hlength := length_digits_pos hd
  rw [operand_decimal_eq]
  constructor
  · intro hlow hhigh
    rw [if_pos ⟨by omega, hhigh⟩, operand_positional_eq, if_neg (by omega), if_pos hlow]
    congr 2
    omega
  · intro hlow hless hhigh
    rw [if_pos ⟨by omega, hhigh⟩, operand_positional_eq, if_neg (by omega), if_neg (by omega)]
  · intro hlow hhigh
    rw [if_pos ⟨by omega, by omega⟩, operand_positional_eq, if_pos hhigh]
  · intro hout
    rw [if_neg (by omega), operand_exponential_eq (List.length_pos_iff.mp hlength)]

theorem exists_tight_numeral (hmod : d.coefficient % 10 ≠ 0) : ∃ n : Numeral, Style.operand.decimal d = n.text ∧
    n.value = d.value ∧ IsTightNumeral n ∧ (n.power = none ↔ -6 < d.scale ∧ d.scale ≤ 21) := by
  have hlast := getLast?_digits_ne hmod
  have hlength := length_digits_pos hd
  rw [operand_decimal_eq]
  split
  · next hscale =>
    have hpositional : ∀ n : Numeral, n.power = none → (n.power = none ↔ -6 < d.scale ∧ d.scale ≤ 21) :=
      fun n hpower => ⟨fun _ => ⟨by omega, hscale.2⟩, fun _ => hpower⟩
    rw [operand_positional_eq]
    split
    -- the last place is the last digit, and so is not zero, unless there are no places
    · next hbelow =>
      obtain ⟨n, htext, hvalue, -, hplaces, hpower⟩ := exists_numeral_below hd hbelow
      refine ⟨n, htext, hvalue, ⟨?_, by simp [hpower]⟩, hpositional n hpower⟩
      rw [hplaces, List.getLast?_append_of_ne_nil _ (List.length_pos_iff.mp hlength)]
      exact hlast
    · next hnot =>
      split
      · next habove =>
        obtain ⟨n, htext, hvalue, -, hplaces, hpower⟩ := exists_numeral_above hd habove false
        rw [if_neg Bool.false_ne_true, List.append_nil] at htext
        exact ⟨n, htext, hvalue, ⟨by simp [hplaces], by simp [hpower]⟩, hpositional n hpower⟩
      · next hless =>
        obtain ⟨n, htext, hvalue, -, hplaces, hpower⟩ := exists_numeral_within hd (by omega) (by omega)
        refine ⟨n, htext, hvalue, ⟨?_, by simp [hpower]⟩, hpositional n hpower⟩
        rw [hplaces, List.getLast?_drop, if_neg (by omega)]
        exact hlast
  · next hscale =>
    obtain ⟨n, htext, hvalue, -, hplaces, hpower⟩ := exists_numeral_exponential Style.operand hd
    refine ⟨n, htext, hvalue, ⟨?_, ?_⟩, ?_⟩
    · rw [hplaces, List.getLast?_tail]
      split
      · exact nofun
      · exact hlast
    · intro e he
      rw [hpower] at he
      obtain ⟨first, others, hdigits, hfirst⟩ := head_toDigits_ne (by omega : 0 < (d.scale - 1).natAbs)
      have hpad : padLeft Style.operand.exponentDigits (Nat.toDigits 10 (d.scale - 1).natAbs) = _ := padLeft_one _
      rw [← Option.some.inj he, hpad, hdigits]
      exact fun hzero => hfirst (Option.some.inj hzero)
    · rw [hpower]
      exact ⟨fun h => absurd h (Option.some_ne_none _), fun h => absurd ⟨Int.add_one_le_of_lt h.1, h.2⟩ hscale⟩

end Layout

/-! ## Spellings -/

section Spelling

variable {x y : Float} {negative negative' : Bool} {m m' : Nat} {q q' : Int}

theorem toList_operandText (hx : Binary.ofFloat x = .finite negative m q) (hm : m ≠ 0) :
    (Num.float x).operandText.toList = minus negative ++ Style.operand.decimal (shortest m q) := by
  rw [Num.operandText, Style.text, hx]
  dsimp only
  rw [if_neg hm, toList_signed]

/-- What is known of the shortest decimal of a double. -/
theorem shortest_spec (hx : Binary.ofFloat x = .finite negative m q) (hm : m ≠ 0) :
    Near m q (shortest m q).value ∧ 0 < (shortest m q).value ∧ 0 < (shortest m q).coefficient ∧
      (shortest m q).coefficient % 10 ≠ 0 := by
  obtain ⟨-, hcanonical, -⟩ := isCanonical_of_ofFloat hx (Nat.pos_of_ne_zero hm)
  have hnear := near_shortest hcanonical
  have hpos := hnear.pos (Nat.pos_of_ne_zero hm)
  exact ⟨hnear, hpos, Decimal.coefficient_pos hpos, shortest_mod_ne hpos⟩

theorem value?_operandText (hx : Binary.ofFloat x = .finite negative m q) (hm : m ≠ 0) :
    (Parts.of (Num.float x).operandText.toList).value? = some ((if negative then -1 else 1) * (shortest m q).value) := by
  obtain ⟨-, -, hcoefficient, hmod⟩ := shortest_spec hx hm
  obtain ⟨n, htext, hvalue, -⟩ := exists_tight_numeral hcoefficient hmod
  rw [toList_operandText hx hm, htext, Parts.value?_numeral, hvalue]

/-- Two doubles with the same spelling are the same. -/
theorem eq_of_operandText_eq (hx : Binary.ofFloat x = .finite negative m q) (hm : m ≠ 0)
    (hy : Binary.ofFloat y = .finite negative' m' q') (hm' : m' ≠ 0)
    (h : (Num.float x).operandText = (Num.float y).operandText) : x = y := by
  obtain ⟨hnear, hpos, -⟩ := shortest_spec hx hm
  obtain ⟨hnear', hpos', -⟩ := shortest_spec hy hm'
  -- the value is read back with its sign, and both doubles are the ones that this value reads as
  have hvalue := value?_operandText hx hm
  rw [h, value?_operandText hy hm', Option.some_inj] at hvalue
  have hsame : negative' = negative ∧ (shortest m' q').value = (shortest m q).value := by
    cases negative <;> cases negative' <;> simp at hvalue ⊢ <;> linarith
  obtain ⟨rfl, hsame⟩ := hsame
  rw [hsame] at hnear'
  rw [← ofDecimal_of_near hx (Nat.pos_of_ne_zero hm) hnear, ← ofDecimal_of_near hy (Nat.pos_of_ne_zero hm') hnear']

/-- **Doubles are spelled by the digits of their shortest decimals.** The digits neither begin nor end with a zero, and the
double is read back from them. They are written as a whole number or with a point exactly from a scale of minus five to
one of twenty-one, and with an exponent otherwise. The spelling is read back as exactly the number that the digits stand
for, no zero in it can be left out, and no other double has it. -/
theorem spelling_of_double (hx : Binary.ofFloat x = .finite negative m q) (hm : m ≠ 0) :
    let digits := (shortest m q).digits
    let n := (shortest m q).scale
    let text := (Num.float x).operandText.toList
    (Value.float x).numberText = .ok (Num.float x).operandText ∧
    (Value.float x).literalText = .ok (Num.float x).operandText ∧
    IsSignificant digits ∧
    ofDecimal negative (digitsNat digits) (n - digits.length) = x ∧
    (∃ body, text = minus negative ++ body ∧ IsSpelling digits n body) ∧
    (Parts.of text).value? = some ((if negative then -1 else 1) * significantValue digits n) ∧
    ('e' ∈ text ↔ ¬(-6 < n ∧ n ≤ 21)) ∧
    ¬['.', '0'] <:+ text ∧
    (Parts.of text).IsTight ∧
    ∀ y negative' m' q', Binary.ofFloat y = .finite negative' m' q' → m' ≠ 0 →
      (Num.float y).operandText = (Num.float x).operandText → y = x := by
  intro digits n text
  obtain ⟨hnear, -, hcoefficient, hmod⟩ := shortest_spec hx hm
  have htext : text = minus negative ++ Style.operand.decimal (shortest m q) := toList_operandText hx hm
  obtain ⟨numeral, hnumeral, -, htight, hpower⟩ := exists_tight_numeral hcoefficient hmod
  refine ⟨rfl, rfl, isSignificant_digits hcoefficient hmod, ?_, ⟨_, htext, isSpelling_decimal hcoefficient⟩, ?_, ?_, ?_,
    ?_, ?_⟩
  · rw [digitsNat_digits, ← exponent_eq]
    exact ofDecimal_of_near hx (Nat.pos_of_ne_zero hm) hnear
  · rw [value?_operandText hx hm, significantValue_digits]
  · rw [htext, hnumeral, e_mem_iff, ne_eq, hpower]
  · rw [htext, hnumeral]
    exact htight.not_point_zero negative
  · rw [htext, hnumeral]
    exact htight.parts negative
  · exact fun y negative' m' q' hy hm' => eq_of_operandText_eq hy hm' hx hm

/-- The double closest to `-1.5e-7`. -/
def smallDouble : Float := Float.ofBits 13728134904377344886

theorem ofFloat_smallDouble : Binary.ofFloat smallDouble = .finite true 5666839779443574 (-75) := by decide

theorem shortest_smallDouble : shortest 5666839779443574 (-75) = ⟨15, -8⟩ := by decide +kernel

theorem operandText_smallDouble : (Num.float smallDouble).operandText = "-1.5e-7" := by decide +kernel

/-- It is the only double that is spelled so. -/
theorem spelling_of_smallDouble :
    (Value.float smallDouble).literalText = .ok "-1.5e-7" ∧
    (Parts.of "-1.5e-7".toList).value? = some (-1 * significantValue ['1', '5'] (-6)) ∧
    (Parts.of "-1.5e-7".toList).IsTight ∧
    ∀ y negative m q, Binary.ofFloat y = .finite negative m q → m ≠ 0 → (Num.float y).operandText = "-1.5e-7" →
      y = smallDouble := by
  obtain ⟨-, hliteral, -, -, -, hvalue, -, -, htight, honly⟩ := spelling_of_double ofFloat_smallDouble (by decide)
  rw [operandText_smallDouble] at hliteral hvalue htight honly
  rw [shortest_smallDouble] at hvalue
  exact ⟨hliteral, hvalue, htight, honly⟩

end Spelling

end CodeMetrics.Number
