import CodeMetrics.Json.Reader
import CodeMetrics.Json.Writer
import CodeMetrics.Proofs.Number.Shortest

/-!
# Numbers are read back

What a style lays out is a numeral: digits, further digits behind a point, and an exponent with its sign, of which the last
two may be missing. Its value is that of the decimal that is laid out (`exists_numeral`). The reader takes a numeral apart
into these three (`number_numeral`), so that it reads every whole number and every double back from its text.

* `value_intText` — whole numbers
* `value_floatText` — doubles, those that are not finite included
-/

namespace CodeMetrics.Json

open Number

/-! ## Digits -/

theorem isDigit_iff {c : Char} : isDigit c = true ↔ c.isDigit = true := by
  rw [isDigit, Bool.and_eq_true, decide_eq_true_eq, decide_eq_true_eq, Char.isDigit_iff_toNat]
  exact Iff.rfl

/-- A row of digits. -/
def IsDigits (cs : List Char) : Prop := ∀ c ∈ cs, isDigit c = true

theorem IsDigits.nil : IsDigits [] := List.forall_mem_nil _

theorem IsDigits.append {as bs : List Char} (ha : IsDigits as) (hb : IsDigits bs) : IsDigits (as ++ bs) := fun c hc =>
  (List.mem_append.mp hc).elim (ha c) (hb c)

theorem IsDigits.zeros (n : Nat) : IsDigits (List.replicate n '0') := fun _ hc => by
  rw [List.eq_of_mem_replicate hc]
  rfl

theorem isDigits_toDigits (n : Nat) : IsDigits (Nat.toDigits 10 n) := fun _ hc =>
  isDigit_iff.mpr (Nat.isDigit_of_mem_toDigits (by decide) (by decide) hc)

theorem length_toDigits_le {n limit : Nat} (hlimit : 0 < limit) (h : n < pow10 limit) :
    (Nat.toDigits 10 n).length ≤ limit :=
  (Nat.length_toDigits_le_iff (by decide) hlimit).mpr h

theorem digitsNat_append (as bs : List Char) : digitsNat (as ++ bs) = digitsNat as * 10 ^ bs.length + digitsNat bs := by
  have happend : digitsNat (as ++ bs) = Nat.ofDigitChars 10 bs (digitsNat as) := Nat.ofDigitChars_append 0
  rw [happend, Nat.ofDigitChars_eq_ofDigitChars_zero, Nat.mul_comm]
  rfl

theorem digitsNat_zeros (n : Nat) : digitsNat (List.replicate n '0') = 0 :=
  Nat.ofDigitChars_replicate_zero

theorem digitsNat_zeros_append (n : Nat) (cs : List Char) : digitsNat (List.replicate n '0' ++ cs) = digitsNat cs := by
  rw [digitsNat_append, digitsNat_zeros, Nat.zero_mul, Nat.zero_add]

theorem digitsNat_toDigits (n : Nat) : digitsNat (Nat.toDigits 10 n) = n :=
  Nat.ofDigitChars_toDigits (by decide) (by decide)

/-- A positive number does not start with a zero. -/
theorem head_toDigits_ne {n : Nat} (hn : 0 < n) : ∃ d rest, Nat.toDigits 10 n = d :: rest ∧ d ≠ '0' := by
  induction n using Nat.strongRecOn with
  | ind n ih =>
    rcases Nat.lt_or_ge n 10 with hlt | hge
    · refine ⟨n.digitChar, [], Nat.toDigits_of_lt_base hlt, ?_⟩
      have hall : ∀ k < 10, 0 < k → Nat.digitChar k ≠ '0' := by decide
      exact hall n hlt hn
    · obtain ⟨d, rest, hdigits, hd⟩ := ih (n / 10) (by omega) (by omega)
      exact ⟨d, rest ++ [(n % 10).digitChar], by rw [Nat.toDigits_of_base_le (by decide) hge, hdigits]; rfl, hd⟩

/-! ## Numerals -/

/-- An exponent, if there is one, has digits. -/
def IsPower (power : Option (Bool × List Char)) : Prop := ∀ p ∈ power, p.2 ≠ [] ∧ IsDigits p.2

theorem IsPower.none : IsPower none := fun _ h => absurd h (Option.not_mem_none _)

/-- Digits, digits behind the point, and an exponent, which is negative or not. The first digit is a zero only if it is
the only one before the point. -/
structure Numeral where
  whole : List Char
  places : List Char
  power : Option (Bool × List Char)
  whole_digits : IsDigits whole
  whole_start : whole = ['0'] ∨ ∃ d rest, whole = d :: rest ∧ d ≠ '0'
  places_digits : IsDigits places
  power_digits : IsPower power

namespace Numeral

def placesText (n : Numeral) : List Char := if n.places.isEmpty then [] else '.' :: n.places

def powerText (n : Numeral) : List Char :=
  match n.power with
  | none => []
  | some (negative, digits) => 'e' :: (if negative then '-' else '+') :: digits

/-- A numeral as it is written. -/
def text (n : Numeral) : List Char := n.whole ++ n.placesText ++ n.powerText

/-- All digits of a numeral as a whole number. -/
def coefficient (n : Numeral) : Nat := digitsNat (n.whole ++ n.places)

/-- The power of ten of the last digit. -/
def exponent (n : Numeral) : Int := exponentValue n.power - n.places.length

/-- The number that a numeral stands for. -/
def value (n : Numeral) : ℚ := n.coefficient * 10 ^ n.exponent

/-- There is neither a point nor an exponent. -/
def isPlain (n : Numeral) : Bool := n.places.isEmpty && n.power.isNone

end Numeral

/-! ## Layout -/

section Layout

variable {d : Decimal}

/-- The exponent of a decimal is known from its scale. -/
theorem exponent_eq (d : Decimal) : d.exponent = d.scale - d.digits.length := by
  rw [Decimal.scale]
  omega

theorem isDigits_digits (d : Decimal) : IsDigits d.digits := isDigits_toDigits d.coefficient

theorem digitsNat_digits (d : Decimal) : digitsNat d.digits = d.coefficient := digitsNat_toDigits d.coefficient

/-- All digits stand behind the point, after zeros. -/
theorem exists_numeral_below (hd : 0 < d.coefficient) (hscale : d.scale ≤ 0) : ∃ n : Numeral,
    '0' :: '.' :: (List.replicate (-d.scale).toNat '0' ++ d.digits) = n.text ∧ n.value = d.value ∧ n.isPlain = false ∧
      n.places = List.replicate (-d.scale).toNat '0' ++ d.digits ∧ n.power = none := by
  obtain ⟨first, others, hdigits, -⟩ := head_toDigits_ne hd
  have hcons : d.digits = first :: others := hdigits
  have hexponent := exponent_eq d
  have hne : (List.replicate (-d.scale).toNat '0' ++ d.digits).isEmpty = false := by rw [hcons]; simp
  have hcoefficient : digitsNat (['0'] ++ (List.replicate (-d.scale).toNat '0' ++ d.digits)) = d.coefficient := by
    rw [digitsNat_append, digitsNat_zeros_append, digitsNat_digits]
    exact (congrArg (· + _) (Nat.zero_mul _)).trans (Nat.zero_add _)
  have hpower : exponentValue none - ((List.replicate (-d.scale).toNat '0' ++ d.digits).length : Int) = d.exponent := by
    rw [List.length_append, List.length_replicate, exponentValue]
    omega
  refine ⟨⟨['0'], List.replicate (-d.scale).toNat '0' ++ d.digits, none, List.forall_mem_singleton.mpr rfl, .inl rfl,
    (IsDigits.zeros _).append (isDigits_digits d), .none⟩, ?_, ?_, ?_, rfl, rfl⟩
  · simp [Numeral.text, Numeral.placesText, Numeral.powerText, hne]
  · rw [Numeral.value, Numeral.coefficient, Numeral.exponent, hcoefficient, hpower]
    rfl
  · rw [Numeral.isPlain, hne]
    rfl

/-- Zeros follow the digits, and perhaps a point and another zero. -/
theorem exists_numeral_above (hd : 0 < d.coefficient) (hscale : d.digits.length ≤ d.scale) (point : Bool) :
    ∃ n : Numeral,
      d.digits ++ List.replicate (d.scale.toNat - d.digits.length) '0' ++ (if point then ['.', '0'] else []) = n.text ∧
        n.value = d.value ∧ n.isPlain = (!point) ∧ n.places = (if point then ['0'] else []) ∧ n.power = none := by
  obtain ⟨first, others, hdigits, hfirst⟩ := head_toDigits_ne hd
  have hcons : d.digits = first :: others := hdigits
  have hall : IsDigits (d.digits ++ List.replicate (d.scale.toNat - d.digits.length) '0') :=
    (isDigits_digits d).append (.zeros _)
  have hstart : ∃ f rest, d.digits ++ List.replicate (d.scale.toNat - d.digits.length) '0' = f :: rest ∧ f ≠ '0' :=
    ⟨first, _, by rw [hcons]; rfl, hfirst⟩
  have hvalue : ((digitsNat (d.digits ++ List.replicate (d.scale.toNat - d.digits.length) '0') : Nat) : ℚ) = d.value := by
    rw [digitsNat_append, digitsNat_zeros, digitsNat_digits, List.length_replicate, Nat.add_zero, Decimal.value,
      exponent_eq d, Nat.cast_mul, Nat.cast_pow, Nat.cast_ofNat, ← zpow_natCast]
    congr 2
    omega
  cases point with
  | true =>
    refine ⟨⟨_, ['0'], none, hall, .inr hstart, List.forall_mem_singleton.mpr rfl, .none⟩, ?_, ?_, rfl, rfl, rfl⟩
    · simp [Numeral.text, Numeral.placesText, Numeral.powerText]
    · have hzero : digitsNat ['0'] = 0 := rfl
      have hone : exponentValue none - (['0'] : List Char).length = -1 := rfl
      rw [Numeral.value, Numeral.coefficient, Numeral.exponent, digitsNat_append, hone, hzero, ← hvalue, zpow_neg_one,
        List.length_singleton]
      push_cast
      ring
  | false =>
    refine ⟨⟨_, [], none, hall, .inr hstart, .nil, .none⟩, ?_, ?_, rfl, rfl, rfl⟩
    · simp [Numeral.text, Numeral.placesText, Numeral.powerText]
    · rw [Numeral.value, Numeral.coefficient, Numeral.exponent, List.append_nil, hvalue]
      exact mul_one _

/-- The point stands among the digits. -/
theorem exists_numeral_within (hd : 0 < d.coefficient) (hscale : 0 < d.scale) (hless : d.scale < d.digits.length) :
    ∃ n : Numeral, d.digits.take d.scale.toNat ++ '.' :: d.digits.drop d.scale.toNat = n.text ∧ n.value = d.value ∧
      n.isPlain = false ∧ n.places = d.digits.drop d.scale.toNat ∧ n.power = none := by
  obtain ⟨first, others, hdigits, hfirst⟩ := head_toDigits_ne hd
  have hcons : d.digits = first :: others := hdigits
  have hexponent := exponent_eq d
  have hplaces : (d.digits.drop d.scale.toNat).isEmpty = false := by
    rw [List.isEmpty_eq_false_iff, ne_eq, List.drop_eq_nil_iff]
    omega
  have hstart : ∃ f rest, d.digits.take d.scale.toNat = f :: rest ∧ f ≠ '0' := by
    obtain ⟨k, hk⟩ : ∃ k, d.scale.toNat = k + 1 := ⟨d.scale.toNat - 1, by omega⟩
    exact ⟨first, others.take k, by rw [hcons, hk]; rfl, hfirst⟩
  have hpower : exponentValue none - ((d.digits.drop d.scale.toNat).length : Int) = d.exponent := by
    rw [List.length_drop, exponentValue]
    omega
  refine ⟨⟨d.digits.take d.scale.toNat, d.digits.drop d.scale.toNat, none,
    fun c hc => isDigits_digits d c (List.mem_of_mem_take hc), .inr hstart,
    fun c hc => isDigits_digits d c (List.mem_of_mem_drop hc), .none⟩, ?_, ?_, ?_, rfl, rfl⟩
  · simp [Numeral.text, Numeral.placesText, Numeral.powerText, hplaces]
  · rw [Numeral.value, Numeral.coefficient, Numeral.exponent, List.take_append_drop, digitsNat_digits, hpower]
    rfl
  · rw [Numeral.isPlain, hplaces]
    rfl

/-- Written with an exponent. -/
theorem exists_numeral_exponential (style : Style) (hd : 0 < d.coefficient) : ∃ n : Numeral,
    style.exponential d.digits d.scale = n.text ∧ n.value = d.value ∧ n.isPlain = false ∧ n.places = d.digits.tail ∧
      n.power = some (decide (d.scale - 1 < 0),
        padLeft style.exponentDigits (Nat.toDigits 10 (d.scale - 1).natAbs)) := by
  obtain ⟨first, others, hdigits, hfirst⟩ := head_toDigits_ne hd
  have hcons : d.digits = first :: others := hdigits
  have hall := isDigits_digits d
  have hvalue := digitsNat_digits d
  have hexponent := exponent_eq d
  rw [hcons] at hall hvalue hexponent ⊢
  obtain ⟨hfirst', hothers⟩ := List.forall_mem_cons.mp hall
  have hpadded : padLeft style.exponentDigits (Nat.toDigits 10 (d.scale - 1).natAbs) ≠ [] ∧
      IsDigits (padLeft style.exponentDigits (Nat.toDigits 10 (d.scale - 1).natAbs)) :=
    ⟨List.append_ne_nil_of_right_ne_nil _ Nat.toDigits_ne_nil, (IsDigits.zeros _).append (isDigits_toDigits _)⟩
  have hpower : exponentValue (some (decide (d.scale - 1 < 0),
      padLeft style.exponentDigits (Nat.toDigits 10 (d.scale - 1).natAbs))) = d.scale - 1 := by
    rw [exponentValue, padLeft, digitsNat_zeros_append, digitsNat_toDigits]
    simp only [decide_eq_true_eq]
    split <;> omega
  refine ⟨⟨[first], others, some (decide (d.scale - 1 < 0), padLeft style.exponentDigits
      (Nat.toDigits 10 (d.scale - 1).natAbs)), List.forall_mem_singleton.mpr hfirst', .inr ⟨first, [], rfl, hfirst⟩, hothers,
      fun p hp => Option.some.inj hp ▸ hpadded⟩, ?_, ?_, Bool.and_false _, rfl, rfl⟩
  · cases others <;> simp [Numeral.text, Numeral.placesText, Numeral.powerText, Style.exponential]
  · have hlast : d.scale - 1 - (others.length : Int) = d.scale - (first :: others).length := by
      rw [List.length_cons]
      omega
    rw [Numeral.value, Numeral.coefficient, Numeral.exponent, hpower, List.singleton_append, hvalue, hlast, Decimal.value,
      hexponent]

/-- **What is laid out is a numeral of the same value.** -/
theorem exists_numeral (style : Style) (hd : 0 < d.coefficient) : ∃ n : Numeral,
    style.decimal d = n.text ∧ n.value = d.value ∧ (style.wholePoint = true → n.isPlain = false) := by
  unfold Style.decimal Style.positional
  split
  · split
    · next hscale =>
      obtain ⟨n, htext, hvalue, hplain, -⟩ := exists_numeral_below hd hscale
      exact ⟨n, htext, hvalue, fun _ => hplain⟩
    · next hscale =>
      split
      · next hlarge =>
        obtain ⟨n, htext, hvalue, hplain, -⟩ := exists_numeral_above hd hlarge style.wholePoint
        exact ⟨n, htext, hvalue, fun hpoint => hplain.trans (by rw [hpoint]; rfl)⟩
      · next hless =>
        obtain ⟨n, htext, hvalue, hplain, -⟩ := exists_numeral_within hd (not_le.mp hscale) (not_le.mp hless)
        exact ⟨n, htext, hvalue, fun _ => hplain⟩
  · obtain ⟨n, htext, hvalue, hplain, -⟩ := exists_numeral_exponential style hd
    exact ⟨n, htext, hvalue, fun _ => hplain⟩

end Layout

/-! ## Reading -/

/-- A text does not go on with a digit. -/
def NoDigit (cs : List Char) : Prop := ∀ c ∈ cs.head?, isDigit c = false

/-- What follows a value: nothing, a comma, or a new line. -/
def Follows (rest : List Char) : Prop := ∀ c ∈ rest.head?, c = ',' ∨ c = '\n'

theorem NoDigit.cons {c : Char} {rest : List Char} (h : isDigit c = false) : NoDigit (c :: rest) := fun _ hc =>
  Option.some.inj hc ▸ h

theorem Follows.noDigit {rest : List Char} (h : Follows rest) : NoDigit rest := fun c hc => by
  rcases h c hc with rfl | rfl <;> rfl

section Reading

variable {rest : List Char}

theorem takeWhile_digits {cs : List Char} (h : IsDigits cs) (hrest : NoDigit rest) :
    (cs ++ rest).takeWhile isDigit = cs ∧ (cs ++ rest).dropWhile isDigit = rest := by
  rw [List.takeWhile_append_of_pos h, List.dropWhile_append_of_pos h]
  cases rest with
  | nil => exact ⟨List.append_nil _, rfl⟩
  | cons c rest =>
    have hc : isDigit c ≠ true := ne_true_of_eq_false (hrest c rfl)
    rw [List.takeWhile_cons_of_neg hc, List.dropWhile_cons_of_neg hc, List.append_nil]
    exact ⟨rfl, rfl⟩

namespace Numeral

variable {n : Numeral}

theorem noDigit_powerText (hrest : Follows rest) : NoDigit (n.powerText ++ rest) := by
  unfold powerText
  cases n.power with
  | none => exact hrest.noDigit
  | some p => exact .cons rfl

theorem noDigit_placesText (hrest : Follows rest) : NoDigit (n.placesText ++ (n.powerText ++ rest)) := by
  unfold placesText
  split
  · exact noDigit_powerText hrest
  · exact .cons rfl

theorem exponent_powerText (hrest : Follows rest) : Json.exponent (n.powerText ++ rest) = (n.power, rest) := by
  unfold powerText
  cases hpower : n.power with
  | none =>
    cases rest with
    | nil => rfl
    | cons c rest => rcases hrest c rfl with rfl | rfl <;> rfl
  | some p =>
    obtain ⟨negative, digits⟩ := p
    obtain ⟨hne, hdigits⟩ := n.power_digits _ hpower
    obtain ⟨htake, hdrop⟩ := takeWhile_digits hdigits hrest.noDigit
    have hsome : digits.isEmpty = false := List.isEmpty_eq_false_iff.mpr hne
    cases negative <;> simp [Json.exponent, htake, hdrop, hsome]

theorem fraction_placesText (hrest : Follows rest) :
    fraction (n.placesText ++ (n.powerText ++ rest)) = (n.places, n.powerText ++ rest) := by
  unfold placesText
  cases hplaces : n.places with
  | nil =>
    show fraction (n.powerText ++ rest) = _
    unfold powerText
    cases n.power with
    | none =>
      cases rest with
      | nil => rfl
      | cons c rest => rcases hrest c rfl with rfl | rfl <;> rfl
    | some p => rfl
  | cons d places =>
    obtain ⟨htake, hdrop⟩ := takeWhile_digits n.places_digits (noDigit_powerText (n := n) hrest)
    rw [hplaces] at htake hdrop
    show (if ((d :: places ++ (n.powerText ++ rest)).takeWhile isDigit).isEmpty then _
      else ((d :: places ++ (n.powerText ++ rest)).takeWhile isDigit, (d :: places ++ (n.powerText ++ rest)).dropWhile isDigit))
        = _
    rw [htake, hdrop]
    rfl

/-- The digits before the point are found: a zero by itself, other digits as far as they go. -/
theorem whole_eq (hrest : NoDigit rest) :
    (match n.whole ++ rest with | '0' :: _ => ['0'] | _ => (n.whole ++ rest).takeWhile isDigit) = n.whole := by
  obtain ⟨htake, -⟩ := takeWhile_digits n.whole_digits hrest
  rcases n.whole_start with hzero | ⟨d, others, hcons, hd⟩
  · rw [hzero]
    rfl
  · rw [hcons] at htake ⊢
    split
    · next heq => exact absurd (List.cons.inj heq).1 hd
    · exact htake

/-- The first character is a digit. -/
theorem exists_first (n : Numeral) : ∃ d others, n.whole = d :: others ∧ isDigit d = true := by
  obtain ⟨d, others, hcons⟩ : ∃ d others, n.whole = d :: others := by
    rcases n.whole_start with hzero | ⟨d, others, hcons, -⟩
    · exact ⟨'0', [], hzero⟩
    · exact ⟨d, others, hcons⟩
  exact ⟨d, others, hcons, n.whole_digits d (hcons ▸ List.mem_cons_self)⟩

end Numeral

/-- A minus sign before what is negative. -/
def minus (negative : Bool) : List Char := if negative then ['-'] else []

/-- **A numeral is taken apart into its three parts.** -/
theorem number_numeral (negative : Bool) (n : Numeral) (hrest : Follows rest) :
    number (minus negative ++ (n.text ++ rest)) =
      if n.isPlain then
        if Text.digitLimit < n.whole.length then
          fail (.integerTooLong n.whole.length) (minus negative ++ (n.text ++ rest))
        else .ok (.int (if negative then -(digitsNat n.whole : Int) else digitsNat n.whole), rest)
      else .ok (.float (ofDecimal negative n.coefficient n.exponent), rest) := by
  obtain ⟨d, others, hcons, hd⟩ := n.exists_first
  have htext : n.text ++ rest = n.whole ++ (n.placesText ++ (n.powerText ++ rest)) := by
    rw [Numeral.text, List.append_assoc, List.append_assoc]
  have hwhole := n.whole_eq (Numeral.noDigit_placesText (n := n) hrest)
  have hsome : n.whole.isEmpty = false := by rw [hcons]; rfl
  rw [← htext] at hwhole
  unfold number
  split
  next sign body heq =>
  obtain ⟨rfl, rfl⟩ : sign = negative ∧ body = n.text ++ rest := by
    cases negative with
    | true =>
      cases heq
      exact ⟨rfl, rfl⟩
    | false =>
      have hfirst : minus false ++ (n.text ++ rest) = d :: (others ++ (n.placesText ++ (n.powerText ++ rest))) := by
        rw [htext, hcons]
        rfl
      split at heq
      · next hminus =>
        obtain ⟨rfl, -⟩ := List.cons.inj (hfirst.symm.trans hminus)
        cases hd
      · cases heq
        exact ⟨rfl, rfl⟩
  extract_lets whole
  have hfound : whole = n.whole := hwhole
  clear_value whole
  subst hfound
  rw [htext, hsome, List.drop_left, n.fraction_placesText hrest]
  dsimp only
  rw [n.exponent_powerText hrest]
  rfl

theorem word?_eq_none (negative : Bool) {d : Char} (hd : isDigit d = true) (cs : List Char) :
    word? (minus negative ++ d :: cs) = none := by
  have hne : ∀ c, isDigit c = false → (c == d) = false := fun c hc => by
    refine beq_false_of_ne ?_
    rintro rfl
    exact Bool.false_ne_true (hc.symm.trans hd)
  have hletters : ('n' == d) = false ∧ ('t' == d) = false ∧ ('f' == d) = false ∧ ('N' == d) = false ∧
      ('I' == d) = false ∧ ('-' == d) = false :=
    ⟨hne _ rfl, hne _ rfl, hne _ rfl, hne _ rfl, hne _ rfl, hne _ rfl⟩
  obtain ⟨hn, ht, hf, hN, hI, hminus⟩ := hletters
  cases negative <;> simp [word?, words, minus, List.isPrefixOf, hn, ht, hf, hN, hI, hminus]

/-- What starts neither a string, a list, an object nor a word is read as a number. -/
theorem value_eq_number {fuel : Nat} {c : Char} {cs : List Char} (hstring : c ≠ '"') (hlist : c ≠ '[') (hobject : c ≠ '\x7b')
    (hword : word? (c :: cs) = none) : value (fuel + 1) (c :: cs) = number (c :: cs) := by
  unfold value
  dsimp only
  rw [if_neg hstring, if_neg hlist, if_neg hobject, hword]

theorem value_numeral (fuel : Nat) (negative : Bool) (n : Numeral) (rest : List Char) :
    value (fuel + 1) (minus negative ++ (n.text ++ rest)) = number (minus negative ++ (n.text ++ rest)) := by
  obtain ⟨d, others, hcons, hd⟩ := n.exists_first
  have htext : n.text ++ rest = d :: (others ++ n.placesText ++ n.powerText ++ rest) := by
    rw [Numeral.text, hcons]
    rfl
  have hword := word?_eq_none negative hd (others ++ n.placesText ++ n.powerText ++ rest)
  have hne : ∀ c, isDigit c = false → d ≠ c := by
    rintro c hc rfl
    exact Bool.false_ne_true (hc.symm.trans hd)
  rw [htext]
  cases negative with
  | true => exact value_eq_number (by decide) (by decide) (by decide) hword
  | false => exact value_eq_number (hne '"' rfl) (hne '[' rfl) (hne '\x7b' rfl) hword

end Reading

/-! ## Whole numbers and doubles -/

section Numbers

variable {rest : List Char}

/-- A natural number as a numeral. -/
def natural (k : Nat) : Numeral where
  whole := Nat.toDigits 10 k
  places := []
  power := none
  whole_digits := isDigits_toDigits k
  whole_start := (Nat.eq_zero_or_pos k).imp (fun hk => by rw [hk]; rfl) head_toDigits_ne
  places_digits := .nil
  power_digits := .none

theorem text_natural (k : Nat) : (natural k).text = Nat.toDigits 10 k := by
  simp [Numeral.text, Numeral.placesText, Numeral.powerText, natural]

theorem value_natural (k : Nat) : (natural k).value = k := by
  have hdigits : (natural k).coefficient = k := (congrArg digitsNat (List.append_nil _)).trans (digitsNat_toDigits k)
  have hpower : (natural k).exponent = 0 := rfl
  rw [Numeral.value, hdigits, hpower, zpow_zero, mul_one]

theorem toList_intText (k : Int) : (intText k).toList = minus (decide (k < 0)) ++ (natural k.natAbs).text := by
  rw [text_natural, intText, natText]
  split
  · next hneg => simp [minus, hneg]
  · next hnonneg => simp [minus, hnonneg]

/-- **A whole number is read back from its digits.** -/
theorem value_intText (fuel : Nat) {k : Int} (hk : k.natAbs < pow10 Text.digitLimit) (hrest : Follows rest) :
    value (fuel + 1) ((intText k).toList ++ rest) = .ok (.int k, rest) := by
  have hlimit : ¬ Text.digitLimit < (natural k.natAbs).whole.length :=
    not_lt.mpr (length_toDigits_le (by decide) hk)
  have habs : digitsNat (natural k.natAbs).whole = k.natAbs := digitsNat_toDigits k.natAbs
  have hvalue : (if decide (k < 0) = true then -(k.natAbs : Int) else k.natAbs) = k := by
    simp only [decide_eq_true_eq]
    split <;> omega
  rw [toList_intText, List.append_assoc, value_numeral, number_numeral _ _ hrest, if_neg hlimit, habs, hvalue]
  rfl

theorem toList_signed (negative : Bool) (cs : List Char) :
    (signed negative (String.ofList cs)).toList = minus negative ++ cs := by
  cases negative <;> simp [signed, minus]

/-- Zero as it is written. -/
def zero : Numeral where
  whole := ['0']
  places := ['0']
  power := none
  whole_digits := List.forall_mem_singleton.mpr rfl
  whole_start := .inl rfl
  places_digits := List.forall_mem_singleton.mpr rfl
  power_digits := .none

/-- **A double is read back from its shortest decimal**, and from the word for it if it is not finite. -/
theorem value_floatText (fuel : Nat) (x : Float) (hrest : Follows rest) :
    value (fuel + 1) ((Style.json.text x).toList ++ rest) = .ok (.float x, rest) := by
  unfold Style.text
  split
  · next hx =>
    rw [eq_of_ofFloat_nan hx]
    unfold value
    rfl
  · next negative hx =>
    rw [eq_of_ofFloat_infinite hx]
    unfold value
    cases negative <;> rfl
  · next negative m q hx =>
    split
    · next hm =>
      subst hm
      have htext : (signed (negative && Style.json.signedZero) (if Style.json.wholePoint = true then "0.0" else "0")).toList
          = minus negative ++ zero.text := by
        cases negative <;> rfl
      have hzero : ofDecimal negative zero.coefficient zero.exponent = x := (eq_of_ofFloat_zero hx).symm
      rw [htext, List.append_assoc, value_numeral, number_numeral _ _ hrest, hzero]
      rfl
    · next hm =>
      have hpos := Nat.pos_of_ne_zero hm
      obtain ⟨-, hcanonical, -⟩ := isCanonical_of_ofFloat hx hpos
      have hnear := near_shortest hcanonical
      obtain ⟨n, htext, hvalue, hplain⟩ := exists_numeral Style.json (Decimal.coefficient_pos (hnear.pos hpos))
      rw [← hvalue] at hnear
      rw [toList_signed, htext, List.append_assoc, value_numeral, number_numeral _ _ hrest, if_neg (by rw [hplain rfl]; decide),
        ofDecimal_of_near hx hpos hnear]

end Numbers

end CodeMetrics.Json
