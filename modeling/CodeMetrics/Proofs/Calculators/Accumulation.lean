import CodeMetrics.Proofs.Analysis.Bounds
import CodeMetrics.Proofs.Calculators.Tokens
import CodeMetrics.Value.Order
import Mathlib.Data.Multiset.MapFold

/-!
# Tokens counted one after the other

Counts start empty and take one token after the other. Distinct tokens are those that differ as values: numbers of any
kind are equal by what they are worth, and a text is never equal to a number. Which tokens are kept goes by the order of
the steps, but how many are kept does not.

* `Value.same_iff` — equal values are those with one key
* `Halstead.exists_ofTokens_iff` — which tokens can be counted
* `Halstead.Collects.isSelection`, `Halstead.Counts.isBalanced` — what holds of counts at any time
* `Halstead.volumeOf_mono_of_log2`, `Halstead.not_volumeOf_lt` — volumes grow
* `Halstead.numbers_eq_of_rel` — counts go by the multiset of tokens
* `Halstead.counts_of_tokens` — all of this for a sequence of tokens
-/

namespace CodeMetrics

open Number

/-! ## Equality of tokens -/

theorem Exact.same_iff {a b : Exact} (h : a ≠ .nan) : a.same b = true ↔ a = b := by
  cases a with
  | nan => exact absurd rfl h
  | belowAll | aboveAll | finite => exact decide_eq_true_iff

namespace Value

/-- Whether a value is the double that is no number. It differs even from itself. -/
def isNan : Value → Bool
  | float x => decide (Exact.ofFloat x = .nan)
  | _ => false

theorem isNan_iff {v : Value} : v.isNan = true ↔ v.key? = some (.number .nan) := by
  cases v <;> simp [isNan, key?, Num.exact]

theorem isNan_congr {v w : Value} (h : v.key? = w.key?) : v.isNan = w.isNan := by
  rw [Bool.eq_iff_iff, isNan_iff, isNan_iff, h]

theorem same_ofNum_iff {a : Num} (h : (ofNum a).isNan = false) (b : Num) :
    (ofNum a).same (ofNum b) = true ↔ (ofNum a).key? = (ofNum b).key? := by
  have hnumber : a.exact ≠ .nan := by
    cases a with
    | float x => exact of_decide_eq_false h
    | int | flag => exact Exact.noConfusion
  have hsame : (ofNum a).same (ofNum b) = a.exact.same b.exact := by cases a <;> cases b <;> rfl
  have hkey : ∀ c : Num, (ofNum c).key? = some (.number c.exact) := by intro c; cases c <;> rfl
  rw [hsame, hkey, hkey, Exact.same_iff hnumber, Option.some_inj, Key.number.injEq]

theorem eq_ofNum {v : Value} {a : Num} (h : v.num? = some a) : v = ofNum a := by
  cases v <;> cases h <;> rfl

/-- A value with a key is equal to the values with that key, unless it is no number. -/
theorem same_iff {v w : Value} (hkey : v.key?.isSome = true) (hnan : v.isNan = false) :
    v.same w = true ↔ v.key? = w.key? := by
  have hnumber : ∀ a : Num, v = ofNum a → (v.same w = true ↔ v.key? = w.key?) := by
    rintro a rfl
    cases hw : w.num? with
    | some b =>
      obtain rfl := eq_ofNum hw
      exact same_ofNum_iff hnan b
    | none => cases a <;> cases w <;> simp [ofNum, same, key?, num?] at hw ⊢
  cases v with
  | bool a => exact hnumber (.flag a) rfl
  | int a => exact hnumber (.int a) rfl
  | float a => exact hnumber (.float a) rfl
  | null | str | moment => cases w <;> simp [same, key?, num?]
  | list | object => cases hkey

/-- Values of which no two are equal, chosen to stand for some values: each of these is equal to one that is chosen, and
the other way round. -/
structure IsSelection (chosen values : List Value) : Prop where
  distinct : chosen.Pairwise fun v w => v.same w = false
  covers : ∀ v ∈ values, ∃ w ∈ chosen, v.same w = true
  within : ∀ w ∈ chosen, ∃ v ∈ values, v.same w = true

end Value

namespace Token

/-- The value of a token. -/
def value : Token → Value
  | operator v | operand v => v

/-- The value of an operator. -/
def operator? : Token → Option Value
  | operator v => some v
  | operand _ => none

/-- The value of an operand. -/
def operand? : Token → Option Value
  | operator _ => none
  | operand v => some v

/-- Whether two tokens are both operators or both operands, of equal values. -/
def same : Token → Token → Bool
  | operator v, operator w => v.same w
  | operand v, operand w => v.same w
  | _, _ => false

theorem hasKey_eq (t : Token) : t.hasKey = t.value.key?.isSome := by cases t <;> rfl

theorem operatorKey?_eq (t : Token) : t.operatorKey? = t.operator?.bind Value.key? := by cases t <;> rfl

theorem operandKey?_eq (t : Token) : t.operandKey? = t.operand?.bind Value.key? := by cases t <;> rfl

theorem value_of_operator? {t : Token} {v : Value} (h : t.operator? = some v) : t.value = v := by
  cases t <;> cases h
  rfl

theorem value_of_operand? {t : Token} {v : Value} (h : t.operand? = some v) : t.value = v := by
  cases t <;> cases h
  rfl

/-- Equal tokens have the same keys, as operators and as operands. -/
theorem keys_eq_of_same {t u : Token} (hkey : t.hasKey = true) (hnan : t.value.isNan = false) (h : t.same u = true) :
    t.operatorKey? = u.operatorKey? ∧ t.operandKey? = u.operandKey? := by
  cases t with
  | operator v =>
    cases u with
    | operator w => exact ⟨(Value.same_iff hkey hnan).mp h, rfl⟩
    | operand w => cases h
  | operand v =>
    cases u with
    | operator w => cases h
    | operand w => exact ⟨rfl, (Value.same_iff hkey hnan).mp h⟩

/-- A token has a key if it has one as an operator or as an operand. -/
theorem hasKey_eq_or (t : Token) : t.hasKey = (t.operatorKey?.isSome || t.operandKey?.isSome) := by
  cases t with
  | operator v => exact (Bool.or_false _).symm
  | operand v => rfl

end Token

namespace Halstead

/-! ## Counts at any time -/

/-- The counts of tokens that are added one after the other. -/
def ofTokens (tokens : List Token) : Except Error Halstead := tokens.foldlM add empty

/-- The numbers of distinct operators and operands, and of all operators and operands. -/
def numbers (h : Halstead) : ℕ × ℕ × ℕ × ℕ := (h.operators.length, h.operands.length, h.operatorCount, h.operandCount)

/-- Tokens that have keys can be counted, and no others. -/
theorem exists_ofTokens_iff {tokens : List Token} :
    (∃ h, ofTokens tokens = .ok h) ↔ ∀ t ∈ tokens, t.hasKey = true := by
  have hstep : ∀ t ∈ tokens, ∀ h : Halstead, (∃ h', h.add t = .ok h') ↔ t.hasKey = true :=
    fun _ _ _ => exists_add_iff
  exact Outcome.exists_foldlM_iff hstep empty

theorem counts_of_ofTokens {tokens : List Token} {h : Halstead} (hfold : ofTokens tokens = .ok h) : h.Counts tokens :=
  counts_empty.foldlM hfold

namespace Collects

variable {kept values : List Value} {count : Nat} {keys : List Value.Key}

/-- No more is kept than was counted, and nothing only if nothing was counted. -/
theorem length_le_count (h : Collects kept count keys) : kept.length ≤ count ∧ (kept.length = 0 ↔ count = 0) := by
  rw [h.length_eq, h.count_eq, Finset.card_eq_zero, List.toFinset_eq_empty_iff, List.length_eq_zero_iff]
  exact ⟨List.toFinset_card_le keys, Iff.rfl⟩

/-- What is kept of the keys of some values is a selection from the values. -/
theorem isSelection (h : Collects kept count (values.filterMap Value.key?))
    (hvalues : ∀ v ∈ values, v.key?.isSome = true ∧ v.isNan = false) : Value.IsSelection kept values := by
  have hgiven : ∀ w ∈ kept, ∃ v ∈ values, v.key? = w.key? := by
    intro w hw
    obtain ⟨key, hkey, hwkey⟩ := List.mem_map.mp ((h.mem_iff w.key?).mp (List.mem_map_of_mem hw))
    obtain ⟨v, hv, hvkey⟩ := List.mem_filterMap.mp hkey
    exact ⟨v, hv, hvkey.trans hwkey⟩
  refine ⟨?_, fun v hv => ?_, fun w hw => ?_⟩
  · refine (List.pairwise_map.mp h.nodup).imp_of_mem fun {a b} ha _ hne => ?_
    obtain ⟨v, hv, hkey⟩ := hgiven a ha
    obtain ⟨hsome, hnan⟩ := hvalues v hv
    rw [← Bool.not_eq_true, Value.same_iff (hkey ▸ hsome) (Value.isNan_congr hkey ▸ hnan)]
    exact hne
  · obtain ⟨key, hkey⟩ := Option.isSome_iff_exists.mp (hvalues v hv).1
    have hkept := (h.mem_iff (some key)).mpr (List.mem_map_of_mem (List.mem_filterMap.mpr ⟨v, hv, hkey⟩))
    obtain ⟨w, hw, hwkey⟩ := List.mem_map.mp hkept
    exact ⟨w, hw, (Value.same_iff (hvalues v hv).1 (hvalues v hv).2).mpr (hkey.trans hwkey.symm)⟩
  · obtain ⟨v, hv, hkey⟩ := hgiven w hw
    exact ⟨v, hv, (Value.same_iff (hvalues v hv).1 (hvalues v hv).2).mpr hkey⟩

end Collects

/-- Counts of which no number of distinct tokens exceeds that of all, or is zero unless there are none. -/
structure IsBalanced (h : Halstead) : Prop where
  operators_le : h.operators.length ≤ h.operatorCount
  operands_le : h.operands.length ≤ h.operandCount
  vocabulary_le : h.vocabulary ≤ h.length
  operators_eq_zero : h.operators.length = 0 ↔ h.operatorCount = 0
  operands_eq_zero : h.operands.length = 0 ↔ h.operandCount = 0

theorem Counts.isBalanced {h : Halstead} {tokens : List Token} (hcounts : h.Counts tokens) : h.IsBalanced := by
  obtain ⟨hoperators, hoperators'⟩ := hcounts.operators.length_le_count
  obtain ⟨hoperands, hoperands'⟩ := hcounts.operands.length_le_count
  exact ⟨hoperators, hoperands, Nat.add_le_add hoperators hoperands, hoperators', hoperands'⟩

/-- Counts of which each number is that of some tokens: occurrences are counted one by one, and of equal values one is
kept. -/
structure IsTally (h : Halstead) (tokens : List Token) : Prop where
  operatorCount : h.operatorCount = (tokens.filterMap Token.operator?).length
  operandCount : h.operandCount = (tokens.filterMap Token.operand?).length
  operators : Value.IsSelection h.operators (tokens.filterMap Token.operator?)
  operands : Value.IsSelection h.operands (tokens.filterMap Token.operand?)

/-- The keys of the tokens of one kind are those of their values. -/
theorem filterMap_keys {f : Token → Option Value} {g : Token → Option Value.Key} (hg : ∀ t, g t = (f t).bind Value.key?)
    (tokens : List Token) : tokens.filterMap g = (tokens.filterMap f).filterMap Value.key? := by
  rw [List.filterMap_filterMap, funext hg]

theorem length_filterMap_key? {values : List Value} (h : ∀ v ∈ values, v.key?.isSome = true) :
    (values.filterMap Value.key?).length = values.length := by
  rw [List.length_filterMap_eq_countP]
  exact List.countP_eq_length.mpr h

theorem Counts.isTally {h : Halstead} {tokens : List Token} (hcounts : h.Counts tokens)
    (hkeys : ∀ t ∈ tokens, t.hasKey = true) (hnan : ∀ t ∈ tokens, t.value.isNan = false) : h.IsTally tokens := by
  have hvalues : ∀ (f : Token → Option Value), (∀ t v, f t = some v → t.value = v) →
      ∀ v ∈ tokens.filterMap f, v.key?.isSome = true ∧ v.isNan = false := by
    intro f hf v hv
    obtain ⟨t, ht, hvalue⟩ := List.mem_filterMap.mp hv
    obtain rfl := hf t v hvalue
    exact ⟨t.hasKey_eq ▸ hkeys t ht, hnan t ht⟩
  have hoperators := hvalues _ fun _ _ => Token.value_of_operator?
  have hoperands := hvalues _ fun _ _ => Token.value_of_operand?
  have hcollected := hcounts.operators
  have hcollected' := hcounts.operands
  rw [filterMap_keys Token.operatorKey?_eq] at hcollected
  rw [filterMap_keys Token.operandKey?_eq] at hcollected'
  exact ⟨hcollected.count_eq.trans (length_filterMap_key? fun v hv => (hoperators v hv).1),
    hcollected'.count_eq.trans (length_filterMap_key? fun v hv => (hoperands v hv).1),
    hcollected.isSelection hoperators, hcollected'.isSelection hoperands⟩

/-! ## Volumes -/

section Volumes

variable {log2 : Float → Float} (hlog2 : ∀ x y, 0 < x → x ≤ y → log2 x ≤ log2 y) (hone : log2 1 = 0) {n n' k k' : Nat}

include hlog2 hone

theorem zero_le_log2_ofNat (hpos : 0 < n) : 0 ≤ log2 (nearest false n 1) :=
  hone ▸ hlog2 1 _ double_one_pos (one_le_ofNat hpos)

omit hlog2 hone in
theorem volumeOf_zero (k : Nat) : volumeOf log2 0 k = 0 := if_pos rfl

/-- Volumes grow with the tokens and with the distinct ones, as far as a double can hold the number of tokens. -/
theorem volumeOf_mono_of_log2 (hle : n ≤ k) (hle' : n' ≤ k') (hn : n ≤ n') (hk : k ≤ k')
    (hfinite' : IsFinite (nearest false k' 1)) : volumeOf log2 n k ≤ volumeOf log2 n' k' := by
  rcases Nat.eq_zero_or_pos n' with rfl | hpos'
  · obtain rfl := Nat.le_zero.mp hn
    rw [volumeOf_zero, volumeOf_zero]
    exact double_le_refl isFinite_zero.isNumber
  have hweight' := isWeight_ofNat (hpos'.trans_le hle') hfinite'
  have hproduct' : volumeOf log2 n' k' = nearest false k' 1 * log2 (nearest false n' 1) := if_neg hpos'.ne'
  rw [hproduct']
  rcases Nat.eq_zero_or_pos n with rfl | hpos
  · rw [volumeOf_zero]
    exact hweight'.zero_le_mul (zero_le_log2_ofNat hlog2 hone hpos')
  have hfinite : IsFinite (nearest false k 1) := by
    refine isFinite_of_abs_lt (isNumber_ofNat k) ?_
    rw [abs_of_nonneg (zero_le_value_ofNat k)]
    exact (le_iff.mp (ofNat_mono hk)).2.2.trans_lt (abs_lt.mp hfinite'.abs_lt).2
  have hproduct : volumeOf log2 n k = nearest false k 1 * log2 (nearest false n 1) := if_neg hpos.ne'
  rw [hproduct]
  exact (isWeight_ofNat (hpos.trans_le hle) hfinite).mul_mono_weight hweight' (ofNat_mono hk)
    (zero_le_log2_ofNat hlog2 hone hpos) (hlog2 _ _ (zero_lt_of_le double_one_pos (one_le_ofNat hpos)) (ofNat_mono hn))

/-- No volume is below that of fewer tokens, even if there are more tokens than doubles can count. -/
theorem not_volumeOf_lt (hle : n ≤ k) (hle' : n' ≤ k') (hn : n ≤ n') (hk : k ≤ k') :
    ¬ volumeOf log2 n' k' < volumeOf log2 n k := by
  rcases (isNumber_ofNat k').finite_or_top (by linarith [beyond_pos, zero_le_value_ofNat k']) with hfinite | ⟨htop, -⟩
  · have hmono := volumeOf_mono_of_log2 hlog2 hone hle hle' hn hk hfinite
    obtain ⟨hnumber, hnumber', -⟩ := le_iff.mp hmono
    exact (double_not_lt hnumber' hnumber).mpr hmono
  rcases Nat.eq_zero_or_pos n' with rfl | hpos'
  · obtain rfl := Nat.le_zero.mp hn
    rw [volumeOf_zero, volumeOf_zero]
    exact (by decide : ¬ (0 : Float) < 0)
  · have hproduct' : volumeOf log2 n' k' = nearest false k' 1 * log2 (nearest false n' 1) := if_neg hpos'.ne'
    rw [hproduct']
    exact not_infinite_mul_lt htop (zero_le_log2_ofNat hlog2 hone hpos') _

end Volumes

/-! ## Orders of steps -/

/-- Counts of tokens go by the multiset of tokens, whichever of equal ones stands for them. -/
theorem numbers_eq_of_rel {tokens others : List Token} {h : Halstead} (hkeys : ∀ t ∈ tokens, t.hasKey = true)
    (hnan : ∀ t ∈ tokens, t.value.isNan = false) (hcounts : h.Counts tokens)
    (hrel : Multiset.Rel (fun t u => t.same u = true) (tokens : Multiset Token) others) :
    ∃ h', ofTokens others = .ok h' ∧ h'.numbers = h.numbers := by
  have hmatch : Multiset.Rel (fun t u : Token => (t.operatorKey?, t.operandKey?) = (u.operatorKey?, u.operandKey?))
      (tokens : Multiset Token) others := by
    refine hrel.mono fun t ht u _ hsame => ?_
    obtain ⟨hoperator, hoperand⟩ := Token.keys_eq_of_same (hkeys t ht) (hnan t ht) hsame
    rw [hoperator, hoperand]
  have hperm : (tokens.map fun t => (t.operatorKey?, t.operandKey?)).Perm
      (others.map fun t => (t.operatorKey?, t.operandKey?)) := by
    rw [← Multiset.coe_eq_coe, ← Multiset.rel_eq, ← Multiset.map_coe, ← Multiset.map_coe]
    exact Multiset.rel_map.mpr hmatch
  have hkeys' : ∀ u ∈ others, u.hasKey = true := by
    intro u hu
    obtain ⟨t, ht, hpair⟩ := List.mem_map.mp (hperm.mem_iff.mpr (List.mem_map_of_mem hu))
    rw [Token.hasKey_eq_or, ← (Prod.mk.inj hpair).1, ← (Prod.mk.inj hpair).2, ← Token.hasKey_eq_or]
    exact hkeys t ht
  obtain ⟨h', hfold'⟩ := exists_ofTokens_iff.mpr hkeys'
  have hcounts' := counts_of_ofTokens hfold'
  have hoperatorKeys : (tokens.filterMap Token.operatorKey?).Perm (others.filterMap Token.operatorKey?) := by
    have := hperm.filterMap Prod.fst
    rwa [List.filterMap_map, List.filterMap_map] at this
  have hoperandKeys : (tokens.filterMap Token.operandKey?).Perm (others.filterMap Token.operandKey?) := by
    have := hperm.filterMap Prod.snd
    rwa [List.filterMap_map, List.filterMap_map] at this
  obtain ⟨hoperators, hoperatorCount⟩ := hcounts.operators.eq_of_perm hcounts'.operators hoperatorKeys
  obtain ⟨hoperands, hoperandCount⟩ := hcounts.operands.eq_of_perm hcounts'.operands hoperandKeys
  exact ⟨h', hfold', by rw [numbers, numbers, hoperators, hoperatorCount, hoperands, hoperandCount]⟩

/-- **Counts of tokens that are added one after the other.** Tokens are all values but lists and objects, which cannot
be told apart, and `nan`. They can all be counted, and what has been counted at any time is the tokens so far: each of them
as an occurrence, and one for all that are equal. So there are no more distinct operators than operators, and none only
if there are no operators, and likewise for operands. No number ever decreases, nor does the volume; of the logarithm
this takes that it is in order and zero at 1. (With more tokens than a double can hold, the volume may be no number; up
to there volumes are in order.) What comes out in the end goes by the multiset of tokens alone, whichever of equal ones
stands for them. Equal are whole numbers and the doubles that are worth as much, and truth values and the 0 or 1 that
they stand for; a number and a text are never equal. -/
theorem counts_of_tokens {tokens : List Token} (hkeys : ∀ t ∈ tokens, t.hasKey = true)
    (hnan : ∀ t ∈ tokens, t.value.isNan = false) :
    (∀ i, ∃ h, ofTokens (tokens.take i) = .ok h ∧ h.IsBalanced ∧ h.IsTally (tokens.take i)) ∧
    (∀ i j h h', i ≤ j → ofTokens (tokens.take i) = .ok h → ofTokens (tokens.take j) = .ok h' →
      h.AtMost h' ∧ h.vocabulary ≤ h'.vocabulary ∧ h.length ≤ h'.length ∧
      ∀ ln log2 : Float → Float, (∀ x y, 0 < x → x ≤ y → log2 x ≤ log2 y) → log2 1 = 0 →
        ¬ @volume Float (.doubles ln log2) h' < @volume Float (.doubles ln log2) h ∧
        (IsFinite (nearest false h'.length 1) →
          @volume Float (.doubles ln log2) h ≤ @volume Float (.doubles ln log2) h')) ∧
    (∃ h, ofTokens tokens = .ok h ∧
      ∀ others : List Token, Multiset.Rel (fun t u => t.same u = true) (tokens : Multiset Token) others →
        ∃ h', ofTokens others = .ok h' ∧ h'.numbers = h.numbers) ∧
    (∀ n : ℕ, n < 2 ^ 53 → (Value.int n).same (.float (nearest false n 1)) = true) ∧
    (∀ b, (Value.bool b).same (.int (Num.ofFlag b)) = true) ∧
    ∀ (a : Num) (s : String), (Value.ofNum a).same (.str s) = false := by
  have htake : ∀ i, ∀ t ∈ tokens.take i, t.hasKey = true := fun i t ht => hkeys t (List.mem_of_mem_take ht)
  refine ⟨fun i => ?_, fun i j h h' hij hfold hfold' => ?_, ?_, fun n hn => ?_, fun b => ?_, fun a s => ?_⟩
  · obtain ⟨h, hfold⟩ := exists_ofTokens_iff.mpr (htake i)
    have hcounts := counts_of_ofTokens hfold
    exact ⟨h, hfold, hcounts.isBalanced, hcounts.isTally (htake i) fun t ht => hnan t (List.mem_of_mem_take ht)⟩
  · have hcounts := counts_of_ofTokens hfold
    have hcounts' := counts_of_ofTokens hfold'
    have hmost := hcounts.atMost_of_sublist hcounts' (List.take_prefix_take_left hij).sublist
    refine ⟨hmost, hmost.vocabulary_le, hmost.length_le, fun ln log2 hlog2 hone => ?_⟩
    rw [volume_eq, volume_eq]
    exact ⟨not_volumeOf_lt hlog2 hone hcounts.vocabulary_le_length hcounts'.vocabulary_le_length hmost.vocabulary_le
      hmost.length_le, volumeOf_mono_of_log2 hlog2 hone hcounts.vocabulary_le_length hcounts'.vocabulary_le_length
      hmost.vocabulary_le hmost.length_le⟩
  · obtain ⟨h, hfold⟩ := exists_ofTokens_iff.mpr hkeys
    exact ⟨h, hfold, fun others => numbers_eq_of_rel hkeys hnan (counts_of_ofTokens hfold)⟩
  · refine (Value.same_iff rfl rfl).mpr (congrArg (some ∘ Value.Key.number) ?_)
    exact (exact_nearest hn).symm
  · exact (Value.same_iff rfl rfl).mpr rfl
  · cases a <;> rfl

/-- An operator, the number 1 in three forms, and the number and the text 5. -/
def mixedTokens : List Token :=
  [ .operator (.str "+"), .operand (.int 1), .operand (.float 1.0), .operand (.bool true), .operand (.int 5),
    .operand (.str "5") ]

/-- The tokens backwards, with other forms of the numbers. -/
def mixedTokensBackwards : List Token :=
  [ .operand (.str "5"), .operand (.float 5.0), .operand (.int 1), .operand (.int 1), .operand (.int 1),
    .operator (.str "+") ]

theorem rel_mixedTokens :
    Multiset.Rel (fun t u => t.same u = true) (mixedTokens : Multiset Token) mixedTokensBackwards := by
  have hone : (Token.operand (.float 1.0)).same (.operand (.int 1)) = true := by decide
  have htrue : (Token.operand (.bool true)).same (.operand (.int 1)) = true := by decide
  have hfive : (Token.operand (.int 5)).same (.operand (.float 5.0)) = true := by decide
  have htext : ∀ text : String, (Value.str text).same (.str text) = true := fun _ => (Value.same_iff rfl rfl).mpr rfl
  have hwhole : (Token.operand (.int 1)).same (.operand (.int 1)) = true := by decide
  rw [← Multiset.coe_reverse mixedTokensBackwards, mixedTokens, mixedTokensBackwards]
  simp only [List.reverse_cons, List.reverse_nil, List.nil_append, List.cons_append, ← Multiset.cons_coe,
    Multiset.coe_nil]
  exact .cons (htext "+") (.cons hwhole (.cons hone (.cons htrue (.cons hfive (.cons (htext "5") .zero)))))

/-- The six tokens make a volume of 12 in the end, and the first four of them one of 4. -/
theorem counts_of_mixedTokens :
    (∃ h, ofTokens mixedTokens = .ok h ∧ h.IsTally mixedTokens ∧ h.numbers = (1, 3, 1, 5)) ∧
    (∃ h', ofTokens mixedTokensBackwards = .ok h' ∧ h'.numbers = (1, 3, 1, 5)) ∧
    ∃ h h', ofTokens (mixedTokens.take 4) = .ok h ∧ ofTokens mixedTokens = .ok h' ∧
      @volume Float (.doubles sampledLn sampledLog2) h ≤ @volume Float (.doubles sampledLn sampledLog2) h' := by
  obtain ⟨hstates, hgrow, ⟨h, hfold, hothers⟩, -⟩ :=
    counts_of_tokens (show ∀ t ∈ mixedTokens, t.hasKey = true by decide) (by decide)
  have hfour : ofTokens (mixedTokens.take 4) = .ok ⟨[.str "+"], [.int 1], 1, 3⟩ := rfl
  have hsix : ofTokens mixedTokens = .ok ⟨[.str "+"], [.int 1, .int 5, .str "5"], 1, 5⟩ := rfl
  obtain ⟨h₆, hfold₆, -, htally⟩ := hstates 6
  obtain ⟨h', hfold', hnumbers⟩ := hothers _ rel_mixedTokens
  cases hfold.symm.trans hsix
  cases hfold₆.symm.trans hsix
  obtain ⟨-, -, -, hvolume⟩ := hgrow 4 6 _ _ (by decide) hfour hsix
  exact ⟨⟨_, hsix, htally, rfl⟩, ⟨h', hfold', hnumbers⟩, _, _, hfour, hsix,
    (hvolume sampledLn sampledLog2 monotoneLogs_sampled.log2_mono monotoneLogs_sampled.log2_one).2
      (within_ofNat (show 6 ≤ 2 ^ 53 by norm_num)).finite⟩

end Halstead

end CodeMetrics
