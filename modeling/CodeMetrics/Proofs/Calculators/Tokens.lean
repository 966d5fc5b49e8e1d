import CodeMetrics.Proofs.Analysis.Measuring
import Mathlib.Data.Finset.Card

/-!
# Halstead counts as sizes

Tokens are told apart by their keys. What the counts of a tree hold comes down to two lists of keys, those of its
operators and those of its operands: the numbers of occurrences are the lengths of these lists, and the numbers of
distinct tokens are the sizes of the sets of their members.

* `Halstead.Collects.insert`, `Halstead.Counts.add` — one token
* `Halstead.Counts.foldlM`, `Node.counts_of_halstead` — tokens in a row, and those of a tree
* `Halstead.Counts.vocabulary_le_length` — no more distinct tokens than occurrences
-/

namespace CodeMetrics

namespace Token

/-- The key of an operator. -/
def operatorKey? : Token → Option Value.Key
  | operator v => v.key?
  | operand _ => none

/-- The key of an operand. -/
def operandKey? : Token → Option Value.Key
  | operator _ => none
  | operand v => v.key?

end Token

namespace Halstead

/-! ## Distinct values -/

/-- Values that are kept once for each of some keys, and how many keys there are with repetitions. -/
structure Collects (kept : List Value) (count : Nat) (keys : List Value.Key) : Prop where
  count_eq : count = keys.length
  nodup : (kept.map Value.key?).Nodup
  mem_iff : ∀ key, key ∈ kept.map Value.key? ↔ key ∈ keys.map some

theorem collects_nil : Collects [] 0 [] := ⟨rfl, List.nodup_nil, fun _ => Iff.rfl⟩

/-- Inserting a value adds its key. -/
theorem Collects.insert {kept : List Value} {count : Nat} {keys : List Value.Key} (h : Collects kept count keys)
    {v : Value} {key : Value.Key} (hkey : v.key? = some key) :
    Collects (if some key ∈ kept.map Value.key? then kept else kept ++ [v]) (count + 1) (keys ++ [key]) := by
  have hlength : count + 1 = (keys ++ [key]).length := by rw [List.length_append, h.count_eq]; rfl
  split
  · next hold =>
    refine ⟨hlength, h.nodup, fun k => ?_⟩
    rw [h.mem_iff, List.map_append, List.mem_append, List.map_singleton, List.mem_singleton]
    refine ⟨.inl, fun hk => ?_⟩
    rcases hk with hk | rfl
    · exact hk
    · exact (h.mem_iff _).mp hold
  · next hnew =>
    refine ⟨hlength, ?_, fun k => ?_⟩
    · rw [List.map_append, List.map_singleton, hkey, ← List.concat_eq_append]
      exact h.nodup.concat hnew
    · rw [List.map_append, List.map_append, List.mem_append, List.mem_append, h.mem_iff, List.map_singleton,
        List.map_singleton, hkey]

theorem Collects.length_eq {kept : List Value} {count : Nat} {keys : List Value.Key} (h : Collects kept count keys) :
    kept.length = keys.toFinset.card := by
  have hsame : (kept.map Value.key?).toFinset = keys.toFinset.map .some := by
    ext key
    rw [List.mem_toFinset, h.mem_iff, Finset.mem_map, List.mem_map]
    simp only [List.mem_toFinset, Function.Embedding.some_apply]
  rw [← List.length_map Value.key?, ← List.toFinset_card_of_nodup h.nodup, hsame, Finset.card_map]

/-- What is kept of some keys, and how many there are, does not go by their order. -/
theorem Collects.eq_of_perm {kept others : List Value} {count count' : Nat} {keys keys' : List Value.Key}
    (h : Collects kept count keys) (h' : Collects others count' keys') (hperm : keys.Perm keys') :
    kept.length = others.length ∧ count = count' := by
  rw [h.length_eq, h'.length_eq, h.count_eq, h'.count_eq, List.toFinset_eq_of_perm _ _ hperm]
  exact ⟨rfl, hperm.length_eq⟩

/-! ## Counts of tokens -/

/-- Counts hold all of some tokens. -/
structure Counts (h : Halstead) (tokens : List Token) : Prop where
  operators : Collects h.operators h.operatorCount (tokens.filterMap Token.operatorKey?)
  operands : Collects h.operands h.operandCount (tokens.filterMap Token.operandKey?)

theorem counts_empty : Counts empty [] := ⟨collects_nil, collects_nil⟩

/-- A token without a key is refused; any other is counted. -/
theorem Counts.add {h : Halstead} {tokens : List Token} (hcounts : h.Counts tokens) (token : Token) :
    (token.hasKey = true ∧ ∃ h', h.add token = .ok h' ∧ h'.Counts (tokens ++ [token])) ∨
      (token.hasKey = false ∧ h.add token = .error (.mismatch .unhashable)) := by
  cases token with
  | operator v =>
    rcases insertToken_eq h.operators v with ⟨key, hkey, hinsert⟩ | ⟨hkey, hinsert⟩
    · refine .inl ⟨by rw [Token.hasKey, hkey]; rfl, _, by rw [Halstead.add, hinsert]; rfl, ?_, ?_⟩
      · simpa [List.filterMap_append, Token.operatorKey?, hkey] using hcounts.operators.insert hkey
      · simpa [List.filterMap_append, List.filterMap_cons, Token.operandKey?] using hcounts.operands
    · exact .inr ⟨by rw [Token.hasKey, hkey]; rfl, by rw [Halstead.add, hinsert]; rfl⟩
  | operand v =>
    rcases insertToken_eq h.operands v with ⟨key, hkey, hinsert⟩ | ⟨hkey, hinsert⟩
    · refine .inl ⟨by rw [Token.hasKey, hkey]; rfl, _, by rw [Halstead.add, hinsert]; rfl, ?_, ?_⟩
      · simpa [List.filterMap_append, List.filterMap_cons, Token.operatorKey?] using hcounts.operators
      · simpa [List.filterMap_append, Token.operandKey?, hkey] using hcounts.operands.insert hkey
    · exact .inr ⟨by rw [Token.hasKey, hkey]; rfl, by rw [Halstead.add, hinsert]; rfl⟩

/-- Tokens that are added one after the other are counted behind those before. -/
theorem Counts.foldlM {tokens : List Token} : ∀ {h h' : Halstead} {before : List Token}, h.Counts before →
    tokens.foldlM Halstead.add h = .ok h' → h'.Counts (before ++ tokens) := by
  induction tokens with
  | nil =>
    intro h h' before hcounts hfold
    cases hfold
    rwa [List.append_nil]
  | cons t rest ih =>
    intro h h' before hcounts hfold
    rw [List.foldlM_cons, Outcome.bind_eq_ok] at hfold
    obtain ⟨mid, hmid, hrest⟩ := hfold
    rcases hcounts.add t with ⟨-, h₁, hadd, hcounts₁⟩ | ⟨-, herror⟩
    · cases hadd.symm.trans hmid
      rw [← List.singleton_append, ← List.append_assoc]
      exact ih hcounts₁ hrest
    · cases herror.symm.trans hmid

namespace Counts

variable {h : Halstead} {tokens : List Token} (hcounts : h.Counts tokens)

include hcounts

theorem vocabulary_eq : h.vocabulary = (tokens.filterMap Token.operatorKey?).toFinset.card
    + (tokens.filterMap Token.operandKey?).toFinset.card := by
  rw [vocabulary, hcounts.operators.length_eq, hcounts.operands.length_eq]

theorem length_eq : h.length = (tokens.filterMap Token.operatorKey?).length
    + (tokens.filterMap Token.operandKey?).length := by
  rw [length, hcounts.operators.count_eq, hcounts.operands.count_eq]

/-- There are no more distinct tokens than occurrences. -/
theorem vocabulary_le_length : h.vocabulary ≤ h.length := by
  rw [hcounts.vocabulary_eq, hcounts.length_eq]
  exact Nat.add_le_add (List.toFinset_card_le _) (List.toFinset_card_le _)

end Counts

/-- The volume goes by the number of distinct tokens and by that of occurrences. -/
theorem volume_congr {σ : Type} [Scalar σ] {h other : Halstead} (hvocabulary : h.vocabulary = other.vocabulary)
    (hlength : h.length = other.length) : (h.volume : σ) = other.volume := by
  rw [volume, volume, hvocabulary, hlength]

/-- The volume does not go by the order of tokens. -/
theorem Counts.volume_eq_of_perm {σ : Type} [Scalar σ] {h other : Halstead} {tokens others : List Token}
    (hcounts : h.Counts tokens) (hcounts' : other.Counts others) (hperm : tokens.Perm others) :
    (h.volume : σ) = other.volume := by
  obtain ⟨hoperators, hoperatorCount⟩ := hcounts.operators.eq_of_perm hcounts'.operators (hperm.filterMap _)
  obtain ⟨hoperands, hoperandCount⟩ := hcounts.operands.eq_of_perm hcounts'.operands (hperm.filterMap _)
  exact volume_congr (congrArg₂ Nat.add hoperators hoperands) (congrArg₂ Nat.add hoperatorCount hoperandCount)

/-- Keys that are matched one to one, each with a single one, are as many distinct ones. -/
theorem card_toFinset_of_forall₂ {α β : Type} [DecidableEq α] [DecidableEq β] {R : α → β → Prop}
    (hR : Relator.BiUnique R) {as : List α} {bs : List β} (h : List.Forall₂ R as bs) :
    as.toFinset.card = bs.toFinset.card := by
  induction h with
  | nil => rfl
  | @cons a b as bs hab hrest ih =>
    have hmem : a ∈ as ↔ b ∈ bs := List.rel_mem hR hab hrest
    rw [List.toFinset_cons, List.toFinset_cons]
    by_cases ha : a ∈ as
    · rw [Finset.insert_eq_of_mem (List.mem_toFinset.mpr ha), Finset.insert_eq_of_mem (List.mem_toFinset.mpr (hmem.mp ha)),
        ih]
    · rw [Finset.card_insert_of_notMem (mt List.mem_toFinset.mp ha),
        Finset.card_insert_of_notMem (mt List.mem_toFinset.mp (mt hmem.mpr ha)), ih]

/-- Counts are at most others, each number by itself. -/
structure AtMost (h other : Halstead) : Prop where
  operators : h.operators.length ≤ other.operators.length
  operands : h.operands.length ≤ other.operands.length
  operatorCount : h.operatorCount ≤ other.operatorCount
  operandCount : h.operandCount ≤ other.operandCount

theorem AtMost.vocabulary_le {h other : Halstead} (hmost : h.AtMost other) : h.vocabulary ≤ other.vocabulary :=
  Nat.add_le_add hmost.operators hmost.operands

theorem AtMost.length_le {h other : Halstead} (hmost : h.AtMost other) : h.length ≤ other.length :=
  Nat.add_le_add hmost.operatorCount hmost.operandCount

theorem Collects.le_of_sublist {kept others : List Value} {count count' : Nat} {keys keys' : List Value.Key}
    (h : Collects kept count keys) (h' : Collects others count' keys') (hsub : keys.Sublist keys') :
    kept.length ≤ others.length ∧ count ≤ count' := by
  rw [h.length_eq, h'.length_eq, h.count_eq, h'.count_eq]
  refine ⟨Finset.card_le_card fun key hkey => ?_, hsub.length_le⟩
  rw [List.mem_toFinset] at hkey ⊢
  exact hsub.subset hkey

/-- Some of the tokens give counts that are at most those of all. -/
theorem Counts.atMost_of_sublist {h other : Halstead} {tokens others : List Token} (hcounts : h.Counts tokens)
    (hcounts' : other.Counts others) (hsub : tokens.Sublist others) : h.AtMost other := by
  obtain ⟨hoperators, hoperatorCount⟩ := hcounts.operators.le_of_sublist hcounts'.operators (hsub.filterMap _)
  obtain ⟨hoperands, hoperandCount⟩ := hcounts.operands.le_of_sublist hcounts'.operands (hsub.filterMap _)
  exact ⟨hoperators, hoperands, hoperatorCount, hoperandCount⟩

end Halstead

namespace Node

/-! ## Tokens of a tree -/

/-- The tokens of a list of nodes, one from each that has one. -/
def tokensOf (nodes : List Node) : List Token := nodes.filterMap fun n => n.token?.toOption.join

/-- The tokens of a tree. -/
def tokens (n : Node) : List Token := tokensOf n.preorder

/-- Recording nodes one after the other adds their tokens. -/
theorem foldlM_record {nodes : List Node} : ∀ {h h' : Halstead},
    nodes.foldlM record h = .ok h' → (tokensOf nodes).foldlM Halstead.add h = .ok h' := by
  induction nodes with
  | nil => exact fun hfold => hfold
  | cons n rest ih =>
    intro h h' hfold
    rw [List.foldlM_cons, Outcome.bind_eq_ok] at hfold
    obtain ⟨mid, hmid, hrest⟩ := hfold
    obtain ⟨token, htoken, hmid⟩ := Outcome.bind_eq_ok.mp hmid
    cases token with
    | none =>
      cases hmid
      have hnone : tokensOf (n :: rest) = tokensOf rest := by simp [tokensOf, htoken, Except.toOption]
      rw [hnone]
      exact ih hrest
    | some t =>
      have hsome : tokensOf (n :: rest) = t :: tokensOf rest := by simp [tokensOf, htoken, Except.toOption]
      rw [hsome, List.foldlM_cons]
      exact Outcome.bind_eq_ok.mpr ⟨mid, hmid, ih hrest⟩

/-- Recording nodes one after the other counts their tokens. -/
theorem counts_of_foldlM {nodes : List Node} {h h' : Halstead} {before : List Token} (hcounts : h.Counts before)
    (hfold : nodes.foldlM record h = .ok h') : h'.Counts (before ++ tokensOf nodes) :=
  hcounts.foldlM (foldlM_record hfold)

/-- The counts of a tree hold all its tokens. -/
theorem counts_of_halstead {n : Node} {h : Halstead} (hn : n.halstead = .ok h) : h.Counts n.tokens := by
  rw [halstead, walk_eq] at hn
  exact counts_of_foldlM Halstead.counts_empty hn

theorem vocabulary_le_length {n : Node} {h : Halstead} (hn : n.halstead = .ok h) : h.vocabulary ≤ h.length :=
  (counts_of_halstead hn).vocabulary_le_length

/-- The counts below a node are at most those of the whole tree. -/
theorem halstead_atMost {n m : Node} {h h' : Halstead} (hm : m ∈ n.preorder) (hh : m.halstead = .ok h)
    (hh' : n.halstead = .ok h') : h.AtMost h' :=
  (counts_of_halstead hh).atMost_of_sublist (counts_of_halstead hh') ((preorder_sublist hm).filterMap _)

end Node

end CodeMetrics
