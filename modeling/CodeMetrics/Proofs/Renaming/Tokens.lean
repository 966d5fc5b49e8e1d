import CodeMetrics.Proofs.Calculators.Tokens
import CodeMetrics.Proofs.Renaming.Trees

/-!
# Tokens under other names

Names reach the Halstead counts twice: as operands, and as operators where a function is called by its name. Under an
injective renaming they are still told apart, from each other and from the tokens that stay as they are, if no name is
the text of a literal and no operator looks like a call. Distinct tokens are then as many as before.

* `Renamable` — what is asked of a tree
* `token?_renamed` — one node
* `volume_renamed` — a whole tree
-/

namespace CodeMetrics

namespace Node

variable {r : String → String}

/-- The `name` attribute, if it is a text. -/
def nameText? (n : Node) : Option String := (Fields.get? n.attrs "name").bind Value.str?

/-- The `operator` attribute, if it is a text. -/
def operatorText? (n : Node) : Option String := (Fields.get? n.attrs "operator").bind Value.str?

/-- The text of a literal, if it can be written out. -/
def literalText? (n : Node) : Option String := ((Fields.get? n.attrs "value").getD .null).literalText.toOption

/-- An identifier of the tree has this name. -/
def HasName (n : Node) (s : String) : Prop := ∃ m ∈ n.preorder, m.kind = .identifier ∧ m.nameText? = some s

/-- A literal of the tree has this text. -/
def HasLiteral (n : Node) (t : String) : Prop := ∃ m ∈ n.preorder, m.kind = .literal ∧ m.literalText? = some t

/-- A tree whose identifiers can be renamed: they have names, none of which is the text of a literal before or after,
and no operator ends like the call of a function. -/
structure Renamable (r : String → String) (n : Node) : Prop where
  names : ∀ m ∈ n.preorder, m.kind = .identifier → ∃ s, m.nameText? = some s ∧ s ≠ ""
  literals : ∀ s t, n.HasName s → n.HasLiteral t → s ≠ t ∧ r s ≠ t
  operators : ∀ m ∈ n.preorder, ∀ s, m.operatorText? = some s → ¬"()".toList <:+ s.toList

/-! ## Names -/

theorem name?_renamed {n : Node} (h : n.kind = .identifier) : (n.renamed r).name? = n.name?.map (Value.mapText r) := by
  have hname : Fields.get? (n.renamed r).attrs "name" = (Fields.get? n.attrs "name").map (Value.mapText r) := by
    rw [get?_attrs_renamed, h]
    rfl
  rw [name?, name?, attr?, attr?, hname]
  cases Fields.get? n.attrs "name" with
  | none => rfl
  | some v => cases v <;> rfl

@[simp] theorem identifierName?_renamed (o : Option Node) :
    identifierName? (o.map (renamed r)) = (identifierName? o).map (Value.mapText r) := by
  cases o with
  | none => rfl
  | some n =>
    show (if (n.renamed r).kind = .identifier then _ else _) = Option.map _ (if n.kind = .identifier then _ else _)
    rw [kind_renamed]
    split
    · next hkind => exact name?_renamed hkind
    · rfl

theorem operator?_renamed (n : Node) : (n.renamed r).operator? = n.operator? := by
  rw [operator?, operator?, attr?, attr?, get?_attrs_renamed_of_ne n (by decide)]

theorem name?_of_nameText? {n : Node} {s : String} (h : n.nameText? = some s) : n.name? = some (.str s) := by
  obtain ⟨v, hget, hv⟩ := Option.bind_eq_some_iff.mp h
  rw [name?, attr?, hget]
  cases v with
  | str t =>
    cases hv
    rfl
  | _ => cases hv

/-- The name of an identifier below a node is one of the names. -/
theorem Renamable.identifierName? {root n : Node} (h : root.Renamable r) (hn : n ∈ root.preorder) (key : String) :
    Node.identifierName? (n.child key) = none ∨
      ∃ s, s ≠ "" ∧ root.HasName s ∧ Node.identifierName? (n.child key) = some (.str s) := by
  cases hchild : n.child key with
  | none => exact .inl rfl
  | some c =>
    have hc : c ∈ root.preorder :=
      mem_preorder_trans hn (mem_preorder_of_child (mem_children_of_child hchild) (mem_preorder_self c))
    by_cases hkind : c.kind = .identifier
    · obtain ⟨s, hname, hs⟩ := h.names c hc hkind
      exact .inr ⟨s, hs, ⟨c, hc, hkind, hname⟩, (if_pos hkind).trans (name?_of_nameText? hname)⟩
    · exact .inl (if_neg hkind)

end Node

/-! ## Tokens one by one -/

namespace Token

/-- What becomes of a token: names are replaced, and nothing else. -/
inductive Renamed (r : String → String) (isName : String → Prop) : Token → Token → Prop
  | call (s : String) : Renamed r isName (.operator (.str (s ++ "()"))) (.operator (.str (r s ++ "()")))
  | operator (v : Value) (h : ∀ s, v ≠ .str (s ++ "()")) : Renamed r isName (.operator v) (.operator v)
  | name (s : String) (h : isName s) : Renamed r isName (.operand (.str s)) (.operand (.str (r s)))
  | literal (t : String) (h : ∀ s, isName s → s ≠ t ∧ r s ≠ t) : Renamed r isName (.operand (.str t)) (.operand (.str t))

variable {r : String → String} {isName : String → Prop}

/-- The keys of an operator before and after. -/
def RenamedOperator (r : String → String) (k k' : Value.Key) : Prop :=
  (∃ s, k = .text (s ++ "()") ∧ k' = .text (r s ++ "()")) ∨ (k' = k ∧ ∀ s, k ≠ .text (s ++ "()"))

/-- The keys of an operand before and after. -/
def RenamedOperand (r : String → String) (isName : String → Prop) (k k' : Value.Key) : Prop :=
  (∃ s, isName s ∧ k = .text s ∧ k' = .text (r s)) ∨ (k' = k ∧ ∀ s, isName s → k ≠ .text s ∧ k ≠ .text (r s))

theorem biUnique_renamedOperator (hr : Function.Injective r) : Relator.BiUnique (RenamedOperator r) := by
  constructor
  · rintro a b c (⟨s, rfl, rfl⟩ | ⟨rfl, hc⟩) (⟨t, rfl, heq⟩ | ⟨heq, hb⟩)
    · rw [hr (String.append_left_inj _ |>.mp (Value.Key.text.inj heq))]
    · exact absurd heq.symm (hb (r s))
    · exact absurd heq (hc (r t))
    · exact heq
  · rintro a b c (⟨s, rfl, rfl⟩ | ⟨rfl, hc⟩) (⟨t, heq, rfl⟩ | ⟨rfl, hb⟩)
    · rw [String.append_left_inj _ |>.mp (Value.Key.text.inj heq)]
    · exact absurd rfl (hb s)
    · exact absurd heq (hc t)
    · rfl

theorem biUnique_renamedOperand (hr : Function.Injective r) : Relator.BiUnique (RenamedOperand r isName) := by
  constructor
  · rintro a b c (⟨s, hs, rfl, rfl⟩ | ⟨rfl, hc⟩) (⟨t, ht, rfl, heq⟩ | ⟨heq, hb⟩)
    · rw [hr (Value.Key.text.inj heq)]
    · exact absurd heq.symm (hb s hs).2
    · exact absurd heq (hc t ht).2
    · exact heq
  · rintro a b c (⟨s, hs, rfl, rfl⟩ | ⟨rfl, hc⟩) (⟨t, ht, heq, rfl⟩ | ⟨rfl, hb⟩)
    · rw [Value.Key.text.inj heq]
    · exact absurd rfl (hb s hs).1
    · exact absurd heq (hc t ht).1
    · rfl

theorem Renamed.operatorKey? {t t' : Token} (h : Renamed r isName t t') :
    Option.Rel (RenamedOperator r) t.operatorKey? t'.operatorKey? := by
  cases h with
  | call s => exact .some (.inl ⟨s, rfl, rfl⟩)
  | operator v hv =>
    cases hkey : v.key? with
    | none =>
      rw [Token.operatorKey?, hkey]
      exact .none
    | some k =>
      rw [Token.operatorKey?, hkey]
      refine .some (.inr ⟨rfl, fun s hs => hv s ?_⟩)
      cases v with
      | str t =>
        cases hkey
        rw [Value.Key.text.inj hs]
      | _ =>
        subst hs
        cases hkey
  | name s _ => exact .none
  | literal t _ => exact .none

theorem Renamed.operandKey? {t t' : Token} (h : Renamed r isName t t') :
    Option.Rel (RenamedOperand r isName) t.operandKey? t'.operandKey? := by
  cases h with
  | call s => exact .none
  | operator v _ => exact .none
  | name s hs => exact .some (.inl ⟨s, hs, rfl, rfl⟩)
  | literal t ht =>
    exact .some (.inr ⟨rfl, fun s hs =>
      ⟨fun heq => (ht s hs).1 (Value.Key.text.inj heq).symm, fun heq => (ht s hs).2 (Value.Key.text.inj heq).symm⟩⟩)

end Token

/-! ## Counts -/

namespace Halstead

variable {r : String → String} {isName : String → Prop} {h h' : Halstead}

/-- Counts of some tokens and of the same tokens under other names. -/
def CountsRenamed (r : String → String) (isName : String → Prop) (h h' : Halstead) : Prop :=
  ∃ tokens tokens', h.Counts tokens ∧ h'.Counts tokens' ∧ List.Forall₂ (Token.Renamed r isName) tokens tokens'

theorem CountsRenamed.volume_eq {σ : Type} [Scalar σ] (hr : Function.Injective r) (hcounts : CountsRenamed r isName h h') :
    (h'.volume : σ) = h.volume := by
  obtain ⟨tokens, tokens', hc, hc', hall⟩ := hcounts
  have hoperators := List.rel_filterMap (fun t t' (ht : Token.Renamed r isName t t') => ht.operatorKey?) hall
  have hoperands := List.rel_filterMap (fun t t' (ht : Token.Renamed r isName t t') => ht.operandKey?) hall
  refine volume_congr ?_ ?_
  · rw [hc.vocabulary_eq, hc'.vocabulary_eq, card_toFinset_of_forall₂ (Token.biUnique_renamedOperator hr) hoperators,
      card_toFinset_of_forall₂ (Token.biUnique_renamedOperand hr) hoperands]
  · rw [hc.length_eq, hc'.length_eq, hoperators.length_eq, hoperands.length_eq]

/-- A token is refused under either name, or counted under both. -/
theorem CountsRenamed.add {t t' : Token} (hcounts : CountsRenamed r isName h h') (ht : Token.Renamed r isName t t') :
    Outcome.Rel (CountsRenamed r isName) (h.add t) (h'.add t') := by
  obtain ⟨tokens, tokens', hc, hc', hall⟩ := hcounts
  have hkey : t.hasKey = t'.hasKey := by cases ht <;> rfl
  rcases hc.add t with ⟨hk, h₁, hadd, hc₁⟩ | ⟨hk, hadd⟩ <;>
    rcases hc'.add t' with ⟨hk', h₁', hadd', hc₁'⟩ | ⟨hk', hadd'⟩
  · rw [hadd, hadd']
    exact .ok ⟨_, _, hc₁, hc₁', List.rel_append hall (.cons ht .nil)⟩
  · exact absurd (hkey.symm.trans hk) (by rw [hk']; exact Bool.false_ne_true)
  · exact absurd (hkey.trans hk') (by rw [hk]; exact Bool.false_ne_true)
  · rw [hadd, hadd']
    exact .error _

end Halstead

/-! ## Trees -/

namespace Node

variable {r : String → String}

theorem str_ne_call {t : String} (h : t.toList.getLast? ≠ some ')') (s : String) : Value.str t ≠ .str (s ++ "()") := by
  intro heq
  rw [Value.str.inj heq, String.toList_append] at h
  simp at h

theorem get?_of_attr? {n : Node} {key : String} {v : Value} (h : n.attr? key = some v) :
    Fields.get? n.attrs key = some v := by
  unfold attr? at h
  split at h
  · cases h
  · exact h

theorem Renamable.operator_ne_call {root n : Node} (h : root.Renamable r) (hn : n ∈ root.preorder) (s : String) :
    Value.orElse n.operator? (.str "") ≠ .str (s ++ "()") := by
  intro heq
  unfold Value.orElse at heq
  split at heq
  · next v hv =>
    split at heq
    · have hown : n.operatorText? = some (s ++ "()") := by rw [operatorText?, get?_of_attr? hv, heq]; rfl
      refine h.operators n hn _ hown ?_
      rw [String.toList_append]
      exact List.suffix_append _ _
    · exact str_ne_call (by decide) s heq
  · exact str_ne_call (by decide) s heq

variable (hne : ∀ s, s ≠ "" → r s ≠ "")

include hne

/-- The token of a node under other names, or the error that keeps it from having one. -/
theorem token?_renamed {root n : Node} (h : root.Renamable r) (hn : n ∈ root.preorder) :
    Outcome.Rel (Option.Rel (Token.Renamed r root.HasName)) n.token? (n.renamed r).token? := by
  have hname : ∀ s, s ≠ "" → Value.orElse (some (.str s)) (.str "") = .str s := by
    intro s hs
    simp [Value.orElse, Value.truthy, hs]
  unfold token?
  rw [kind_renamed, operator?_renamed, child_renamed, child_renamed, identifierName?_renamed, identifierName?_renamed,
    get?_attrs_renamed_of_ne n (by decide)]
  split
  · exact .ok (.some (.operator _ (h.operator_ne_call hn)))
  · split
    · next hkind =>
      obtain ⟨s, hown, hs⟩ := h.names n hn hkind
      rw [name?_renamed hkind, name?_of_nameText? hown, Option.map_some, Value.mapText_str, hname s hs,
        hname _ (hne s hs)]
      exact .ok (.some (.name s ⟨n, hn, hkind, hown⟩))
    · next hkind =>
      cases htext : ((Fields.get? n.attrs "value").getD .null).literalText with
      | error e => exact .error e
      | ok t =>
        have hown : n.literalText? = some t := by rw [literalText?, htext]; rfl
        exact .ok (.some (.literal t fun s hs => h.literals s t hs ⟨n, hn, hkind, hown⟩))
    · rcases h.identifierName? hn "property" with hnone | ⟨s, -, hs, hsome⟩
      · rw [hnone]
        exact .ok .none
      · rw [hsome]
        exact .ok (.some (.name s hs))
    -- A call is an operator made of a name, and no other operator looks like one.
    · rcases h.identifierName? hn "callee" with hnone | ⟨s, -, hs, hsome⟩
      · rw [hnone]
        exact .ok .none
      · rw [hsome]
        exact .ok (.some (.call s))
    · exact .ok (.some (.operator _ (str_ne_call (by decide))))
    · exact .ok (.some (.operator _ (str_ne_call (by decide))))
    · exact .ok .none

/-- The volume of a part of the tree is the same under other names. -/
theorem volume_renamed {σ : Type} [Scalar σ] (hr : Function.Injective r) {root n : Node} (h : root.Renamable r)
    (hn : n ∈ root.preorder) : ((n.renamed r).volume : Except Error σ) = n.volume := by
  have hnodes : List.Forall₂ (fun m m' => m ∈ root.preorder ∧ m' = m.renamed r) n.preorder (n.renamed r).preorder := by
    rw [preorder_renamed, List.forall₂_map_right_iff, List.forall₂_same]
    exact fun m hm => ⟨mem_preorder_trans hn hm, rfl⟩
  have hrecord : ∀ c d m m', Halstead.CountsRenamed r root.HasName c d → m ∈ root.preorder ∧ m' = m.renamed r →
      Outcome.Rel (Halstead.CountsRenamed r root.HasName) (record c m) (record d m') := by
    rintro c d m _ hcounts ⟨hm, rfl⟩
    refine (token?_renamed hne h hm).bind ?_
    rintro _ _ (ht | _)
    · exact hcounts.add ht
    · exact .ok hcounts
  have hfold := Outcome.Rel.foldlM hnodes hrecord Halstead.empty Halstead.empty
    ⟨[], [], Halstead.counts_empty, Halstead.counts_empty, .nil⟩
  have hvolume : Outcome.Rel Eq (n.volume : Except Error σ) (n.renamed r).volume := by
    rw [volume, volume, halstead, halstead, walk_eq, walk_eq]
    exact hfold.bind fun _ _ hcounts => .ok (hcounts.volume_eq hr).symm
  exact hvolume.eq.symm

end Node

end CodeMetrics
