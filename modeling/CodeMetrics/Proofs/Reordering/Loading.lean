import CodeMetrics.Proofs.Loading.Tree
import CodeMetrics.Proofs.Matching

/-!
# Documents in another order

A document is reordered by putting the members of some of its nodes, and the items of some of its lists of nodes, in
another order; all other values stay as they are. The loader looks members up by key and takes all nodes of a list, so
the objects that are nodes match before and after, and one document is accepted exactly if the other is.

* `Reordered.induction` — induction along the nodes of a document
* `Reordered.nodeObjects` — the objects that are nodes
* `Reordered.exists_convert` — which documents are accepted
-/

namespace CodeMetrics

open Loader

/-! ## Reordered documents -/

mutual

/-- The second document has the members of its nodes and the items of its lists of nodes in another order. -/
inductive Reordered : Value → Value → Prop
  | object {members mid members' : List (String × Value)} (hperm : members.Perm mid)
      (hmembers : ReorderedMembers mid members') : Reordered (.object members) (.object members')

/-- Members of a node, one by one: what is no child stays, and the items of a list may stand in another order. -/
inductive ReorderedMembers : List (String × Value) → List (String × Value) → Prop
  | nil : ReorderedMembers [] []
  | kept {key : String} {v : Value} {rest rest' : List (String × Value)} (h : isChild (key, v) = false)
      (hrest : ReorderedMembers rest rest') : ReorderedMembers ((key, v) :: rest) ((key, v) :: rest')
  | null {key : String} {rest rest' : List (String × Value)} (hrest : ReorderedMembers rest rest') :
      ReorderedMembers ((key, .null) :: rest) ((key, .null) :: rest')
  | one {key : String} {v v' : Value} {rest rest' : List (String × Value)} (h : isChild (key, v) = true)
      (hchild : Reordered v v') (hrest : ReorderedMembers rest rest') :
      ReorderedMembers ((key, v) :: rest) ((key, v') :: rest')
  | many {key : String} {items mid items' : List Value} {rest rest' : List (String × Value)}
      (h : isChild (key, .list items) = true) (hperm : items.Perm mid) (hitems : ReorderedItems mid items')
      (hrest : ReorderedMembers rest rest') :
      ReorderedMembers ((key, .list items) :: rest) ((key, .list items') :: rest')

/-- Items of a list, one by one: what is no node stays. -/
inductive ReorderedItems : List Value → List Value → Prop
  | nil : ReorderedItems [] []
  | kept {v : Value} {rest rest' : List Value} (h : isNode v = false) (hrest : ReorderedItems rest rest') :
      ReorderedItems (v :: rest) (v :: rest')
  | node {v v' : Value} {rest rest' : List Value} (h : isNode v = true) (hnode : Reordered v v')
      (hrest : ReorderedItems rest rest') : ReorderedItems (v :: rest) (v' :: rest')

end

mutual

/-- A document is reordered by leaving it as it is. -/
theorem Reordered.refl : ∀ members : List (String × Value), Reordered (.object members) (.object members)
  | members => .object (.refl members) (ReorderedMembers.refl members)
termination_by members => (sizeOf members, 1)

theorem ReorderedMembers.refl : ∀ members : List (String × Value), ReorderedMembers members members
  | [] => .nil
  | (key, v) :: rest => by
    have hrest := ReorderedMembers.refl rest
    cases hchild : isChild (key, v) with
    | false => exact .kept hchild hrest
    | true =>
      cases v with
      | null => exact .null hrest
      | object members => exact .one hchild (Reordered.refl members) hrest
      | list items => exact .many hchild (.refl items) (ReorderedItems.refl items) hrest
      | _ => simp [isChild, isSlot] at hchild
termination_by members => (sizeOf members, 0)

theorem ReorderedItems.refl : ∀ items : List Value, ReorderedItems items items
  | [] => .nil
  | v :: rest => by
    have hrest := ReorderedItems.refl rest
    cases hnode : isNode v with
    | false => exact .kept hnode hrest
    | true =>
      cases v with
      | object members => exact .node hnode (Reordered.refl members) hrest
      | _ => cases hnode
termination_by items => (sizeOf items, 0)

end

/-- An item of a list before and after. -/
inductive ItemRel (R : Value → Value → Prop) : Value → Value → Prop
  | kept {v : Value} (h : isNode v = false) : ItemRel R v v
  | node {v v' : Value} (h : isNode v = true) (hr : R v v') : ItemRel R v v'

/-- A member of a node before and after. -/
inductive MemberRel (R : Value → Value → Prop) : String × Value → String × Value → Prop
  | kept {key : String} {v : Value} (h : isChild (key, v) = false) : MemberRel R (key, v) (key, v)
  | null {key : String} : MemberRel R (key, .null) (key, .null)
  | one {key : String} {v v' : Value} (h : isChild (key, v) = true) (hr : R v v') : MemberRel R (key, v) (key, v')
  | many {key : String} {items items' : List Value} (h : isChild (key, .list items) = true)
      (hitems : Matched (ItemRel R) items items') : MemberRel R (key, .list items) (key, .list items')

/-- What holds of two nodes if it holds of their children. -/
def Reordered.Step (P : Value → Value → Prop) : Prop :=
  ∀ {members members'}, Matched (MemberRel fun v v' => Reordered v v' ∧ P v v') members members' →
    P (.object members) (.object members')

mutual

/-- What holds of two nodes whenever it holds of their children holds along a whole document. -/
theorem Reordered.induction {P : Value → Value → Prop} (step : Reordered.Step P) : ∀ {v v' : Value},
    Reordered v v' → P v v'
  | _, _, .object hperm hmembers => step ⟨_, hperm, ReorderedMembers.forall₂ step hmembers⟩

theorem ReorderedMembers.forall₂ {P : Value → Value → Prop} (step : Reordered.Step P) :
    ∀ {members members' : List (String × Value)}, ReorderedMembers members members' →
    List.Forall₂ (MemberRel fun v v' => Reordered v v' ∧ P v v') members members'
  | _, _, .nil => .nil
  | _, _, .kept h hrest => .cons (.kept h) (ReorderedMembers.forall₂ step hrest)
  | _, _, .null hrest => .cons .null (ReorderedMembers.forall₂ step hrest)
  | _, _, .one h hchild hrest =>
    .cons (.one h ⟨hchild, Reordered.induction step hchild⟩) (ReorderedMembers.forall₂ step hrest)
  | _, _, .many h hperm hitems hrest =>
    .cons (.many h ⟨_, hperm, ReorderedItems.forall₂ step hitems⟩) (ReorderedMembers.forall₂ step hrest)

theorem ReorderedItems.forall₂ {P : Value → Value → Prop} (step : Reordered.Step P) : ∀ {items items' : List Value},
    ReorderedItems items items' → List.Forall₂ (ItemRel fun v v' => Reordered v v' ∧ P v v') items items'
  | _, _, .nil => .nil
  | _, _, .kept h hrest => .cons (.kept h) (ReorderedItems.forall₂ step hrest)
  | _, _, .node h hnode hrest =>
    .cons (.node h ⟨hnode, Reordered.induction step hnode⟩) (ReorderedItems.forall₂ step hrest)

end

/-! ## What stays -/

section Members

variable {R : Value → Value → Prop} {members members' : List (String × Value)}

theorem MemberRel.key_eq {m m' : String × Value} (h : MemberRel R m m') : m'.1 = m.1 := by cases h <;> rfl

/-- What only keeps books stays. -/
theorem MemberRel.value_eq {m m' : String × Value} (h : MemberRel R m m') (hkey : m.1 ∈ bookkeeping) : m'.2 = m.2 := by
  cases h with
  | kept _ => rfl
  | null => rfl
  | one hchild _ => simp [isChild, hkey] at hchild
  | many hchild _ => simp [isChild, hkey] at hchild

theorem keys_perm_of_matched (h : Matched (MemberRel R) members members') :
    (Fields.keys members).Perm (Fields.keys members') :=
  (h.map fun _ _ hrel => hrel.key_eq.symm).perm

/-- Members are looked up alike. -/
theorem get?_of_matched (h : Matched (MemberRel R) members members') (hnodup : (Fields.keys members).Nodup)
    {key : String} (hkey : key ∈ bookkeeping) : Fields.get? members' key = Fields.get? members key := by
  obtain ⟨mid, hperm, hall⟩ := h
  rw [← Fields.get?_perm hnodup hperm]
  clear hperm
  induction hall with
  | nil => rfl
  | @cons m m' rest rest' hm _ ih =>
    obtain ⟨k, v⟩ := m
    obtain ⟨k', v'⟩ := m'
    have hk : k' = k := hm.key_eq
    rw [Fields.get?, Fields.get?, hk]
    split
    · next hsame => rw [show v' = v from hm.value_eq (by rw [hsame]; exact hkey)]
    · exact ih

theorem tag?_of_matched (h : Matched (MemberRel R) members members') (hnodup : (Fields.keys members).Nodup) :
    tag? (.object members') = tag? (.object members) := by
  rw [tag?, tag?, Value.field?, Value.field?, get?_of_matched h hnodup (by decide)]

theorem spanOf_of_matched (h : Matched (MemberRel R) members members') (hnodup : (Fields.keys members).Nodup)
    (place : Place) : spanOf (.object members') place = spanOf (.object members) place := by
  rw [spanOf, spanOf, Value.field?, Value.field?, get?_of_matched h hnodup (by decide)]

end Members

/-- A node is a node in another order. -/
theorem Reordered.isNode_eq {v v' : Value} (h : Reordered v v') (hkeys : v.hasDistinctKeys) : isNode v' = isNode v := by
  cases h with
  | object hperm hmembers =>
    rw [Value.hasDistinctKeys_object] at hkeys
    have hmatched := ReorderedMembers.forall₂ (P := fun _ _ => True) (fun _ => trivial) hmembers
    rw [isNode, isNode, tag?_of_matched ⟨_, hperm, hmatched⟩ hkeys.1]

theorem ItemRel.isNode_eq {P : Value → Value → Prop} {v v' : Value}
    (h : ItemRel (fun v v' => Reordered v v' ∧ P v v') v v') (hkeys : v.hasDistinctKeys) : isNode v' = isNode v := by
  cases h with
  | kept _ => rfl
  | node _ hr => exact hr.1.isNode_eq hkeys

/-- A list of nodes is one in another order. -/
theorem isNodeList_of_matched {P : Value → Value → Prop} {items items' : List Value}
    (h : Matched (ItemRel fun v v' => Reordered v v' ∧ P v v') items items')
    (hkeys : ∀ v ∈ items, v.hasDistinctKeys) : isNodeList items' = isNodeList items := by
  have hany : items'.any isNode = items.any isNode := by
    rw [Bool.eq_iff_iff, List.any_eq_true, List.any_eq_true]
    constructor
    · rintro ⟨v', hv', hnode⟩
      obtain ⟨v, hv, hitem⟩ := h.exists_right hv'
      exact ⟨v, hv, (hitem.isNode_eq (hkeys v hv)).symm.trans hnode⟩
    · rintro ⟨v, hv, hnode⟩
      obtain ⟨v', hv', hitem⟩ := h.exists_left hv
      exact ⟨v', hv', (hitem.isNode_eq (hkeys v hv)).trans hnode⟩
  have hempty : items'.isEmpty = items.isEmpty := by
    rw [Bool.eq_iff_iff, List.isEmpty_iff_length_eq_zero, List.isEmpty_iff_length_eq_zero, h.length_eq]
  rw [isNodeList, isNodeList, hany, hempty]

/-- A child is a child in another order. -/
theorem MemberRel.isChild_eq {P : Value → Value → Prop} {m m' : String × Value}
    (h : MemberRel (fun v v' => Reordered v v' ∧ P v v') m m') (hkeys : m.2.hasDistinctKeys) :
    isChild m' = isChild m := by
  cases h with
  | kept _ => rfl
  | null => rfl
  | one hchild hr =>
    have hnode := hr.1.isNode_eq hkeys
    cases hr.1 with
    | object _ _ => simp only [isChild, isSlot, hnode]
  | many hchild hitems =>
    rw [Value.hasDistinctKeys, Value.haveDistinctKeys_iff] at hkeys
    simp only [isChild, isSlot, isNodeList_of_matched hitems hkeys]

/-- Documents with each key once, before and after. -/
theorem Reordered.hasDistinctKeys {v v' : Value} (h : Reordered v v') : v.hasDistinctKeys → v'.hasDistinctKeys := by
  refine Reordered.induction (P := fun v v' => v.hasDistinctKeys → v'.hasDistinctKeys) ?_ h
  intro members members' hmatched hkeys
  rw [Value.hasDistinctKeys_object, Value.membersDistinct_iff] at hkeys ⊢
  refine ⟨(keys_perm_of_matched hmatched).nodup_iff.mp hkeys.1, fun m' hm' => ?_⟩
  obtain ⟨m, hm, hrel⟩ := hmatched.exists_right hm'
  have hdistinct := hkeys.2 m hm
  cases hrel with
  | kept _ => exact hdistinct
  | null => exact hdistinct
  | one _ hr => exact hr.2 hdistinct
  | many _ hitems =>
    rw [Value.hasDistinctKeys, Value.haveDistinctKeys_iff] at hdistinct ⊢
    intro w' hw'
    obtain ⟨w, hw, hitem⟩ := hitems.exists_right hw'
    cases hitem with
    | kept _ => exact hdistinct _ hw
    | node _ hr => exact hr.2 (hdistinct _ hw)

/-! ## Which documents are accepted -/

namespace Loader

/-- The members of an object give a tag and, if they give lines, a range of them. -/
def HasHead (members : List (String × Value)) : Prop :=
  (tag? (.object members)).isSome ∧ ∃ span, spanOf (.object members) [] = .ok span

/-- The range that lines are does not depend on the place. -/
theorem spanOf_eq_ok {v : Value} {place : Place} {span : Option Span} :
    spanOf v place = .ok span ↔ spanOf v [] = .ok span := by
  unfold spanOf
  split
  · rfl
  · rfl
  · split
    · split
      · split
        · rfl
        · simp [malformed]
      · simp [malformed]
    · simp [malformed]

theorem slotObjects_of_not {key : String} {v : Value} (h : isChild (key, v) = false) : slotObjects key v = [] :=
  if_neg (by rw [h]; exact Bool.false_ne_true)

theorem slotObjects_list {key : String} {items : List Value} (h : isChild (key, .list items) = true) :
    slotObjects key (.list items) = itemObjects items := if_pos h

theorem slotObjects_object {key : String} {members : List (String × Value)}
    (h : isChild (key, .object members) = true) : slotObjects key (.object members) = nodeObjects (.object members) :=
  if_pos h

/-- A member that is neither a list nor an object is accepted and holds no nodes. -/
theorem exists_convertSlot_leaf (v : Value) (hlist : ∀ items, v ≠ .list items) (hobject : ∀ members, v ≠ .object members)
    (place : Place) (key : String) :
    (∃ slot, convertSlot place key v = .ok slot) ↔ ∀ m ∈ slotObjects key v, HasHead m := by
  cases hchild : isChild (key, v) with
  | false =>
    rw [convertSlot_of_not hchild, slotObjects_of_not hchild]
    exact ⟨fun _ m hm => absurd hm List.not_mem_nil, fun _ => ⟨_, rfl⟩⟩
  | true =>
    cases v with
    | list items => exact absurd rfl (hlist items)
    | object members => exact absurd rfl (hobject members)
    | null =>
      have hslot : convertSlot place key .null = .ok (some .absent) := if_neg (by rw [isChild] at hchild; simpa using hchild)
      have hobjects : slotObjects key .null = [] := if_pos hchild
      rw [hslot, hobjects]
      exact ⟨fun _ m hm => absurd hm List.not_mem_nil, fun _ => ⟨_, rfl⟩⟩
    | _ => simp [isChild, isSlot] at hchild

mutual

/-- An object is accepted if every object that is reached from it as a node has a tag and lines that are a range. -/
theorem exists_convert : ∀ (members : List (String × Value)) (place : Place),
    (∃ n, convert place (.object members) = .ok n) ↔ ∀ m ∈ nodeObjects (.object members), HasHead m
  | members, place => by
    rw [nodeObjects, List.forall_mem_cons, ← exists_convertMembers members place, HasHead, convert]
    cases htag : tag? (.object members) with
    | none => simp [malformed]
    | some tag =>
      simp only [Option.isSome_some, true_and, Outcome.exists_bind_eq_ok]
      constructor
      · rintro ⟨span, hspan, slots, hslots, -⟩
        exact ⟨⟨span, spanOf_eq_ok.mp hspan⟩, slots, hslots⟩
      · rintro ⟨⟨span, hspan⟩, slots, hslots⟩
        exact ⟨span, spanOf_eq_ok.mpr hspan, slots, hslots, _, rfl⟩
termination_by members => (sizeOf members, 1)

theorem exists_convertMembers : ∀ (members : List (String × Value)) (place : Place),
    (∃ slots, convertMembers place members = .ok slots) ↔ ∀ m ∈ memberObjects members, HasHead m
  | [], place => ⟨fun _ m hm => absurd hm List.not_mem_nil, fun _ => ⟨[], rfl⟩⟩
  | (key, v) :: rest, place => by
    rw [memberObjects_cons, List.forall_mem_append, convertMembers_cons, Outcome.exists_bind_eq_ok,
      ← exists_convertSlot v key place, ← exists_convertMembers rest place]
    simp only [Outcome.exists_bind_eq_ok]
    constructor
    · rintro ⟨later, hlater, slot, hslot, -⟩
      exact ⟨⟨slot, hslot⟩, later, hlater⟩
    · rintro ⟨⟨slot, hslot⟩, later, hlater⟩
      exact ⟨later, hlater, slot, hslot, _, rfl⟩
termination_by members => (sizeOf members, 0)

theorem exists_convertSlot : ∀ (v : Value) (key : String) (place : Place),
    (∃ slot, convertSlot place key v = .ok slot) ↔ ∀ m ∈ slotObjects key v, HasHead m
  | .list items, key, place => by
    cases hchild : isChild (key, .list items) with
    | false =>
      rw [convertSlot_of_not hchild, slotObjects_of_not hchild]
      exact ⟨fun _ m hm => absurd hm List.not_mem_nil, fun _ => ⟨_, rfl⟩⟩
    | true =>
      rw [convertSlot_list hchild, slotObjects_list hchild, Outcome.exists_bind_eq_ok, ← exists_convertItems items]
      exact ⟨fun ⟨nodes, hnodes, _⟩ => ⟨nodes, hnodes⟩, fun ⟨nodes, hnodes⟩ => ⟨nodes, hnodes, _, rfl⟩⟩
  | .object members, key, place => by
    cases hchild : isChild (key, .object members) with
    | false =>
      rw [convertSlot_of_not hchild, slotObjects_of_not hchild]
      exact ⟨fun _ m hm => absurd hm List.not_mem_nil, fun _ => ⟨_, rfl⟩⟩
    | true =>
      rw [convertSlot_object hchild, slotObjects_object hchild, Outcome.exists_bind_eq_ok, ← exists_convert members]
      exact ⟨fun ⟨n, hn, _⟩ => ⟨n, hn⟩, fun ⟨n, hn⟩ => ⟨n, hn, _, rfl⟩⟩
  | .null, key, place => exists_convertSlot_leaf .null nofun nofun place key
  | .bool x, key, place => exists_convertSlot_leaf (.bool x) nofun nofun place key
  | .int x, key, place => exists_convertSlot_leaf (.int x) nofun nofun place key
  | .float x, key, place => exists_convertSlot_leaf (.float x) nofun nofun place key
  | .str x, key, place => exists_convertSlot_leaf (.str x) nofun nofun place key
  | .moment x, key, place => exists_convertSlot_leaf (.moment x) nofun nofun place key
termination_by v => (sizeOf v, 1)

theorem exists_convertItems : ∀ (items : List Value) (place : Place) (index : Nat),
    (∃ nodes, convertItems place index items = .ok nodes) ↔ ∀ m ∈ itemObjects items, HasHead m
  | [], _, _ => ⟨fun _ m hm => absurd hm List.not_mem_nil, fun _ => ⟨[], rfl⟩⟩
  | v :: rest, place, index => by
    rw [itemObjects, convertItems, List.forall_mem_append]
    cases hnode : isNode v with
    | false =>
      rw [if_neg Bool.false_ne_true, if_neg Bool.false_ne_true, ← exists_convertItems rest place index]
      exact ⟨fun h => ⟨fun m hm => absurd hm List.not_mem_nil, h⟩, And.right⟩
    | true =>
      obtain ⟨members, _, rfl, -⟩ := isNode_iff.mp hnode
      rw [if_pos rfl, if_pos rfl, ← exists_convertItems rest place (index + 1),
        ← exists_convert members (.index index :: place)]
      simp only [Outcome.exists_bind_eq_ok]
      constructor
      · rintro ⟨later, hlater, first, hfirst, -⟩
        exact ⟨⟨first, hfirst⟩, later, hlater⟩
      · rintro ⟨⟨first, hfirst⟩, later, hlater⟩
        exact ⟨later, hlater, first, hfirst, _, rfl⟩
termination_by items => (sizeOf items, 0)

end

end Loader

/-! ## Objects that are nodes -/

/-- Objects with the same tag and the same lines. -/
def SameHead (members members' : List (String × Value)) : Prop :=
  tag? (.object members') = tag? (.object members) ∧ ∀ place, spanOf (.object members') place = spanOf (.object members) place

/-- In values with each key once the objects that are nodes match. -/
def ObjectsMatch (v v' : Value) : Prop :=
  v.hasDistinctKeys → Matched SameHead (Loader.nodeObjects v) (Loader.nodeObjects v')

theorem itemObjects_of_matched {items items' : List Value}
    (h : Matched (ItemRel fun v v' => Reordered v v' ∧ ObjectsMatch v v') items items')
    (hkeys : ∀ v ∈ items, v.hasDistinctKeys) : Matched SameHead (itemObjects items) (itemObjects items') := by
  rw [itemObjects_eq, itemObjects_eq]
  refine h.and_mem.flatMap ?_
  rintro v v' ⟨hitem, hv, -⟩
  rw [hitem.isNode_eq (hkeys v hv)]
  cases hitem with
  | kept hkept =>
    rw [hkept]
    exact .of_forall₂ .nil
  | node hnode hr =>
    rw [hnode]
    exact hr.2 (hkeys _ hv)

theorem MemberRel.slotObjects {m m' : String × Value}
    (h : MemberRel (fun v v' => Reordered v v' ∧ ObjectsMatch v v') m m') (hkeys : m.2.hasDistinctKeys) :
    Matched SameHead (Loader.slotObjects m.1 m.2) (Loader.slotObjects m'.1 m'.2) := by
  have hchild := h.isChild_eq hkeys
  cases h with
  | kept h =>
    rw [slotObjects_of_not h]
    exact .of_forall₂ .nil
  | @null key =>
    have hnone : Loader.slotObjects key .null = [] := by simp [Loader.slotObjects, Loader.nodeObjects]
    rw [hnone]
    exact .of_forall₂ .nil
  | one h hr =>
    have hmatched := hr.2 hkeys
    cases hr.1 with
    | object _ _ => rwa [slotObjects_object h, slotObjects_object (hchild.trans h)]
  | many h hitems =>
    rw [Value.hasDistinctKeys, Value.haveDistinctKeys_iff] at hkeys
    rw [slotObjects_list h, slotObjects_list (hchild.trans h)]
    exact itemObjects_of_matched hitems hkeys

/-- The objects that are nodes match. -/
theorem Reordered.nodeObjects {v v' : Value} (h : Reordered v v') : ObjectsMatch v v' := by
  refine Reordered.induction ?_ h
  intro members members' hmatched hkeys
  rw [Value.hasDistinctKeys_object, Value.membersDistinct_iff] at hkeys
  rw [Loader.nodeObjects, Loader.nodeObjects, memberObjects_eq, memberObjects_eq]
  have hhead : SameHead members members' :=
    ⟨tag?_of_matched hmatched hkeys.1, fun place => spanOf_of_matched hmatched hkeys.1 place⟩
  -- The node itself comes first, then the nodes in each member, which match member by member.
  refine (Matched.of_forall₂ (.cons hhead .nil)).append (hmatched.and_mem.flatMap ?_)
  rintro m m' ⟨hrel, hm, -⟩
  exact hrel.slotObjects (hkeys.2 m hm)

/-- A document is accepted in any order, or in none. -/
theorem Reordered.exists_convert {v v' : Value} (h : Reordered v v') (hkeys : v.hasDistinctKeys) (place place' : Place) :
    (∃ n, convert place v = .ok n) ↔ ∃ n', convert place' v' = .ok n' := by
  have hobjects := h.nodeObjects hkeys
  have hhead : ∀ members members', SameHead members members' → (HasHead members ↔ HasHead members') := by
    rintro members members' ⟨htag, hspan⟩
    rw [HasHead, HasHead, htag, hspan]
  cases h with
  | object hperm hmembers =>
    rw [Loader.exists_convert, Loader.exists_convert]
    exact hobjects.forall_iff hhead

end CodeMetrics
