import CodeMetrics.Proofs.Parents
import CodeMetrics.Proofs.Reordering.Loading
import CodeMetrics.Proofs.Units.Reported

/-!
# Trees in another order

Two nodes are alike if they are loaded from an object and the same object in another order. Alike nodes have the same
kind, lines and attributes, and their children are alike, slot by slot, in some order. From this one step the nodes of
whole trees match, and so do the nodes that are reported as units, each below alike parents.

* `Node.Alike.step` — one node
* `Node.Alike.preorder`, `Node.Placed.reported` — whole trees
-/

namespace CodeMetrics

open Loader

/-- What two slots hold is related, in some order. -/
inductive Slot.Rel {ν μ : Type} (R : ν → μ → Prop) : Slot ν → Slot μ → Prop
  | absent : Slot.Rel R .absent .absent
  | one {n : ν} {n' : μ} (h : R n n') : Slot.Rel R (.one n) (.one n')
  | many {nodes : List ν} {nodes' : List μ} (h : Matched R nodes nodes') :
      Slot.Rel R (.many (nodes.map some)) (.many (nodes'.map some))

namespace Node

/-- Nodes that are loaded from an object and the same object in another order. -/
def Alike (n n' : Node) : Prop :=
  ∃ v v', Reordered v v' ∧ v.hasDistinctKeys ∧ Converts v n ∧ Converts v' n'

/-- What two nodes have in common when their children are related. -/
structure SameBut (R : Node → Node → Prop) (n n' : Node) : Prop where
  kind : n'.kind = n.kind
  span : n'.span = n.span
  attrs : ∀ key, Fields.get? n'.attrs key = Fields.get? n.attrs key
  fields : Matched (fun f f' => f'.1 = f.1 ∧ Slot.Rel R f.2 f'.2) n.fields n'.fields
  keys : (Fields.keys n.fields).Nodup

end Node

namespace Loader

theorem Converts.renders {members : List (String × Value)} {n : Node} (hnodup : (Fields.keys members).Nodup)
    (h : Converts (.object members) n) : Renders members n := by
  obtain ⟨place, plain, next, hconvert, rfl⟩ := h
  exact renders_of_convert hnodup hconvert next

theorem Converts.span_eq {v : Value} {n : Node} (h : Converts v n) : spanOf v [] = .ok n.span := by
  obtain ⟨place, plain, next, hconvert, rfl⟩ := h
  obtain ⟨members, tag, span, slots, rfl, -, hspan, -, rfl⟩ := convert_eq_ok hconvert
  exact spanOf_eq_ok.mp hspan

theorem Converts.kind_eq {v : Value} {n : Node} (h : Converts v n) : ∃ tag, tag? v = some tag ∧ n.kind = Kind.ofTag tag := by
  obtain ⟨place, plain, next, hconvert, rfl⟩ := h
  obtain ⟨members, tag, span, slots, rfl, htag, -, -, rfl⟩ := convert_eq_ok hconvert
  exact ⟨tag, htag, rfl⟩

end Loader

/-- The slots of a member before and after. -/
theorem MemberRel.slotRel {P : Value → Value → Prop} {m m' : String × Value} {slot slot' : Slot Node}
    (h : MemberRel (fun v v' => Reordered v v' ∧ P v v') m m') (hchild : isChild m = true)
    (hkeys : m.2.hasDistinctKeys) (hslot : ConvertsSlot m.2 slot) (hslot' : ConvertsSlot m'.2 slot') :
    Slot.Rel Node.Alike slot slot' := by
  cases h with
  | kept hkept => exact absurd hchild (by rw [hkept]; exact Bool.false_ne_true)
  | null =>
    cases hslot
    cases hslot'
    exact .absent
  | one _ hr =>
    obtain ⟨hr, -⟩ := hr
    cases hr with
    | object hperm hmembers =>
      obtain ⟨child, rfl, hconverts⟩ := hslot
      obtain ⟨child', rfl, hconverts'⟩ := hslot'
      exact .one ⟨_, _, .object hperm hmembers, hkeys, hconverts, hconverts'⟩
  | many _ hitems =>
    obtain ⟨nodes, rfl, hconverts⟩ := hslot
    obtain ⟨nodes', rfl, hconverts'⟩ := hslot'
    rw [Value.hasDistinctKeys, Value.haveDistinctKeys_iff] at hkeys
    have hnodes := hitems.and_mem.filter fun v v' h => (h.1.isNode_eq (hkeys v h.2.1)).symm
    refine .many (hnodes.and_mem.of_forall₂_both hconverts hconverts' ?_)
    rintro v v' n n' ⟨⟨hitem, hv, -⟩, hmem, -⟩ hn hn'
    cases hitem with
    | kept hkept => exact absurd (List.mem_filter.mp hmem).2 (by rw [hkept]; exact Bool.false_ne_true)
    | node _ hr => exact ⟨_, _, hr.1, hkeys _ hv, hn, hn'⟩

/-- Attributes stay, in some order. -/
theorem attributes_perm_of_matched {P : Value → Value → Prop} {members members' : List (String × Value)}
    (h : Matched (MemberRel fun v v' => Reordered v v' ∧ P v v') members members')
    (hkeys : ∀ m ∈ members, m.2.hasDistinctKeys) : (attributes members).Perm (attributes members') := by
  have hkept : ∀ m m', MemberRel (fun v v' => Reordered v v' ∧ P v v') m m' ∧ m ∈ members ∧ m' ∈ members' →
      (!bookkeeping.contains m.1 && !isSlot m.1 m.2) = (!bookkeeping.contains m'.1 && !isSlot m'.1 m'.2) := by
    rintro m m' ⟨hrel, hm, -⟩
    have hchild := hrel.isChild_eq (hkeys m hm)
    rw [isChild, isChild, hrel.key_eq] at hchild
    rw [hrel.key_eq]
    cases hbook : bookkeeping.contains m.1 with
    | true => rfl
    | false =>
      rw [hbook, Bool.not_false, Bool.true_and, Bool.true_and] at hchild
      rw [hchild]
  refine Matched.perm ((h.and_mem.filter hkept).imp ?_)
  rintro m hm m' - ⟨hrel, -⟩
  -- An attribute is no child.
  have hattr : isChild m = false := by
    have hslot := (Bool.and_eq_true_iff.mp (List.mem_filter.mp hm).2).2
    rw [isChild, Bool.not_eq_true' _ |>.mp hslot, Bool.and_false]
  cases hrel with
  | kept _ => rfl
  | null => rfl
  | one hchild _ => exact absurd hchild (by rw [hattr]; exact Bool.false_ne_true)
  | many hchild _ => exact absurd hchild (by rw [hattr]; exact Bool.false_ne_true)

namespace Node

/-- **Alike nodes differ in the order of their members only.** -/
theorem Alike.step {n n' : Node} (h : Alike n n') : SameBut Alike n n' := by
  obtain ⟨v, v', hreordered, hkeys, hn, hn'⟩ := h
  have hkeys' := hreordered.hasDistinctKeys hkeys
  cases hreordered with
  | object hperm hmembers =>
    rw [Value.hasDistinctKeys_object, Value.membersDistinct_iff] at hkeys hkeys'
    have hmatched : Matched (MemberRel fun v v' => Reordered v v' ∧ True) _ _ :=
      ⟨_, hperm, ReorderedMembers.forall₂ (fun _ => trivial) hmembers⟩
    have hrenders := hn.renders hkeys.1
    have hrenders' := hn'.renders hkeys'.1
    refine ⟨?_, ?_, ?_, ?_, hrenders.nodup⟩
    · obtain ⟨tag, htag, hkind⟩ := hn.kind_eq
      obtain ⟨tag', htag', hkind'⟩ := hn'.kind_eq
      rw [tag?_of_matched hmatched hkeys.1, htag] at htag'
      cases htag'
      rw [hkind, hkind']
    · have hspan := hn'.span_eq
      rw [spanOf_of_matched hmatched hkeys.1, hn.span_eq] at hspan
      exact (Except.ok.inj hspan).symm
    · intro key
      rw [hrenders.attrs, hrenders'.attrs]
      refine Fields.get?_perm ?_ (attributes_perm_of_matched hmatched hkeys.2) key
      exact hkeys.1.sublist (List.filter_sublist.map _)
    · have hchildren := hmatched.and_mem.filter fun m m' h => (h.1.isChild_eq (hkeys.2 m h.2.1)).symm
      refine hchildren.and_mem.of_forall₂_both hrenders.fields hrenders'.fields ?_
      rintro m m' f f' ⟨⟨hrel, hm, -⟩, hmem, -⟩ hf hf'
      refine ⟨by rw [hf.1, hf'.1, hrel.key_eq], ?_⟩
      exact hrel.slotRel (List.mem_filter.mp hmem).2 (hkeys.2 m hm) hf.2 hf'.2

/-! ## Children -/

section Step

variable {R : Node → Node → Prop} {n n' : Node}

theorem SameBut.child (h : SameBut R n n') (name : String) : Option.Rel R (n.child name) (n'.child name) := by
  have hslots := Fields.get?_matched h.keys h.fields name
  unfold Node.child
  generalize Fields.get? n.fields name = slot at hslots
  generalize Fields.get? n'.fields name = slot' at hslots
  rcases hslots with (_ | hone | _) | _
  · exact .none
  · exact .some hone
  · exact .none
  · exact .none

theorem SameBut.childList (h : SameBut R n n') (name : String) :
    Matched (Option.Rel R) (n.childList name) (n'.childList name) := by
  have hslots := Fields.get?_matched h.keys h.fields name
  unfold Node.childList
  generalize Fields.get? n.fields name = slot at hslots
  generalize Fields.get? n'.fields name = slot' at hslots
  rcases hslots with (_ | _ | hmany) | _
  · exact .of_forall₂ .nil
  · exact .of_forall₂ .nil
  · exact hmany.map fun _ _ h => .some h
  · exact .of_forall₂ .nil

theorem nodes_many (nodes : List Node) : (Slot.many (nodes.map some)).nodes = nodes := by
  simp [Slot.nodes, List.filterMap_map]

/-- The children of a node, each with whether it is taken by it. -/
theorem SameBut.offspring (h : SameBut R n n') (method : Bool) :
    Matched (fun a b => b.1 = a.1 ∧ R a.2 b.2) (Node.offspring method n.fields) (Node.offspring method n'.fields) := by
  refine h.fields.flatMap ?_
  rintro ⟨name, slot⟩ ⟨name', slot'⟩ ⟨hname, hslot⟩
  cases (show name' = name from hname)
  cases hslot with
  | absent => exact .of_forall₂ .nil
  | one hone => exact .of_forall₂ (.cons ⟨rfl, hone⟩ .nil)
  | many hmany =>
    simp only [slotOffspring, nodes_many]
    exact hmany.map fun _ _ h => ⟨rfl, h⟩

theorem SameBut.children (h : SameBut R n n') : Matched R n.children n'.children := by
  rw [← map_offspring_children false n, ← map_offspring_children false n']
  exact (h.offspring false).map fun _ _ h => h.2

end Step

/-! ## Whole trees -/

/-- The nodes of alike trees are alike, in some order. -/
theorem Alike.preorder {n : Node} : ∀ {n' : Node}, Alike n n' → Matched Alike n.preorder n'.preorder := by
  induction n using Node.induction with
  | step n ih =>
    intro n' h
    rw [preorder_eq, preorder_eq n']
    refine (Matched.of_forall₂ (.cons h .nil)).append (h.step.children.and_mem.flatMap ?_)
    rintro c c' ⟨hc, hmem, -⟩
    exact ih c hmem hc

/-- Alike nodes of two trees, below alike parents. -/
def Placed (root root' n n' : Node) : Prop :=
  Alike n n' ∧ Option.Rel Alike ((Parents.of root).find? n.id) ((Parents.of root').find? n'.id)

theorem Alike.isUnit_eq {n n' : Node} (h : Alike n n') : n'.isUnit = n.isUnit := by
  rw [isUnit, isUnit, h.step.kind, h.step.span]

/-- The units of two trees are alike, in some order. -/
theorem Placed.reported {root root' : Node} (hids : (root.preorder.map id).Nodup) (hids' : (root'.preorder.map id).Nodup)
    {n : Node} : ∀ {n' : Node}, n ∈ root.preorder → n' ∈ root'.preorder → Placed root root' n n' → ∀ taken,
    Matched (Placed root root') (n.reported taken) (n'.reported taken) := by
  induction n using Node.induction with
  | step n ih =>
    intro n' hn hn' h taken
    have htakes : n'.takes taken = n.takes taken := by
      rw [takes, takes, h.1.isUnit_eq, isMethod, isMethod, h.1.step.kind]
    rw [reported_eq, reported_eq taken n', h.1.isUnit_eq, htakes]
    refine Matched.append ?_ ((h.1.step.offspring _).and_mem.flatMap ?_)
    · split
      · exact .of_forall₂ (.cons h .nil)
      · exact .of_forall₂ .nil
    · rintro ⟨t, c⟩ ⟨t', c'⟩ ⟨⟨htaken, hc⟩, hmem, hmem'⟩
      cases (show t' = t from htaken)
      have hchild := mem_children_of_mem_offspring hmem
      have hchild' := mem_children_of_mem_offspring hmem'
      have hparent := (Parents.find?_eq_some hids).mpr ⟨hn, c, hchild, rfl⟩
      have hparent' := (Parents.find?_eq_some hids').mpr ⟨hn', c', hchild', rfl⟩
      refine ih c hchild (mem_preorder_trans hn (mem_preorder_of_child hchild (mem_preorder_self c)))
        (mem_preorder_trans hn' (mem_preorder_of_child hchild' (mem_preorder_self c'))) ⟨hc, ?_⟩ t
      rw [hparent, hparent']
      exact .some h.1

/-- The root of a tree has no parent. -/
theorem find?_root {root : Node} (hids : (root.preorder.map id).Nodup) : (Parents.of root).find? root.id = none := by
  cases hfind : (Parents.of root).find? root.id with
  | none => rfl
  | some p =>
    obtain ⟨hp, c, hc, hid⟩ := (Parents.find?_eq_some hids).mp hfind
    have hmem : c ∈ root.preorder := mem_preorder_trans hp (mem_preorder_of_child hc (mem_preorder_self c))
    cases List.inj_on_of_nodup_map hids hmem (mem_preorder_self root) hid
    exact absurd hp (notMem_preorder_of_child hc)

end Node

end CodeMetrics
