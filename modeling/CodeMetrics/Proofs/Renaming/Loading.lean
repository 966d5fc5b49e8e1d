import CodeMetrics.Proofs.Loading.Tree
import CodeMetrics.Proofs.Renaming.Trees

/-!
# Documents under other names

`Value.renamed` goes through the objects of a document that are nodes, as the loader does, and gives each identifier
another name. Since neither a tag, a range of lines nor the question which members are children depends on a name, a
renamed document is loaded as the renamed tree, or refused for the same reason at the same place.

* `convert_renamed`, `convertMembers_renamed`, `convertItems_renamed` — the recursion
* `Node.outcome_load_renamed` — a whole document
-/

namespace CodeMetrics

open Loader

variable {r : String → String}

namespace Value

/-- The kind of node that the members of an object describe. -/
def memberKind (members : List (String × Value)) : Kind := ((tag? (object members)).map Kind.ofTag).getD .other

mutual

/-- The same document with another name for each identifier. -/
def renamed (r : String → String) : Value → Value
  | object members => object (renamedMembers r (memberKind members) members)
  | v => v

/-- The members of a node of some kind: children are renamed, and so is the name of an identifier. -/
def renamedMembers (r : String → String) (kind : Kind) : List (String × Value) → List (String × Value)
  | [] => []
  | (key, v) :: rest =>
    (key, if isChild (key, v) then
        match v with
        | list items => list (renamedItems r items)
        | v => renamed r v
      else v.renamedAttr r kind key) :: renamedMembers r kind rest

def renamedItems (r : String → String) : List Value → List Value
  | [] => []
  | v :: rest => (if isNode v then renamed r v else v) :: renamedItems r rest

end

/-- One member of a renamed node. -/
def renamedMember (r : String → String) (kind : Kind) (key : String) (v : Value) : Value :=
  if isChild (key, v) then
    match v with
    | list items => list (renamedItems r items)
    | v => renamed r v
  else v.renamedAttr r kind key

theorem renamedMember_of_not {key : String} {v : Value} (h : isChild (key, v) = false) (kind : Kind) :
    v.renamedMember r kind key = v.renamedAttr r kind key := if_neg (by rw [h]; exact Bool.false_ne_true)

theorem renamedMember_list {key : String} {items : List Value} (h : isChild (key, list items) = true) (kind : Kind) :
    (list items).renamedMember r kind key = list (renamedItems r items) := if_pos h

theorem renamedMember_object {key : String} {members : List (String × Value)}
    (h : isChild (key, object members) = true) (kind : Kind) :
    (object members).renamedMember r kind key = (object members).renamed r := if_pos h

theorem renamedMembers_eq (kind : Kind) (members : List (String × Value)) :
    renamedMembers r kind members = members.map fun member => (member.1, member.2.renamedMember r kind member.1) := by
  induction members with
  | nil => rfl
  | cons member rest ih =>
    obtain ⟨key, v⟩ := member
    rw [renamedMembers.eq_def, List.map_cons]
    exact congrArg _ ih

theorem renamedItems_eq (items : List Value) :
    renamedItems r items = items.map fun v => if isNode v then v.renamed r else v := by
  induction items with
  | nil => rfl
  | cons v rest ih => rw [renamedItems, ih, List.map_cons]

/-! ## What stays -/

theorem get?_renamedMembers (kind : Kind) (members : List (String × Value)) (key : String) :
    Fields.get? (renamedMembers r kind members) key = (Fields.get? members key).map fun v => v.renamedMember r kind key := by
  rw [renamedMembers_eq]
  exact Fields.get?_map (renamedMember r kind) members key

/-- What only keeps books is not looked into. -/
theorem get?_renamedMembers_of_bookkeeping {key : String} (h : key ∈ bookkeeping) (hname : key ≠ "name") (kind : Kind)
    (members : List (String × Value)) :
    Fields.get? (renamedMembers r kind members) key = Fields.get? members key := by
  have hsame : ∀ v : Value, v.renamedMember r kind key = v := by
    intro v
    have hchild : isChild (key, v) = false := by simp [isChild, h]
    rw [renamedMember_of_not hchild]
    exact renamedAttr_of_ne hname kind v
  simp only [get?_renamedMembers, hsame, Option.map_id']

@[simp] theorem tag?_renamed (v : Value) : tag? (v.renamed r) = tag? v := by
  cases v with
  | object members =>
    have htype := @get?_renamedMembers_of_bookkeeping r "type" (by decide) (by decide) (memberKind members) members
    rw [renamed, tag?, tag?, field?, field?, htype]
  | _ => rfl

@[simp] theorem isNode_renamed (v : Value) : isNode (v.renamed r) = isNode v := by rw [isNode, isNode, tag?_renamed]

theorem spanOf_renamed (members : List (String × Value)) (place : Place) :
    spanOf (object (renamedMembers r (memberKind members) members)) place = spanOf (object members) place := by
  have hloc := @get?_renamedMembers_of_bookkeeping r "loc" (by decide) (by decide) (memberKind members) members
  rw [spanOf, spanOf, field?, field?, hloc]

theorem any_isNode_renamedItems (items : List Value) : (renamedItems r items).any isNode = items.any isNode := by
  rw [renamedItems_eq, List.any_map]
  refine congrArg items.any (funext fun v => ?_)
  simp only [Function.comp_apply]
  split
  · exact isNode_renamed v
  · rfl

theorem isSlot_renamedMember (kind : Kind) (key : String) (v : Value) :
    isSlot key (v.renamedMember r kind key) = isSlot key v := by
  unfold renamedMember
  split
  · cases v with
    | list items =>
      have hempty : (renamedItems r items).isEmpty = items.isEmpty := by rw [renamedItems_eq, List.isEmpty_map]
      simp only [isSlot, isNodeList, any_isNode_renamedItems, hempty]
    | object members => exact isNode_renamed (object members)
    | _ => rfl
  · unfold renamedAttr
    split
    · cases v <;> rfl
    · rfl

theorem isChild_renamedMember (kind : Kind) (key : String) (v : Value) :
    isChild (key, v.renamedMember r kind key) = isChild (key, v) := by
  simp only [isChild, isSlot_renamedMember]

theorem attributes_renamed (kind : Kind) (members : List (String × Value)) :
    attributes (renamedMembers r kind members)
      = (attributes members).map fun attr => (attr.1, attr.2.renamedAttr r kind attr.1) := by
  induction members with
  | nil => rfl
  | cons member rest ih =>
    obtain ⟨key, v⟩ := member
    rw [renamedMembers_eq, List.map_cons, ← renamedMembers_eq, attributes, attributes, List.filter_cons, List.filter_cons]
    simp only [isSlot_renamedMember]
    split
    · next hkeep =>
      have hchild : isChild (key, v) = false := by
        rw [Bool.and_eq_true, Bool.not_eq_true', Bool.not_eq_true'] at hkeep
        rw [isChild, hkeep.2, Bool.and_false]
      rw [renamedMember_of_not hchild, List.map_cons]
      exact congrArg _ ih
    · exact ih

theorem hasDistinctKeys_renamedAttr {v : Value} (h : v.hasDistinctKeys) (kind : Kind) (key : String) :
    (v.renamedAttr r kind key).hasDistinctKeys := by
  unfold renamedAttr
  split
  · cases v with
    | str s => rfl
    | _ => exact h
  · exact h

theorem memberDistinct_leaf {v : Value} (h : v.hasDistinctKeys) (hlist : ∀ items, v ≠ list items)
    (hobject : ∀ members, v ≠ object members) (kind : Kind) (key : String) :
    (v.renamedMember r kind key).hasDistinctKeys := by
  unfold renamedMember
  split
  · cases v with
    | list items => exact absurd rfl (hlist items)
    | object members => exact absurd rfl (hobject members)
    | _ => exact h
  · exact hasDistinctKeys_renamedAttr h kind key

mutual

theorem hasDistinctKeys_renamed : ∀ v : Value, v.hasDistinctKeys → (v.renamed r).hasDistinctKeys
  | object members, h => by
    rw [hasDistinctKeys_object] at h
    have hkeys : Fields.keys (renamedMembers r (memberKind members) members) = Fields.keys members := by
      simp only [renamedMembers_eq, Fields.keys, List.map_map, Function.comp_def]
    rw [renamed, hasDistinctKeys_object, hkeys]
    exact ⟨h.1, membersDistinct_renamed _ members h.2⟩
  | null, h => h
  | bool _, h => h
  | int _, h => h
  | float _, h => h
  | str _, h => h
  | moment _, h => h
  | list _, h => h
termination_by v => (sizeOf v, 0)

theorem membersDistinct_renamed (kind : Kind) : ∀ members : List (String × Value), membersDistinct members →
    membersDistinct (renamedMembers r kind members)
  | [], h => h
  | (key, v) :: rest, h => by
    rw [membersDistinct_cons] at h
    rw [renamedMembers_eq, List.map_cons, ← renamedMembers_eq, membersDistinct_cons]
    exact ⟨memberDistinct_renamed kind key v h.1, membersDistinct_renamed kind rest h.2⟩
termination_by members => (sizeOf members, 0)

theorem memberDistinct_renamed (kind : Kind) (key : String) : ∀ v : Value, v.hasDistinctKeys →
    (v.renamedMember r kind key).hasDistinctKeys
  | object members, h => by
    unfold renamedMember
    split
    · exact hasDistinctKeys_renamed (object members) h
    · exact hasDistinctKeys_renamedAttr h kind key
  | list items, h => by
    unfold renamedMember
    split
    · rw [hasDistinctKeys] at h ⊢
      exact haveDistinctKeys_renamed items h
    · exact hasDistinctKeys_renamedAttr h kind key
  | null, h => memberDistinct_leaf h nofun nofun kind key
  | bool _, h => memberDistinct_leaf h nofun nofun kind key
  | int _, h => memberDistinct_leaf h nofun nofun kind key
  | float _, h => memberDistinct_leaf h nofun nofun kind key
  | str _, h => memberDistinct_leaf h nofun nofun kind key
  | moment _, h => memberDistinct_leaf h nofun nofun kind key
termination_by v => (sizeOf v, 1)

theorem haveDistinctKeys_renamed : ∀ items : List Value, haveDistinctKeys items →
    haveDistinctKeys (renamedItems r items)
  | [], h => h
  | v :: rest, h => by
    rw [haveDistinctKeys_cons] at h
    rw [renamedItems, haveDistinctKeys_cons]
    refine ⟨?_, haveDistinctKeys_renamed rest h.2⟩
    split
    · exact hasDistinctKeys_renamed v h.1
    · exact h.1
termination_by items => (sizeOf items, 0)

end

end Value

/-! ## Conversion -/

namespace Loader

open Value

/-- A member that is no child slot is none under other names either. -/
theorem convertSlot_renamed_of_not {key : String} {v : Value} (h : isChild (key, v) = false) (place : Place)
    (kind : Kind) : convertSlot place key (v.renamedMember r kind key)
      = convertSlot place key v >>= fun slot => .ok (slot.map (Slot.map (Node.renamed r))) := by
  rw [convertSlot_of_not h, convertSlot_of_not ((isChild_renamedMember kind key v).trans h)]
  rfl

mutual

/-- **A renamed document is converted to the renamed tree**, or refused for the same reason. -/
theorem convert_renamed : ∀ (v : Value) (place : Place),
    convert place (v.renamed r) = convert place v >>= fun n => .ok (n.renamed r)
  | .object members, place => by
    rw [renamed, convert, convert, spanOf_renamed, ← renamed, tag?_renamed]
    cases htag : tag? (.object members) with
    | none => rfl
    | some tag =>
      -- Tag and lines are not renamed, so the two conversions take the same branches up to the members.
      have hkind : memberKind members = Kind.ofTag tag := by rw [memberKind, htag]; rfl
      cases spanOf (.object members) place with
      | error e => rfl
      | ok span =>
        show (convertMembers place (renamedMembers r (memberKind members) members) >>= _) = _
        rw [convertMembers_renamed members place, bind_assoc, attributes_renamed, hkind]
        show _ = (convertMembers place members >>= _) >>= _
        rw [bind_assoc]
        exact congrArg _ (funext fun slots => rfl)
  | .null, _ => rfl
  | .bool _, _ => rfl
  | .int _, _ => rfl
  | .float _, _ => rfl
  | .str _, _ => rfl
  | .moment _, _ => rfl
  | .list _, _ => rfl
termination_by v => (sizeOf v, 0)

theorem convertMembers_renamed {kind : Kind} : ∀ (members : List (String × Value)) (place : Place),
    convertMembers place (renamedMembers r kind members)
      = convertMembers place members >>= fun slots => .ok (Node.renamedFields r slots)
  | [], _ => rfl
  | (key, v) :: rest, place => by
    rw [renamedMembers_eq, List.map_cons, ← renamedMembers_eq, convertMembers_cons, convertMembers_cons,
      convertMembers_renamed rest place, bind_assoc, bind_assoc]
    refine congrArg _ (funext fun later => ?_)
    show (convertSlot place key (v.renamedMember r kind key) >>= _) = _
    rw [convertSlot_renamed v key place, bind_assoc, bind_assoc]
    refine congrArg _ (funext fun slot => ?_)
    cases slot with
    | none => rfl
    | some slot => exact congrArg (fun s => Except.ok ((key, s) :: _)) (Node.renamedSlot_eq slot).symm
termination_by members => (sizeOf members, 0)

theorem convertSlot_renamed {kind : Kind} : ∀ (v : Value) (key : String) (place : Place),
    convertSlot place key (v.renamedMember r kind key)
      = convertSlot place key v >>= fun slot => .ok (slot.map (Slot.map (Node.renamed r)))
  | .list items, key, place => by
    cases hchild : isChild (key, .list items) with
    | false => exact convertSlot_renamed_of_not hchild place kind
    | true =>
      have hrenamed := (isChild_renamedMember (r := r) kind key (.list items)).trans hchild
      rw [renamedMember_list hchild] at hrenamed ⊢
      rw [convertSlot_list hchild, convertSlot_list hrenamed, convertItems_renamed items, bind_assoc, bind_assoc]
      refine congrArg _ (funext fun nodes => ?_)
      show Except.ok (some (Slot.many ((nodes.map (Node.renamed r)).map some)))
        = .ok (some (Slot.many ((nodes.map some).map (Option.map (Node.renamed r)))))
      rw [List.map_map, List.map_map]
      rfl
  | .object members, key, place => by
    cases hchild : isChild (key, .object members) with
    | false => exact convertSlot_renamed_of_not hchild place kind
    | true =>
      have hrenamed := (isChild_renamedMember (r := r) kind key (.object members)).trans hchild
      have hconvert := convert_renamed (.object members) (.key key :: place)
      rw [renamedMember_object hchild, renamed] at hrenamed ⊢
      rw [renamed] at hconvert
      rw [convertSlot_object hchild, convertSlot_object hrenamed, hconvert, bind_assoc, bind_assoc]
      rfl
  | .null, key, place => by
    cases hchild : isChild (key, .null) with
    | false => exact convertSlot_renamed_of_not hchild place kind
    | true =>
      have hrenamed : (Value.null).renamedMember r kind key = .null := if_pos hchild
      have hslot : convertSlot place key .null = .ok (some .absent) := if_neg (by rw [isChild] at hchild; simpa using hchild)
      rw [hrenamed, hslot]
      rfl
  | .bool _, _, place => convertSlot_renamed_of_not (by simp [isChild, isSlot]) place kind
  | .int _, _, place => convertSlot_renamed_of_not (by simp [isChild, isSlot]) place kind
  | .float _, _, place => convertSlot_renamed_of_not (by simp [isChild, isSlot]) place kind
  | .str _, _, place => convertSlot_renamed_of_not (by simp [isChild, isSlot]) place kind
  | .moment _, _, place => convertSlot_renamed_of_not (by simp [isChild, isSlot]) place kind
termination_by v => (sizeOf v, 1)

theorem convertItems_renamed : ∀ (items : List Value) (place : Place) (index : Nat),
    convertItems place index (renamedItems r items)
      = convertItems place index items >>= fun nodes => .ok (nodes.map (Node.renamed r))
  | [], _, _ => rfl
  | v :: rest, place, index => by
    rw [renamedItems, convertItems]
    cases hnode : isNode v with
    | false =>
      rw [if_neg Bool.false_ne_true, convertItems, hnode]
      exact convertItems_renamed rest place index
    | true =>
      rw [if_pos rfl, convertItems, isNode_renamed, hnode, if_pos rfl, if_pos rfl, convertItems_renamed rest, bind_assoc,
        bind_assoc]
      refine congrArg _ (funext fun later => ?_)
      show (convert (.index index :: place) (v.renamed r) >>= _) = _
      rw [convert_renamed v, bind_assoc, bind_assoc]
      rfl
termination_by items => (sizeOf items, 0)

end

end Loader

namespace Node

/-- **A renamed document is loaded as the renamed tree**, or refused for the same reason. -/
theorem outcome_load_renamed {document : Value} (hkeys : document.hasDistinctKeys) :
    (load (document.renamed r)).outcome = (load document).outcome >>= fun root => .ok (root.renamed r) := by
  rw [load_eq hkeys, load_eq (Value.hasDistinctKeys_renamed document hkeys), convert_renamed]
  cases convert [] document with
  | error e => rfl
  | ok plain => exact congrArg Except.ok (stamped_renamed 1 plain)

end Node

end CodeMetrics
