import CodeMetrics.Proofs.Distinct
import CodeMetrics.Proofs.Loading.Conversion
import CodeMetrics.Proofs.Parents
import CodeMetrics.Syntax.Walk
import Mathlib.Data.List.Flatten

/-!
# What a loaded tree says about its document

Every object of the document that is a node gives one node of the tree, and the nodes of the tree stand in the order of
these objects. `Renders` says what such an object and its node have in common: the tag, the lines, and the members, each
of which is a child slot or an attribute. Objects have each of their keys once, as in all documents that are read
(`Json.read_hasDistinctKeys`).

* `forall₂_renders` — objects and nodes, one by one
* `Renders.none_notMem` — no place of a list is empty
* `Node.loaded_tree_is_conversion` — all of it together, for a document that is loaded
-/

namespace CodeMetrics

namespace Loader

/-- Whether a member of a node is a child slot. -/
def isChild (member : String × Value) : Bool := !bookkeeping.contains member.1 && isSlot member.1 member.2

mutual

/-- The members of every object below a value that is reached as a node, in preorder. -/
def nodeObjects : Value → List (List (String × Value))
  | .object members => members :: memberObjects members
  | _ => []

def memberObjects : List (String × Value) → List (List (String × Value))
  | [] => []
  | (key, v) :: rest =>
    (if isChild (key, v) then
      match v with
      | .list items => itemObjects items
      | v => nodeObjects v
    else []) ++ memberObjects rest

def itemObjects : List Value → List (List (String × Value))
  | [] => []
  | v :: rest => (if isNode v then nodeObjects v else []) ++ itemObjects rest

end

/-- A node is what a value is converted to, whatever its numbers. -/
def Converts (v : Value) (n : Node) : Prop :=
  ∃ place plain next, convert place v = .ok plain ∧ n = plain.stamped next

/-- The objects in a member of a node. -/
def slotObjects (key : String) (v : Value) : List (List (String × Value)) :=
  if isChild (key, v) then
    match v with
    | .list items => itemObjects items
    | v => nodeObjects v
  else []

theorem memberObjects_cons (key : String) (v : Value) (rest : List (String × Value)) :
    memberObjects ((key, v) :: rest) = slotObjects key v ++ memberObjects rest := by
  rw [memberObjects.eq_def]
  rfl

theorem memberObjects_eq (members : List (String × Value)) :
    memberObjects members = members.flatMap fun m => slotObjects m.1 m.2 := by
  induction members with
  | nil => rfl
  | cons m rest ih =>
    obtain ⟨key, v⟩ := m
    rw [memberObjects_cons, ih, List.flatMap_cons]

theorem itemObjects_eq (items : List Value) :
    itemObjects items = items.flatMap fun v => if isNode v then nodeObjects v else [] := by
  induction items with
  | nil => rfl
  | cons v rest ih => rw [itemObjects, ih, List.flatMap_cons]

/-- What a child slot holds, by the value of the member. -/
def ConvertsSlot : Value → Slot Node → Prop
  | .list items, slot => ∃ nodes, slot = .many (nodes.map some) ∧ List.Forall₂ Converts (items.filter isNode) nodes
  | .null, slot => slot = .absent
  | v, slot => ∃ child, slot = .one child ∧ Converts v child

/-- The lines that the members of a node give. -/
def GivesSpan (members : List (String × Value)) : Option Span → Prop
  | none => Fields.get? members "loc" = none ∨ Fields.get? members "loc" = some .null
  | some span => ∃ loc, Fields.get? members "loc" = some loc ∧ loc ≠ .null ∧
      (locLine loc "start").bind line? = some span.start ∧ (locLine loc "end").bind line? = some span.stop

/-- A node has all that the members of an object say. -/
structure Renders (members : List (String × Value)) (n : Node) : Prop where
  tag : ∃ tag, Fields.get? members "type" = some (.str tag) ∧ n.kind = Kind.ofTag tag ∧
    n.tag = if tag = "" then n.kind.tag else tag
  span : GivesSpan members n.span
  /-- Child slots are the members that are, in their order. -/
  fields : List.Forall₂ (fun member field => field.1 = member.1 ∧ ConvertsSlot member.2 field.2)
    (members.filter isChild) n.fields
  /-- Attributes are all other members, in their order and unchanged. -/
  attrs : n.attrs = members.filter fun member => !bookkeeping.contains member.1 && !isSlot member.1 member.2
  /-- A key is in one of the two, unless it is skipped. -/
  keys : ∀ key ∈ Fields.keys members, key ∉ bookkeeping →
    (key ∈ Fields.keys n.fields ∧ key ∉ Fields.keys n.attrs) ∨ (key ∉ Fields.keys n.fields ∧ key ∈ Fields.keys n.attrs)
  nodup : (Fields.keys n.fields).Nodup

/-! ## Conversions that succeed -/

/-- The parts of a node that has been converted. -/
theorem convert_eq_ok {place : Place} {v : Value} {n : Node} (h : convert place v = .ok n) :
    ∃ members tag span slots, v = .object members ∧ tag? v = some tag ∧ spanOf v place = .ok span ∧
      convertMembers place members = .ok slots ∧
      n = ⟨0, Kind.ofTag tag, displayTag tag, span, slots, attributes members⟩ := by
  cases v with
  | object members =>
    rw [convert] at h
    cases htag : tag? (.object members) with
    | none =>
      rw [htag] at h
      cases h
    | some tag =>
      rw [htag] at h
      obtain ⟨span, hspan, h⟩ := Outcome.bind_eq_ok.mp h
      obtain ⟨slots, hslots, h⟩ := Outcome.bind_eq_ok.mp h
      cases h
      exact ⟨members, tag, span, slots, rfl, rfl, hspan, hslots, rfl⟩
  | _ => cases h

/-- A member that has been converted is no child slot, or it is one by the kind of its value. -/
theorem convertSlot_eq_ok {place : Place} {key : String} {v : Value} {slot : Option (Slot Node)}
    (h : convertSlot place key v = .ok slot) :
    (isChild (key, v) = false ∧ slot = none) ∨ (isChild (key, v) = true ∧
      ((∃ items nodes, v = .list items ∧ convertItems (.key key :: place) 0 items = .ok nodes ∧
          slot = some (.many (nodes.map some))) ∨
        (v = .null ∧ slot = some .absent) ∨
        (∃ members child, v = .object members ∧ convert (.key key :: place) v = .ok child ∧
          slot = some (.one child)))) := by
  have hchild : isChild (key, v) = !(bookkeeping.contains key || !isSlot key v) := by simp [isChild]
  unfold convertSlot at h
  rw [hchild]
  split at h
  · next hskip =>
    cases h
    exact .inl ⟨by rw [hskip]; rfl, rfl⟩
  · next hskip =>
    refine .inr ⟨by rw [Bool.eq_false_iff.mpr hskip]; rfl, ?_⟩
    cases v with
    | list items =>
      obtain ⟨nodes, hnodes, h⟩ := Outcome.bind_eq_ok.mp h
      cases h
      exact .inl ⟨items, nodes, rfl, hnodes, rfl⟩
    | null =>
      cases h
      exact .inr (.inl ⟨rfl, rfl⟩)
    | object members =>
      obtain ⟨child, hchild, h⟩ := Outcome.bind_eq_ok.mp h
      cases h
      exact .inr (.inr ⟨members, child, rfl, hchild, rfl⟩)
    | _ => simp [isSlot] at hskip

theorem convertSlot_of_not {key : String} {v : Value} (h : isChild (key, v) = false) (place : Place) :
    convertSlot place key v = .ok none := by
  refine if_pos ?_
  rw [isChild] at h
  cases hkey : bookkeeping.contains key <;> simp_all

theorem convertSlot_list {key : String} {items : List Value} (h : isChild (key, .list items) = true) (place : Place) :
    convertSlot place key (.list items)
      = convertItems (.key key :: place) 0 items >>= fun nodes => .ok (some (.many (nodes.map some))) := by
  refine if_neg ?_
  rw [isChild] at h
  simpa using h

theorem convertSlot_object {key : String} {members : List (String × Value)} (h : isChild (key, .object members) = true)
    (place : Place) : convertSlot place key (.object members)
      = convert (.key key :: place) (.object members) >>= fun child => .ok (some (.one child)) := by
  refine if_neg ?_
  rw [isChild] at h
  simpa using h

theorem convertMembers_cons_eq_ok {place : Place} {key : String} {v : Value} {rest : List (String × Value)}
    {slots : List (String × Slot Node)} (h : convertMembers place ((key, v) :: rest) = .ok slots) :
    ∃ later slot, convertMembers place rest = .ok later ∧ convertSlot place key v = .ok slot ∧
      slots = (slot.map fun slot => (key, slot)).toList ++ later := by
  rw [convertMembers_cons] at h
  obtain ⟨later, hlater, h⟩ := Outcome.bind_eq_ok.mp h
  obtain ⟨slot, hslot, h⟩ := Outcome.bind_eq_ok.mp h
  cases h
  exact ⟨later, slot, hlater, hslot, rfl⟩

theorem convertItems_cons_eq_ok {place : Place} {index : Nat} {v : Value} {rest : List Value} {nodes : List Node}
    (h : convertItems place index (v :: rest) = .ok nodes) :
    (isNode v = false ∧ convertItems place index rest = .ok nodes) ∨ (isNode v = true ∧
      ∃ first later, convert (.index index :: place) v = .ok first ∧
        convertItems place (index + 1) rest = .ok later ∧ nodes = first :: later) := by
  rw [convertItems] at h
  split at h
  · next hnode =>
    obtain ⟨later, hlater, h⟩ := Outcome.bind_eq_ok.mp h
    obtain ⟨first, hfirst, h⟩ := Outcome.bind_eq_ok.mp h
    cases h
    exact .inr ⟨hnode, first, later, hfirst, hlater, rfl⟩
  · next hnode => exact .inl ⟨Bool.eq_false_iff.mpr hnode, h⟩

/-! ## One object and its node -/

theorem givesSpan_of_spanOf {place : Place} {members : List (String × Value)} {span : Option Span}
    (h : spanOf (.object members) place = .ok span) : GivesSpan members span := by
  unfold spanOf at h
  split at h
  · next hloc =>
    cases h
    exact .inl hloc
  · next hloc =>
    cases h
    exact .inr hloc
  · next loc hnull hloc =>
    split at h
    · next start stop hstart hstop =>
      split at h
      · next a b ha hb =>
        split at h
        · next found hfound =>
          cases h
          have hlines : found.start = a ∧ found.stop = b := by
            unfold Span.of? at hfound
            split at hfound
            · cases hfound
              exact ⟨rfl, rfl⟩
            · cases hfound
          refine ⟨loc, hloc, hnull, ?_, ?_⟩
          · rw [hstart, hlines.1]
            exact ha
          · rw [hstop, hlines.2]
            exact hb
        · cases h
      · cases h
    · cases h

theorem convertItems_converts {place : Place} {index : Nat} : ∀ {items : List Value} {nodes : List Node},
    convertItems place index items = .ok nodes → ∀ next, ∃ others,
      Node.stampedItems next (nodes.map some) = others.map some ∧
      List.Forall₂ Converts (items.filter isNode) others := by
  intro items
  induction items generalizing index with
  | nil =>
    intro nodes h next
    cases h
    exact ⟨[], rfl, .nil⟩
  | cons v rest ih =>
    intro nodes h next
    rcases convertItems_cons_eq_ok h with ⟨hnode, hrest⟩ | ⟨hnode, first, later, hfirst, hlater, rfl⟩
    · rw [List.filter_cons_of_neg (by rw [hnode]; exact Bool.false_ne_true)]
      exact ih hrest next
    · obtain ⟨others, hothers, hconverts⟩ := ih hlater next
      rw [List.filter_cons_of_pos hnode]
      refine ⟨first.stamped (next + Node.sizeItems (later.map some)) :: others, ?_, .cons ⟨_, _, _, hfirst, rfl⟩ hconverts⟩
      rw [List.map_cons, Node.stampedItems, hothers, List.map_cons]

theorem convertMembers_converts {place : Place} : ∀ {members : List (String × Value)} {slots : List (String × Slot Node)},
    convertMembers place members = .ok slots → ∀ next,
      List.Forall₂ (fun member field => field.1 = member.1 ∧ ConvertsSlot member.2 field.2)
        (members.filter isChild) (Node.stampedFields next slots) := by
  intro members
  induction members with
  | nil =>
    intro slots h next
    cases h
    exact .nil
  | cons member rest ih =>
    obtain ⟨key, v⟩ := member
    intro slots h next
    obtain ⟨later, slot, hlater, hslot, rfl⟩ := convertMembers_cons_eq_ok h
    have hrest := ih hlater next
    rw [Node.stampedFields_append]
    rcases convertSlot_eq_ok hslot with ⟨hchild, rfl⟩ | ⟨hchild, hkind⟩
    · rw [List.filter_cons_of_neg (by rw [hchild]; exact Bool.false_ne_true)]
      exact hrest
    · rw [List.filter_cons_of_pos hchild]
      rcases hkind with ⟨items, nodes, rfl, hnodes, rfl⟩ | ⟨rfl, rfl⟩ | ⟨members, child, rfl, hconvert, rfl⟩
      · obtain ⟨others, hothers, hconverts⟩ := convertItems_converts hnodes (next + Node.sizeFields later)
        exact .cons ⟨rfl, others, congrArg Slot.many hothers, hconverts⟩ hrest
      · exact .cons ⟨rfl, rfl⟩ hrest
      · exact .cons ⟨rfl, _, rfl, _, _, _, hconvert, rfl⟩ hrest

/-- A key of a node is that of a child slot or that of an attribute. -/
theorem key_of_child_or_attribute {members : List (String × Value)} (hnodup : (Fields.keys members).Nodup)
    {key : String} (hkey : key ∈ Fields.keys members) (hkept : key ∉ bookkeeping) :
    (key ∈ Fields.keys (members.filter isChild) ∧ key ∉ Fields.keys (attributes members)) ∨
    (key ∉ Fields.keys (members.filter isChild) ∧ key ∈ Fields.keys (attributes members)) := by
  obtain ⟨member, hmem, rfl⟩ := List.mem_map.mp hkey
  rw [attributes, Fields.mem_keys_filter hnodup hmem, Fields.mem_keys_filter hnodup hmem]
  cases hslot : isSlot member.1 member.2 <;> simp [isChild, hkept, hslot]

theorem keys_eq_of_forall₂ {members : List (String × Value)} {fields : List (String × Slot Node)}
    (h : List.Forall₂ (fun member field => field.1 = member.1 ∧ ConvertsSlot member.2 field.2) members fields) :
    Fields.keys fields = Fields.keys members := by
  induction h with
  | nil => rfl
  | cons hsame _ ih => exact congrArg₂ List.cons hsame.1 ih

theorem type_of_tag? {members : List (String × Value)} {tag : String} (h : tag? (.object members) = some tag) :
    Fields.get? members "type" = some (.str tag) := by
  obtain ⟨v, hv, htag⟩ := Option.bind_eq_some_iff.mp h
  cases v with
  | str s =>
    cases htag
    exact hv
  | _ => cases htag

theorem isNode_iff {v : Value} :
    isNode v = true ↔ ∃ members tag, v = .object members ∧ Fields.get? members "type" = some (.str tag) := by
  rw [isNode, Option.isSome_iff_exists]
  constructor
  · rintro ⟨tag, htag⟩
    cases v with
    | object members => exact ⟨members, tag, rfl, type_of_tag? htag⟩
    | _ => cases htag
  · rintro ⟨members, tag, rfl, htag⟩
    refine ⟨tag, ?_⟩
    rw [tag?, Value.field?, htag]
    rfl

/-- The node that an object is converted to has all that its members say. -/
theorem renders_of_convert {place : Place} {members : List (String × Value)} {n : Node}
    (hnodup : (Fields.keys members).Nodup) (h : convert place (.object members) = .ok n) (next : Nat) :
    Renders members (n.stamped next) := by
  obtain ⟨_, tag, span, slots, hmembers, htag, hspan, hslots, rfl⟩ := convert_eq_ok h
  cases hmembers
  have hfields := convertMembers_converts hslots (next + 1)
  have hkeys := keys_eq_of_forall₂ hfields
  refine ⟨⟨tag, type_of_tag? htag, rfl, rfl⟩, givesSpan_of_spanOf hspan, hfields, rfl, ?_, ?_⟩
  · intro key hkey hkept
    have hside := key_of_child_or_attribute hnodup hkey hkept
    rw [← hkeys] at hside
    exact hside
  · show (Fields.keys (Node.stampedFields (next + 1) slots)).Nodup
    rw [hkeys]
    exact hnodup.sublist (List.filter_sublist.map _)

/-- No place of a list is empty. -/
theorem Renders.none_notMem {members : List (String × Value)} {n : Node} (h : Renders members n) {key : String}
    {items : List (Option Node)} (hfield : (key, .many items) ∈ n.fields) : none ∉ items := by
  obtain ⟨member, -, -, hslot⟩ := Outcome.exists_of_forall₂_right h.fields hfield
  obtain ⟨name, v⟩ := member
  cases v with
  | list values =>
    obtain ⟨nodes, hnodes, -⟩ := hslot
    cases hnodes
    simp
  | null => cases hslot
  | _ =>
    obtain ⟨child, hchild, -⟩ := hslot
    cases hchild

/-! ## All objects and nodes -/

theorem preorderFields_singleton (next : Nat) (key : String) (slot : Slot Node) :
    Node.preorderFields (Node.stampedFields next ((some slot).map fun slot => (key, slot)).toList)
      = Node.preorderSlot (Node.stampedSlot next slot) := List.append_nil _

/-- Members that are neither lists nor objects hold no nodes. -/
theorem forall₂_renders_leaf {v : Value} {place : Place} {key : String} {slot : Option (Slot Node)}
    (h : convertSlot place key v = .ok slot) (hlist : ∀ items, v ≠ .list items)
    (hobject : ∀ members, v ≠ .object members) (next : Nat) :
    List.Forall₂ Renders (slotObjects key v)
      (Node.preorderFields (Node.stampedFields next (slot.map fun slot => (key, slot)).toList)) := by
  unfold slotObjects
  rcases convertSlot_eq_ok h with
    ⟨hchild, rfl⟩ | ⟨hchild, ⟨items, _, hv, _⟩ | ⟨rfl, rfl⟩ | ⟨members, _, hv, _⟩⟩
  · rw [hchild]
    exact .nil
  · exact absurd hv (hlist items)
  · rw [if_pos hchild, preorderFields_singleton]
    exact .nil
  · exact absurd hv (hobject members)

mutual

/-- **The nodes of the tree are those of the objects**, one by one in preorder. -/
theorem forall₂_renders : ∀ {v : Value} {place : Place} {n : Node}, v.hasDistinctKeys → convert place v = .ok n →
    ∀ next, List.Forall₂ Renders (nodeObjects v) (n.stamped next).preorder
  | .object members, place, n, hdistinct, h, next => by
    rw [Value.hasDistinctKeys_object] at hdistinct
    have hroot := renders_of_convert hdistinct.1 h next
    obtain ⟨_, tag, span, slots, hmembers, -, -, hslots, rfl⟩ := convert_eq_ok h
    cases hmembers
    exact .cons hroot (forall₂_renders_members hdistinct.2 hslots (next + 1))
termination_by v => (sizeOf v, 0)

theorem forall₂_renders_members : ∀ {members : List (String × Value)} {place : Place}
    {slots : List (String × Slot Node)}, Value.membersDistinct members → convertMembers place members = .ok slots →
    ∀ next, List.Forall₂ Renders (memberObjects members) (Node.preorderFields (Node.stampedFields next slots))
  | [], place, slots, _, h, next => by
    cases h
    exact .nil
  | (key, v) :: rest, place, slots, hdistinct, h, next => by
    rw [Value.membersDistinct_cons] at hdistinct
    obtain ⟨later, slot, hlater, hslot, rfl⟩ := convertMembers_cons_eq_ok h
    rw [memberObjects_cons, Node.stampedFields_append, Node.preorderFields_append]
    exact List.rel_append (forall₂_renders_slot hdistinct.1 hslot _) (forall₂_renders_members hdistinct.2 hlater next)
termination_by members => (sizeOf members, 0)

theorem forall₂_renders_slot : ∀ {v : Value} {place : Place} {key : String} {slot : Option (Slot Node)},
    v.hasDistinctKeys → convertSlot place key v = .ok slot →
    ∀ next, List.Forall₂ Renders (slotObjects key v)
      (Node.preorderFields (Node.stampedFields next (slot.map fun slot => (key, slot)).toList))
  | .list items, place, key, slot, hdistinct, h, next => by
    have hitems : Value.haveDistinctKeys items := by simpa [Value.hasDistinctKeys] using hdistinct
    unfold slotObjects
    rcases convertSlot_eq_ok h with ⟨hchild, rfl⟩ | ⟨hchild, ⟨_, nodes, hv, hnodes, rfl⟩ | ⟨hv, _⟩ | ⟨_, _, hv, _⟩⟩
    · rw [hchild]
      exact .nil
    · cases hv
      rw [if_pos hchild, preorderFields_singleton]
      exact forall₂_renders_items hitems hnodes next
    · cases hv
    · cases hv
  | .object members, place, key, slot, hdistinct, h, next => by
    unfold slotObjects
    rcases convertSlot_eq_ok h with ⟨hchild, rfl⟩ | ⟨hchild, ⟨_, _, hv, _⟩ | ⟨hv, _⟩ | ⟨_, child, _, hchild', rfl⟩⟩
    · rw [hchild]
      exact .nil
    · cases hv
    · cases hv
    · rw [if_pos hchild, preorderFields_singleton]
      exact forall₂_renders hdistinct hchild' next
  | .null, _, _, _, _, h, next => forall₂_renders_leaf h nofun nofun next
  | .bool _, _, _, _, _, h, next => forall₂_renders_leaf h nofun nofun next
  | .int _, _, _, _, _, h, next => forall₂_renders_leaf h nofun nofun next
  | .float _, _, _, _, _, h, next => forall₂_renders_leaf h nofun nofun next
  | .str _, _, _, _, _, h, next => forall₂_renders_leaf h nofun nofun next
  | .moment _, _, _, _, _, h, next => forall₂_renders_leaf h nofun nofun next
termination_by v => (sizeOf v, 1)

theorem forall₂_renders_items : ∀ {items : List Value} {place : Place} {index : Nat} {nodes : List Node},
    Value.haveDistinctKeys items → convertItems place index items = .ok nodes →
    ∀ next, List.Forall₂ Renders (itemObjects items) (Node.preorderItems (Node.stampedItems next (nodes.map some)))
  | [], place, index, nodes, _, h, next => by
    cases h
    exact .nil
  | v :: rest, place, index, nodes, hdistinct, h, next => by
    rw [Value.haveDistinctKeys_cons] at hdistinct
    rw [itemObjects]
    rcases convertItems_cons_eq_ok h with ⟨hnode, hrest⟩ | ⟨hnode, first, later, hfirst, hlater, rfl⟩
    · rw [hnode]
      exact forall₂_renders_items hdistinct.2 hrest next
    · rw [if_pos hnode, List.map_cons, Node.stampedItems, Node.preorderItems]
      exact List.rel_append (forall₂_renders hdistinct.1 hfirst _) (forall₂_renders_items hdistinct.2 hlater next)
termination_by items => (sizeOf items, 0)

end

end Loader

namespace Node

open Loader

/-- A tree that has been loaded is a conversion of its document. -/
theorem exists_convert_of_load {document : Value} {root : Node} (hkeys : document.hasDistinctKeys)
    (h : (load document).outcome = .ok root) : ∃ plain, convert [] document = .ok plain ∧ root = plain.stamped 1 := by
  rw [load_eq hkeys] at h
  cases hconvert : convert [] document with
  | error e =>
    rw [hconvert] at h
    cases h
  | ok plain =>
    rw [hconvert] at h
    cases h
    exact ⟨plain, rfl, rfl⟩

/-- Each node that has been loaded has all that the members of an object of the document say. -/
theorem exists_renders_of_load {document : Value} {root : Node} (hkeys : document.hasDistinctKeys)
    (h : (load document).outcome = .ok root) {n : Node} (hn : n ∈ root.preorder) :
    ∃ members ∈ nodeObjects document, Renders members n := by
  obtain ⟨plain, hconvert, rfl⟩ := exists_convert_of_load hkeys h
  exact Outcome.exists_of_forall₂_right (forall₂_renders hkeys hconvert 1) hn

theorem isDistinct_of_load {document : Value} {root : Node} (hkeys : document.hasDistinctKeys)
    (h : (load document).outcome = .ok root) : root.IsDistinct := by
  refine ⟨?_, fun n hn => ?_⟩
  · obtain ⟨plain, -, rfl⟩ := exists_convert_of_load hkeys h
    exact nodup_ids_stamped 1 plain
  · obtain ⟨members, -, hrenders⟩ := exists_renders_of_load hkeys h hn
    exact hrenders.nodup

/-- **The loaded tree is the recursive conversion of its document.** Each object that is a node gives one node, with its
tag, its lines and its members; no place in the tree is left open; and the number of nodes that is noted is that of the
nodes in the tree, each but the root with a parent. -/
theorem loaded_tree_is_conversion {document : Value} {root : Node} (hkeys : document.hasDistinctKeys)
    (h : (load document).outcome = .ok root) :
    (∃ plain, convert [] document = .ok plain ∧ root = plain.stamped 1) ∧
    List.Forall₂ Renders (nodeObjects document) root.preorder ∧
    (∀ n ∈ root.preorder, ∀ key items, (key, .many items) ∈ n.fields → none ∉ items) ∧
    (load document).log = [⟨.debug, "qualytics.estree",
      "Loaded " ++ Number.natText root.walk.length ++ " nodes (root " ++ root.tag ++ ")"⟩] ∧
    root.walk.length = (Parents.of root).size + 1 := by
  have hdistinct := isDistinct_of_load hkeys h
  have hplaces : ∀ n ∈ root.preorder, ∀ key items, (key, .many items) ∈ n.fields → none ∉ items := by
    intro n hn key items hfield
    obtain ⟨members, -, hrenders⟩ := exists_renders_of_load hkeys h hn
    exact hrenders.none_notMem hfield
  obtain ⟨plain, hconvert, rfl⟩ := exists_convert_of_load hkeys h
  refine ⟨⟨plain, hconvert, rfl⟩, forall₂_renders hkeys hconvert 1, hplaces, ?_, ?_⟩
  · rw [load_eq hkeys, hconvert, walk_eq, length_preorder, size_stamped]
    cases plain
    rfl
  · rw [walk_eq, Parents.size_of hdistinct.ids]

/-- A script of one statement, in a list that also holds what is no node. -/
def scriptDocument : Value :=
  .object
    [ ("type", .str "Program"), ("sourceType", .str "script"),
      ("body", .list
        [ .int 7,
          .object
            [ ("type", .str "ExpressionStatement"), ("directive", .null),
              ("loc", .object [("start", .object [("line", .int 1)]), ("end", .object [("line", .int 2)])]),
              ("expression", .object [("type", .str ""), ("test", .null), ("operator", .str "=")]) ] ]) ]

def scriptTree : Node :=
  ⟨1, .program, "Program", none,
    [("body", .many
      [some ⟨2, .expressionStatement, "ExpressionStatement", Span.of? (.int 1) (.int 2),
        [("expression", .one ⟨3, .other, "Other", none, [("test", .absent)], [("operator", .str "=")]⟩)],
        [("directive", .null)]⟩])],
    [("sourceType", .str "script")]⟩

theorem load_scriptDocument : (load scriptDocument).outcome = .ok scriptTree := by
  rw [load_eq (by decide)]
  rfl

theorem scriptTree_is_conversion : (load scriptDocument).outcome = .ok scriptTree ∧
    List.Forall₂ Renders (nodeObjects scriptDocument) scriptTree.preorder ∧
    scriptTree.walk.length = (Parents.of scriptTree).size + 1 := by
  obtain ⟨-, hrenders, -, -, hcount⟩ := loaded_tree_is_conversion (by decide) load_scriptDocument
  exact ⟨load_scriptDocument, hrenders, hcount⟩

end Node

end CodeMetrics
