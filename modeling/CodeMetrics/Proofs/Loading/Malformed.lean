import CodeMetrics.Proofs.Loading.Tree
import Mathlib.Logic.Relation

/-!
# The malformed node that is reported

A document that is no tree has an object in it that is malformed, and the failure is about one of these. Which one it
is follows from the order in which the loader looks at nodes: `visits` lists them with their places, a node before
those below it, and of these the last one first, with all that is below it. The loader's stack is such a list at every
step, and the loop stops at the first node of it that is malformed.

The number of a place in a list is that among the nodes of the list.

* `expand_cases` — a value is made a node, or it is malformed and the failure says how
* `run_ends` — what is on the stack decides how the loop ends
* `exists_mem_visits` — what is looked at is what can be reached
* `Node.first_malformed_node_is_reported` — all of it together, for a whole document
-/

namespace CodeMetrics

/-! ## Malformed nodes -/

/-- A value is a line: a whole number, or a truth value, which is 0 or 1. A line is kept as it is written. -/
inductive Value.IsLine : Value → Num → Int → Prop
  | int (n : Int) : IsLine (.int n) (.int n) n
  | flag (b : Bool) : IsLine (.bool b) (.flag b) (Num.ofFlag b)

namespace Loader

/-- A location gives the lines `m` to `n`, which are written as `a` and `b`. -/
def GivesLines (loc : Value) (a b : Num) (m n : Int) : Prop :=
  ∃ start stop, locLine loc "start" = some start ∧ locLine loc "end" = some stop ∧ start.IsLine a m ∧ stop.IsLine b n

/-- A node has no location, or null for one, or one that gives a range of lines. -/
def HasRange (v : Value) : Prop :=
  ∀ loc, v.field? "loc" = some loc → loc ≠ .null → ∃ a b m n, GivesLines loc a b m n ∧ 1 ≤ m ∧ m ≤ n

/-- An object with a text under `type`, whose lines are a range. -/
def IsWellFormed (v : Value) : Prop := isNode v = true ∧ HasRange v

end Loader

/-- The document is no tree, for a reason and at a place that the failure names. -/
inductive Error.IsMalformed : Error → Prop
  | treeFormat (reason : TreeFault) (location : String) : IsMalformed (.problem (.treeFormat reason location))

open Loader

/-- What a fault says about a value. -/
inductive TreeFault.Describes : TreeFault → Value → Prop
  | notAnObject {v : Value} (h : ∀ members, v ≠ .object members) : Describes (.notAnObject v.kindName) v
  | missingType {members : List (String × Value)} (h : ∀ tag, Fields.get? members "type" ≠ some (.str tag)) :
    Describes .missingType (.object members)
  | incompleteLocation {v loc : Value} (hnode : isNode v = true) (hloc : v.field? "loc" = some loc) (hnull : loc ≠ .null)
    (h : locLine loc "start" = none ∨ locLine loc "end" = none) : Describes .incompleteLocation v
  | lineNotInteger {v loc start stop : Value} (hnode : isNode v = true) (hloc : v.field? "loc" = some loc)
    (hnull : loc ≠ .null) (hstart : locLine loc "start" = some start) (hstop : locLine loc "end" = some stop)
    (h : (∀ a m, ¬start.IsLine a m) ∨ ∀ b n, ¬stop.IsLine b n) : Describes .lineNotInteger v
  | invalidSpan {v loc : Value} {a b : Num} {m n : Int} (hnode : isNode v = true) (hloc : v.field? "loc" = some loc)
    (hnull : loc ≠ .null) (hlines : GivesLines loc a b m n) (h : ¬(1 ≤ m ∧ m ≤ n)) : Describes (.invalidSpan a b) v

theorem line?_eq_some {v : Value} {a : Num} : line? v = some a ↔ ∃ n, v.IsLine a n := by
  constructor
  · intro h
    cases v with
    | int n =>
      cases h
      exact ⟨n, .int n⟩
    | bool b =>
      cases h
      exact ⟨_, .flag b⟩
    | _ => cases h
  · rintro ⟨n, h⟩
    cases h <;> rfl

theorem Value.IsLine.exact_eq {v : Value} {a : Num} {n : Int} (h : v.IsLine a n) : a.exact = .finite n := by
  cases h <;> rfl

theorem Value.IsLine.unique {v : Value} {a b : Num} {m n : Int} (h : v.IsLine a m) (h' : v.IsLine b n) :
    a = b ∧ m = n := by
  cases h <;> cases h' <;> exact ⟨rfl, rfl⟩

theorem Value.IsLine.lt_eq {v w : Value} {a b : Num} {m n : Int} (h : v.IsLine a m) (h' : w.IsLine b n) :
    a.lt b = decide (m < n) := by
  rw [Num.lt, h.exact_eq, h'.exact_eq]
  exact Num.lt_int m n

/-- Lines are a range if their numbers are. -/
theorem Value.IsLine.of?_isSome_iff {v w : Value} {a b : Num} {m n : Int} (h : v.IsLine a m) (h' : w.IsLine b n) :
    (Span.of? a b).isSome ↔ 1 ≤ m ∧ m ≤ n := by
  rw [Span.of?_isSome_iff, h.lt_eq (.int 1), h'.lt_eq h]
  simp

namespace Loader

/-- A location gives at most one pair of lines. -/
theorem GivesLines.unique {loc : Value} {a b a' b' : Num} {m n m' n' : Int} (h : GivesLines loc a b m n)
    (h' : GivesLines loc a' b' m' n') : m = m' ∧ n = n' := by
  obtain ⟨start, stop, hstart, hstop, ha, hb⟩ := h
  obtain ⟨start', stop', hstart', hstop', ha', hb'⟩ := h'
  cases hstart.symm.trans hstart'
  cases hstop.symm.trans hstop'
  exact ⟨(ha.unique ha').2, (hb.unique hb').2⟩

theorem HasRange.of_absent {v : Value} (h : v.field? "loc" = none ∨ v.field? "loc" = some .null) : HasRange v := by
  intro loc hloc hnull
  rcases h with h | h
  · cases h.symm.trans hloc
  · cases h.symm.trans hloc
    exact absurd rfl hnull

/-- Nothing is wrong with a node that is well-formed. -/
theorem IsWellFormed.not_describes {v : Value} (h : IsWellFormed v) (reason : TreeFault) : ¬reason.Describes v := by
  intro hwrong
  obtain ⟨members, tag, rfl, htag⟩ := isNode_iff.mp h.1
  cases hwrong with
  | notAnObject hobject => exact hobject members rfl
  | missingType htype => exact htype tag htag
  | incompleteLocation _ hloc hnull hmissing =>
    obtain ⟨_, _, _, _, ⟨start, stop, hstart, hstop, -⟩, -⟩ := h.2 _ hloc hnull
    rcases hmissing with hmissing | hmissing
    · cases hstart.symm.trans hmissing
    · cases hstop.symm.trans hmissing
  | lineNotInteger _ hloc hnull hstart hstop hno =>
    obtain ⟨a, b, m, n, ⟨start, stop, hstart', hstop', ha, hb⟩, -⟩ := h.2 _ hloc hnull
    cases hstart.symm.trans hstart'
    cases hstop.symm.trans hstop'
    rcases hno with hno | hno
    · exact hno a m ha
    · exact hno b n hb
  | invalidSpan _ hloc hnull hlines hbounds =>
    obtain ⟨_, _, _, _, hlines', hrange⟩ := h.2 _ hloc hnull
    obtain ⟨rfl, rfl⟩ := hlines.unique hlines'
    exact hbounds hrange

/-- The lines of a node are a range, or they are not and the failure says how. -/
theorem spanOf_cases {v : Value} (hnode : isNode v = true) (place : Place) :
    (HasRange v ∧ ∃ span, spanOf v place = .ok span) ∨
    ∃ reason, reason.Describes v ∧ spanOf v place = malformed reason place := by
  unfold spanOf
  split
  · next hloc => exact .inl ⟨.of_absent (.inl hloc), none, rfl⟩
  · next hloc => exact .inl ⟨.of_absent (.inr hloc), none, rfl⟩
  · next loc hnull hloc =>
    split
    · next start stop hstart hstop =>
      split
      · next a b ha hb =>
        obtain ⟨m, hm⟩ := line?_eq_some.mp ha
        obtain ⟨n, hn⟩ := line?_eq_some.mp hb
        have hlines : GivesLines loc a b m n := ⟨start, stop, hstart, hstop, hm, hn⟩
        split
        · next span hspan =>
          refine .inl ⟨fun loc' hloc' _ => ?_, some span, rfl⟩
          cases hloc.symm.trans hloc'
          exact ⟨a, b, m, n, hlines, (hm.of?_isSome_iff hn).mp (by rw [hspan]; rfl)⟩
        · next hspan =>
          refine .inr ⟨_, .invalidSpan hnode hloc hnull hlines fun hrange => ?_, rfl⟩
          have hsome := (hm.of?_isSome_iff hn).mpr hrange
          rw [hspan] at hsome
          cases hsome
      · next hlines =>
        -- Both lines are there, so what is wrong is that one of them is no number.
        refine .inr ⟨_, .lineNotInteger hnode hloc hnull hstart hstop ?_, rfl⟩
        by_contra hboth
        push Not at hboth
        obtain ⟨⟨a, m, hm⟩, b, n, hn⟩ := hboth
        exact hlines a b (line?_eq_some.mpr ⟨m, hm⟩) (line?_eq_some.mpr ⟨n, hn⟩)
    · next hsides =>
      refine .inr ⟨_, .incompleteLocation hnode hloc hnull ?_, rfl⟩
      cases hstart : locLine loc "start" with
      | none => exact .inl rfl
      | some start =>
        refine .inr ?_
        cases hstop : locLine loc "end" with
        | none => rfl
        | some stop => exact absurd hstop (hsides start stop hstart)

/-! ## Values that are looked at -/

/-- The nodes that a member holds, in document order, each with its place. Of a list only the nodes are counted. -/
def heldNodes (place : Place) (key : String) : Value → List (Place × Value)
  | .list items => (items.filter isNode).zipIdx.map fun (v, i) => (.index i :: .key key :: place, v)
  | v => if isNode v then [(.key key :: place, v)] else []

/-- The nodes right below a value, in document order. -/
def nodesBelow : Place × Value → List (Place × Value)
  | (place, .object members) =>
    (members.filter fun member => !bookkeeping.contains member.1).flatMap fun member =>
      heldNodes place member.1 member.2
  | _ => []

/-- One value holds another one as a node: in a member whose key is not skipped, by itself or in a list. -/
inductive Holds : Value → Value → Prop
  | member {members : List (String × Value)} {key : String} {child : Value} (hmem : (key, child) ∈ members)
    (hkey : key ∉ bookkeeping) (hnode : isNode child = true) : Holds (.object members) child
  | item {members : List (String × Value)} {key : String} {items : List Value} {child : Value}
    (hmem : (key, .list items) ∈ members) (hkey : key ∉ bookkeeping) (hitem : child ∈ items)
    (hnode : isNode child = true) : Holds (.object members) child

theorem Holds.sizeOf_lt {v child : Value} (h : Holds v child) : sizeOf child < sizeOf v := by
  cases h with
  | member hmem =>
    have hmember := List.sizeOf_lt_of_mem hmem
    simp only [Prod.mk.sizeOf_spec, Value.object.sizeOf_spec] at hmember ⊢
    omega
  | item hmem _ hitem =>
    have hmember := List.sizeOf_lt_of_mem hmem
    have hitem := List.sizeOf_lt_of_mem hitem
    simp only [Prod.mk.sizeOf_spec, Value.object.sizeOf_spec, Value.list.sizeOf_spec] at hmember ⊢
    omega

theorem heldNodes_of_not_list {v : Value} (h : ¬∃ items, v = .list items) (place : Place) (key : String) :
    heldNodes place key v = if isNode v then [(.key key :: place, v)] else [] := by
  cases v with
  | list items => exact absurd ⟨items, rfl⟩ h
  | _ => rfl

theorem exists_mem_heldNodes {place : Place} {key : String} {v child : Value} :
    (∃ place', (place', child) ∈ heldNodes place key v) ↔
      isNode child = true ∧ (child = v ∨ ∃ items, v = .list items ∧ child ∈ items) := by
  by_cases hlist : ∃ items, v = .list items
  · obtain ⟨items, rfl⟩ := hlist
    have hmem : (∃ place', (place', child) ∈ heldNodes place key (.list items)) ↔ child ∈ items.filter isNode := by
      rw [List.mem_iff_getElem?]
      simp [heldNodes, List.mk_mem_zipIdx_iff_getElem?]
    rw [hmem, List.mem_filter]
    constructor
    · rintro ⟨hitem, hnode⟩
      exact ⟨hnode, .inr ⟨items, rfl, hitem⟩⟩
    · rintro ⟨hnode, rfl | ⟨items, ⟨⟩, hitem⟩⟩
      · cases hnode
      · exact ⟨hitem, hnode⟩
  · rw [heldNodes_of_not_list hlist]
    constructor
    · rintro ⟨place', hmem⟩
      split at hmem
      · next hnode =>
        cases List.mem_singleton.mp hmem
        exact ⟨hnode, .inl rfl⟩
      · cases hmem
    · rintro ⟨hnode, rfl | ⟨items, rfl, -⟩⟩
      · exact ⟨_, by rw [if_pos hnode]; exact List.mem_singleton_self _⟩
      · exact absurd ⟨items, rfl⟩ hlist

/-- What stands right below a value is what it holds. -/
theorem exists_mem_nodesBelow {place : Place} {v child : Value} :
    (∃ place', (place', child) ∈ nodesBelow (place, v)) ↔ Holds v child := by
  constructor
  · rintro ⟨place', hmem⟩
    cases v with
    | object members =>
      obtain ⟨⟨key, v⟩, hmember, hmem⟩ := List.mem_flatMap.mp hmem
      obtain ⟨hmember, hkept⟩ := List.mem_filter.mp hmember
      have hkey : key ∉ bookkeeping := by simpa using hkept
      rcases exists_mem_heldNodes.mp ⟨place', hmem⟩ with ⟨hnode, rfl | ⟨items, rfl, hitem⟩⟩
      · exact .member hmember hkey hnode
      · exact .item hmember hkey hitem hnode
    | _ => cases hmem
  · intro h
    have hbelow : ∀ {members : List (String × Value)} {key : String} {v : Value}, (key, v) ∈ members →
        key ∉ bookkeeping → (∃ place', (place', child) ∈ heldNodes place key v) →
        ∃ place', (place', child) ∈ nodesBelow (place, .object members) := by
      rintro members key v hmember hkey ⟨place', hmem⟩
      exact ⟨place', List.mem_flatMap.mpr ⟨(key, v), List.mem_filter.mpr ⟨hmember, by simpa using hkey⟩, hmem⟩⟩
    cases h with
    | member hmember hkey hnode => exact hbelow hmember hkey (exists_mem_heldNodes.mpr ⟨hnode, .inl rfl⟩)
    | item hmember hkey hitem hnode =>
      exact hbelow hmember hkey (exists_mem_heldNodes.mpr ⟨hnode, .inr ⟨_, rfl, hitem⟩⟩)

/-- The values that are looked at from one on, each with its place: the value itself, then those below it, of which the
last one comes first, with all that is below it. -/
def visits (p : Place × Value) : List (Place × Value) :=
  p :: (nodesBelow p).reverse.attach.flatMap fun below => visits below.1
termination_by sizeOf p.2
decreasing_by
  exact (exists_mem_nodesBelow.mp ⟨_, List.mem_reverse.mp below.2⟩).sizeOf_lt

theorem visits_eq (p : Place × Value) : visits p = p :: (nodesBelow p).reverse.flatMap visits := by
  rw [visits]
  conv_rhs => rw [← List.attach_map_subtype_val (nodesBelow p).reverse, List.flatMap_map]

/-- What is looked at is what can be reached, from node to node. -/
theorem exists_mem_visits {place : Place} {v w : Value} :
    (∃ place', (place', w) ∈ visits (place, v)) ↔ Relation.ReflTransGen Holds v w := by
  constructor
  · rintro ⟨place', hmem⟩
    rw [visits_eq, List.mem_cons] at hmem
    rcases hmem with heq | hmem
    · cases heq
      exact .refl
    · obtain ⟨⟨below, child⟩, hchild, hmem⟩ := List.mem_flatMap.mp hmem
      have hholds := exists_mem_nodesBelow.mp ⟨below, List.mem_reverse.mp hchild⟩
      -- The recursion goes from a node to one that it holds, which is smaller.
      have hlt := hholds.sizeOf_lt
      exact .head hholds (exists_mem_visits.mp ⟨place', hmem⟩)
  · intro h
    induction h using Relation.ReflTransGen.head_induction_on generalizing place with
    | refl =>
      rw [visits_eq]
      exact ⟨place, List.mem_cons_self⟩
    | head hholds _ ih =>
      obtain ⟨below, hbelow⟩ := exists_mem_nodesBelow.mpr hholds
      obtain ⟨place', hmem⟩ := ih
      rw [visits_eq]
      exact ⟨place', List.mem_cons_of_mem _ (List.mem_flatMap.mpr ⟨_, List.mem_reverse.mpr hbelow, hmem⟩)⟩
termination_by sizeOf v

/-! ## The stack -/

theorem map_pendingItems (place : Place) (owner : Nat) (key : String) (i : Nat) (items : List Value) :
    (pendingItems place owner key i items).map (fun p => (p.place, p.document))
      = ((items.filter isNode).zipIdx i).map fun (v, i) => (.index i :: place, v) := by
  induction items generalizing i with
  | nil => rfl
  | cons v rest ih =>
    rw [pendingItems]
    by_cases hnode : isNode v = true
    · rw [if_pos hnode, List.filter_cons_of_pos hnode, List.map_cons, ih]
      rfl
    · rw [if_neg hnode, List.filter_cons_of_neg hnode, ih]

/-- The children that a member leaves to be made are the nodes it holds. -/
theorem map_pendingOf (place : Place) (owner : Nat) (key : String) (v : Value) :
    (pendingOf place owner key v).map (fun p => (p.place, p.document))
      = if bookkeeping.contains key then [] else heldNodes place key v := by
  unfold pendingOf
  cases bookkeeping.contains key with
  | true => rfl
  | false =>
    cases v with
    | list items =>
      -- A list that is no child slot has no nodes in it, so none are passed over.
      cases hlist : isNodeList items with
      | true => simpa [isSlot, hlist, heldNodes] using map_pendingItems (.key key :: place) owner key 0 items
      | false =>
        have hnone : items.filter isNode = [] := by
          rw [List.filter_eq_nil_iff]
          intro v hv hnode
          rw [isNodeList, List.any_eq_true.mpr ⟨v, hv, hnode⟩, Bool.or_true] at hlist
          cases hlist
        simp [isSlot, hlist, heldNodes, hnone]
    | object members => cases hnode : isNode (.object members) <;> simp [isSlot, heldNodes, hnode]
    | null => cases optionalSlots.contains key <;> simp [isSlot, heldNodes, isNode, tag?, Value.field?]
    | _ => simp [isSlot, heldNodes, isNode, tag?, Value.field?]

/-- The children of an object are the nodes right below it. -/
theorem map_pendingChildren (place : Place) (owner : Nat) (members : List (String × Value)) :
    (pendingChildren place owner members).map (fun p => (p.place, p.document)) = nodesBelow (place, .object members) := by
  induction members with
  | nil => rfl
  | cons member rest ih =>
    obtain ⟨key, v⟩ := member
    rw [pendingChildren, List.map_append, ih, map_pendingOf, nodesBelow, nodesBelow]
    cases hkey : bookkeeping.contains key with
    | true => rw [List.filter_cons_of_neg (by simpa using hkey), if_pos rfl, List.nil_append]
    | false => rw [List.filter_cons_of_pos (by simpa using hkey), if_neg Bool.false_ne_true, List.flatMap_cons]

/-- A value is made a node, with the nodes right below it to be made, or it is malformed and the failure says how. -/
theorem expand_cases (place : Place) (position : Nat) (v : Value) :
    (IsWellFormed v ∧ ∃ record children, expand place position v = .ok (record, children) ∧
      children.map (fun p => (p.place, p.document)) = nodesBelow (place, v)) ∨
    ∃ reason, reason.Describes v ∧ expand place position v = malformed reason place := by
  cases v with
  | object members =>
    cases htag : tag? (.object members) with
    | none =>
      refine .inr ⟨_, .missingType fun tag htype => ?_, by rw [expand, htag]⟩
      have hnode := isNode_iff.mpr ⟨members, tag, rfl, htype⟩
      rw [isNode, htag] at hnode
      cases hnode
    | some tag =>
      have hnode : isNode (.object members) = true := by rw [isNode, htag]; rfl
      rcases spanOf_cases hnode place with ⟨hrange, span, hspan⟩ | ⟨reason, hreason, hspan⟩
      · have hexpand : ∃ record, expand place position (.object members)
            = .ok (record, pendingChildren place position members) := by
          rw [expand, htag]
          dsimp only
          rw [hspan]
          exact ⟨_, rfl⟩
        obtain ⟨record, hexpand⟩ := hexpand
        exact .inl ⟨⟨hnode, hrange⟩, record, _, hexpand, map_pendingChildren place position members⟩
      · refine .inr ⟨reason, hreason, ?_⟩
        rw [expand, htag]
        dsimp only
        rw [hspan]
        rfl
  | _ =>
    refine .inr ⟨_, .notAnObject fun members h => ?_, rfl⟩
    cases h

/-- A failure is about the first malformed value of those that are looked at, and says what is wrong with it. -/
def IsFirstFault (visited : List (Place × Value)) (e : Error) : Prop :=
  ∃ passed place v later reason, visited = passed ++ (place, v) :: later ∧ (∀ p ∈ passed, IsWellFormed p.2) ∧
    reason.Describes v ∧ e = .problem (.treeFormat reason place.text)

/-- A loop over these values ends with a result if all of them are well-formed, else with the first fault. -/
def EndsBy {α : Type} (visited : List (Place × Value)) (x : Except Error α) : Prop :=
  ((∃ a, x = .ok a) ∧ ∀ p ∈ visited, IsWellFormed p.2) ∨ ∃ e, x = .error e ∧ IsFirstFault visited e

theorem EndsBy.cons {α : Type} {p : Place × Value} {visited : List (Place × Value)} {x : Except Error α}
    (hp : IsWellFormed p.2) (h : EndsBy visited x) : EndsBy (p :: visited) x := by
  rcases h with ⟨hok, hall⟩ | ⟨e, he, passed, place, v, later, reason, rfl, hpassed, hreason, rfl⟩
  · exact .inl ⟨hok, List.forall_mem_cons.mpr ⟨hp, hall⟩⟩
  · exact .inr ⟨_, he, p :: passed, place, v, later, reason, rfl, List.forall_mem_cons.mpr ⟨hp, hpassed⟩, hreason, rfl⟩

/-- A loop ends with what is wrong with the first value. -/
theorem EndsBy.of_fault {α : Type} {place : Place} {v : Value} {visited : List (Place × Value)} {reason : TreeFault}
    (h : reason.Describes v) : EndsBy ((place, v) :: visited) (malformed reason place : Except Error α) :=
  .inr ⟨_, rfl, [], place, v, visited, reason, rfl, List.forall_mem_nil _, h, rfl⟩

/-- All that is looked at from a stack on. -/
def visitsFrom (stack : List Pending) : List (Place × Value) :=
  (stack.map fun p => (p.place, p.document)).flatMap visits

/-- **What is on the stack decides how the loop ends.** -/
theorem run_ends (state : Progress) (stack : List Pending) : EndsBy (visitsFrom stack) (run state stack) := by
  match stack with
  | [] =>
    rw [run]
    exact .inl ⟨⟨state, rfl⟩, List.forall_mem_nil _⟩
  | p :: rest =>
    -- The node on top is looked at, and what it holds takes its place in the same order as in `visits`.
    have hvisits : visitsFrom (p :: rest) = (p.place, p.document) ::
        ((nodesBelow (p.place, p.document)).reverse.flatMap visits ++ visitsFrom rest) := by
      rw [visitsFrom, List.map_cons, List.flatMap_cons, visits_eq, List.cons_append, visitsFrom]
    rw [hvisits]
    rcases expand_cases p.place state.graph.nodes.size p.document with
      ⟨hwell, record, children, hexpand, hchildren⟩ | ⟨reason, hreason, hexpand⟩
    · have hrest : visitsFrom (children.reverse ++ rest)
          = (nodesBelow (p.place, p.document)).reverse.flatMap visits ++ visitsFrom rest := by
        rw [visitsFrom, List.map_append, List.map_reverse, hchildren, List.flatMap_append, visitsFrom]
      rw [run_ok hexpand, ← hrest]
      exact .cons hwell (run_ends _ _)
    · rw [run_error hexpand]
      exact .of_fault hreason
termination_by weight stack
decreasing_by
  have := weight_expand_lt hexpand
  simp only [weight_append, weight_reverse, weight]
  omega

/-- The nodes of a document are made, or the first of them that is malformed is reported. -/
theorem build_ends (document : Value) : EndsBy (visits ([], document)) (build document) := by
  rw [build, visits_eq]
  rcases expand_cases [] 0 document with ⟨hwell, record, children, hexpand, hchildren⟩ | ⟨reason, hreason, hexpand⟩
  · rw [hexpand, ← hchildren, ← List.map_reverse]
    exact .cons hwell (run_ends _ _)
  · rw [hexpand]
    exact .of_fault hreason

end Loader

namespace Node

/-- A document is not loaded for the reason that its nodes are not made. -/
theorem load_eq_error_iff {document : Value} (hkeys : document.hasDistinctKeys) {e : Error} :
    (load document).outcome = .error e ↔ build document = .error e := by
  rw [load_eq hkeys, build_eq hkeys]
  cases convert [] document with
  | ok root =>
    constructor <;> intro h <;> cases h
  | error e' =>
    constructor
    · rintro ⟨⟩
      rfl
    · rintro ⟨⟩
      rfl

theorem load_isFirstFault {document : Value} (hkeys : document.hasDistinctKeys) {e : Error}
    (h : (load document).outcome = .error e) : IsFirstFault (visits ([], document)) e := by
  rcases build_ends document with ⟨⟨done, hdone⟩, -⟩ | ⟨e', he, hfirst⟩
  · cases ((load_eq_error_iff hkeys).mp h).symm.trans hdone
  · cases ((load_eq_error_iff hkeys).mp h).symm.trans he
    exact hfirst

/-- A document that is not loaded is malformed, and nothing is noted about it. -/
theorem load_of_error {document : Value} {e : Error} (hkeys : document.hasDistinctKeys)
    (h : (load document).outcome = .error e) : e.IsMalformed ∧ load document = ⟨[], .error e⟩ := by
  obtain ⟨_, place, _, _, reason, -, -, -, rfl⟩ := load_isFirstFault hkeys h
  refine ⟨.treeFormat reason place.text, ?_⟩
  rw [load_eq hkeys] at h ⊢
  cases hconvert : convert [] document with
  | ok root =>
    rw [hconvert] at h
    cases h
  | error e' =>
    rw [hconvert] at h
    cases h
    rfl

/-- **A document is loaded unless a node of it is malformed, and the first malformed one is reported.** The document
itself must be an object with a text under `type`; each node that can be reached from it gives a range of lines or none.
Among several malformed nodes the first one in the order of `visits` decides what the failure says. Nothing else can
go wrong. -/
theorem first_malformed_node_is_reported {document : Value} (hkeys : document.hasDistinctKeys) :
    ((∃ e, (load document).outcome = .error e) ↔
      (¬∃ members tag, document = .object members ∧ Fields.get? members "type" = some (.str tag)) ∨
        ∃ node, Relation.ReflTransGen Holds document node ∧ isNode node = true ∧ ¬HasRange node) ∧
    ∀ e, (load document).outcome = .error e → IsFirstFault (visits ([], document)) e := by
  refine ⟨?_, fun e => load_isFirstFault hkeys⟩
  rw [← isNode_iff]
  constructor
  · rintro ⟨e, he⟩
    obtain ⟨passed, place, v, later, reason, hvisits, -, hreason, -⟩ := load_isFirstFault hkeys he
    have hreach : Relation.ReflTransGen Holds document v :=
      exists_mem_visits.mp ⟨place, hvisits ▸ List.mem_append_right _ List.mem_cons_self⟩
    by_cases hnode : isNode v = true
    · exact .inr ⟨v, hreach, hnode, fun hrange => IsWellFormed.not_describes ⟨hnode, hrange⟩ reason hreason⟩
    · -- What is held by another value is a node, so this is the document.
      rcases Relation.ReflTransGen.cases_tail hreach with rfl | ⟨w, -, hholds⟩
      · exact .inl hnode
      · cases hholds <;> contradiction
  · intro hwrong
    have hbad : ∃ node, Relation.ReflTransGen Holds document node ∧ ¬IsWellFormed node := by
      rcases hwrong with hnode | ⟨node, hreach, -, hrange⟩
      · exact ⟨document, .refl, fun hwell => hnode hwell.1⟩
      · exact ⟨node, hreach, fun hwell => hrange hwell.2⟩
    obtain ⟨node, hreach, hbad⟩ := hbad
    obtain ⟨place, hmem⟩ := exists_mem_visits.mpr hreach
    rcases build_ends document with ⟨-, hall⟩ | ⟨e, he, -⟩
    · exact absurd (hall _ hmem) hbad
    · exact ⟨e, (load_eq_error_iff hkeys).mpr he⟩

/-- A list of two nodes, neither of which gives a range of lines. -/
def twoFaults : Value :=
  .object
    [ ("type", .str "ArrayExpression"),
      ("elements", .list
        [ .object [("type", .str "Identifier"), ("loc", .object [])],
          .object
            [ ("type", .str "Literal"),
              ("loc", .object [("start", .object [("line", .int 5)]), ("end", .object [("line", .int 2)])]) ] ]) ]

theorem last_of_twoFaults_is_reported :
    (load twoFaults).outcome = .error (.problem (.treeFormat (.invalidSpan (.int 5) (.int 2)) "$.elements[1]")) ∧
    IsFirstFault (visits ([], twoFaults)) (.problem (.treeFormat (.invalidSpan (.int 5) (.int 2)) "$.elements[1]")) := by
  have hkeys : twoFaults.hasDistinctKeys := by decide
  have hload : (load twoFaults).outcome
      = .error (.problem (.treeFormat (.invalidSpan (.int 5) (.int 2)) "$.elements[1]")) := by
    rw [load_eq hkeys]
    rfl
  exact ⟨hload, (first_malformed_node_is_reported hkeys).2 _ hload⟩

end Node

end CodeMetrics
