import CodeMetrics.Metrics.Units
import CodeMetrics.Proofs.Distinct
import Mathlib.Data.List.Flatten
import Mathlib.Data.List.Pairwise

/-!
# Which nodes are reported

`Node.reported` lists the nodes of a tree that are units, from the top down: a node with lines and of a unit's kind,
unless it is the value of a method that is itself reported. The loop over the tree finds the same nodes with a set of
numbers that it has dealt with, because a method's value comes after the method and has a number of its own.

* `sublist_reported` — units stand in preorder
* `mem_reported_iff` — which nodes are units
* `Candidate.finds_reported` — the loop finds them
-/

namespace CodeMetrics

namespace Node

/-- Whether a node has lines and is of a unit's kind. -/
def isUnit (n : Node) : Bool := n.span.isSome && (decide (n.kind = .methodDefinition) || n.kind.isFunction)

/-- Whether a node takes its value as its own function. -/
def isMethod (n : Node) : Bool := decide (n.kind = .methodDefinition)

mutual

/-- The units of a tree, in preorder. The root is none if it is `taken` by a method above it. -/
def reported (taken : Bool) : Node → List Node
  | ⟨id, kind, tag, span, fields, attrs⟩ =>
    let n : Node := ⟨id, kind, tag, span, fields, attrs⟩
    if !taken && n.isUnit then n :: reportedFields n.isMethod fields else reportedFields false fields

/-- The units below a node. Its value is taken if it is a method. -/
def reportedFields (method : Bool) : List (String × Slot Node) → List Node
  | [] => []
  | (name, slot) :: rest => reportedSlot (method && name == "value") slot ++ reportedFields method rest

def reportedSlot (taken : Bool) : Slot Node → List Node
  | .absent => []
  | .one n => reported taken n
  | .many items => reportedItems items

def reportedItems : List (Option Node) → List Node
  | [] => []
  | none :: rest => reportedItems rest
  | some n :: rest => reported false n ++ reportedItems rest

end

/-! ## By children -/

/-- The nodes of a slot, each with whether it is taken. -/
def slotOffspring (taken : Bool) : Slot Node → List (Bool × Node)
  | .one n => [(taken, n)]
  | slot => slot.nodes.map fun n => (false, n)

/-- The children of a node, each with whether it is taken by it. -/
def offspring (method : Bool) (fields : List (String × Slot Node)) : List (Bool × Node) :=
  fields.flatMap fun (name, slot) => slotOffspring (method && name == "value") slot

theorem reportedItems_eq (items : List (Option Node)) :
    reportedItems items = (items.filterMap fun item => item).flatMap (reported false) := by
  induction items with
  | nil => rfl
  | cons item rest ih => cases item <;> simp [reportedItems, ih]

theorem reportedSlot_eq (taken : Bool) (slot : Slot Node) :
    reportedSlot taken slot = (slotOffspring taken slot).flatMap fun child => reported child.1 child.2 := by
  cases slot with
  | absent => rfl
  | one n => simp [reportedSlot, slotOffspring]
  | many items => simp [reportedSlot, slotOffspring, reportedItems_eq, Slot.nodes, List.flatMap_map]

theorem reportedFields_eq (method : Bool) (fields : List (String × Slot Node)) :
    reportedFields method fields = (offspring method fields).flatMap fun child => reported child.1 child.2 := by
  induction fields with
  | nil => rfl
  | cons field rest ih =>
    obtain ⟨name, slot⟩ := field
    simp only [reportedFields, reportedSlot_eq, ih, offspring, List.flatMap_cons, List.flatMap_append]

/-- A node takes its value if it is a method and a unit. -/
def takes (taken : Bool) (n : Node) : Bool := !taken && n.isUnit && n.isMethod

/-- The node comes first if it is a unit, then the units of each child. -/
theorem reported_eq (taken : Bool) (n : Node) :
    n.reported taken = (if !taken && n.isUnit then [n] else [])
      ++ (offspring (n.takes taken) n.fields).flatMap fun child => reported child.1 child.2 := by
  cases n with
  | mk id kind tag span fields attrs =>
    rw [reported, takes]
    cases h : (!taken && isUnit ⟨id, kind, tag, span, fields, attrs⟩) <;> simp [reportedFields_eq]

theorem map_offspring (method : Bool) (fields : List (String × Slot Node)) :
    (offspring method fields).map (·.2) = fields.flatMap fun (_, slot) => slot.nodes := by
  have hslot : ∀ (taken : Bool) (slot : Slot Node), (slotOffspring taken slot).map (·.2) = slot.nodes := by
    intro taken slot
    cases slot <;> simp [slotOffspring, Slot.nodes, Function.comp_def]
  rw [offspring, List.map_flatMap]
  exact List.flatMap_congr fun field _ => hslot _ _

theorem map_offspring_children (method : Bool) (n : Node) : (offspring method n.fields).map (·.2) = n.children :=
  map_offspring method n.fields

/-- The preorder sequence goes over the children with or without what is taken. -/
theorem preorder_eq_offspring (method : Bool) (n : Node) :
    n.preorder = n :: (offspring method n.fields).flatMap fun child => child.2.preorder := by
  rw [preorder_eq, ← map_offspring_children method, List.flatMap_map]

/-- Units stand in preorder. -/
theorem sublist_reported (n : Node) : ∀ taken, (n.reported taken).Sublist n.preorder := by
  induction n using Node.induction with
  | step n ih =>
    intro taken
    have hbelow : ((offspring (n.takes taken) n.fields).flatMap fun child => reported child.1 child.2).Sublist
        ((offspring (n.takes taken) n.fields).flatMap fun child => child.2.preorder) := by
      refine List.Sublist.flatMap_right _ fun child hchild => ih child.2 ?_ child.1
      rw [← map_offspring_children (n.takes taken)]
      exact List.mem_map_of_mem hchild
    rw [reported_eq, preorder_eq_offspring (n.takes taken)]
    split
    · exact hbelow.cons_cons n
    · exact hbelow.cons n

/-! ## What a method takes -/

/-- A child is taken by a method whose value it is. -/
theorem child_of_taken {n c : Node} {method : Bool} (hkeys : (Fields.keys n.fields).Nodup)
    (h : (true, c) ∈ offspring method n.fields) : method = true ∧ n.child "value" = some c := by
  obtain ⟨⟨name, slot⟩, hfield, hslot⟩ := List.mem_flatMap.mp h
  cases slot with
  | absent => simp [slotOffspring, Slot.nodes] at hslot
  | many items => simp [slotOffspring] at hslot
  | one d =>
    simp only [slotOffspring, List.mem_singleton, Prod.mk.injEq] at hslot
    obtain ⟨htaken, rfl⟩ := hslot
    obtain ⟨hmethod, hname⟩ := Bool.and_eq_true_iff.mp htaken.symm
    have hget := Fields.get?_of_mem hkeys hfield
    rw [beq_iff_eq] at hname
    subst hname
    exact ⟨hmethod, by rw [child, hget]⟩

theorem taken_of_child {n c : Node} (h : n.child "value" = some c) : (true, c) ∈ offspring true n.fields :=
  List.mem_flatMap.mpr ⟨_, child_eq_some h, by simp [slotOffspring]⟩

/-! ## Distinct nodes -/

theorem mem_children_of_mem_offspring {n : Node} {method : Bool} {child : Bool × Node}
    (h : child ∈ offspring method n.fields) : child.2 ∈ n.children := by
  rw [← map_offspring_children method]
  exact List.mem_map_of_mem h

/-- A node is below one child only. -/
theorem IsDistinct.offspring_unique {n : Node} (h : n.IsDistinct) {method : Bool} {a b : Bool × Node} {m : Node}
    (ha : a ∈ offspring method n.fields) (hb : b ∈ offspring method n.fields) (hma : m ∈ a.2.preorder)
    (hmb : m ∈ b.2.preorder) : a = b := by
  have hids := h.ids
  rw [preorder_eq_offspring method, List.map_cons, List.nodup_cons, List.map_flatMap, List.nodup_flatMap] at hids
  by_contra hne
  have : Std.Symm (Function.onFun List.Disjoint fun child : Bool × Node => child.2.preorder.map id) :=
    ⟨fun _ _ hdisjoint _ hx hy => hdisjoint hy hx⟩
  exact hids.2.2.forall ha hb hne (List.mem_map_of_mem hma) (List.mem_map_of_mem hmb)

/-! ## Which nodes are units -/

theorem mem_reported {n m : Node} {taken : Bool} :
    m ∈ n.reported taken ↔ (m = n ∧ taken = false ∧ n.isUnit = true) ∨
      ∃ child ∈ offspring (n.takes taken) n.fields, m ∈ child.2.reported child.1 := by
  rw [reported_eq, List.mem_append, List.mem_flatMap]
  cases taken <;> cases n.isUnit <;> simp

/-- A node that is reported is a unit that no reported method takes. -/
theorem spec_of_mem_reported {n : Node} (h : n.IsDistinct) : ∀ {taken : Bool} {m : Node}, m ∈ n.reported taken →
    m.isUnit = true ∧ ¬(taken = true ∧ m = n) ∧
      ¬∃ q ∈ n.reported taken, q.kind = .methodDefinition ∧ q.child "value" = some m := by
  induction n using Node.induction with
  | step n ih =>
    intro taken m hm
    rcases mem_reported.mp hm with ⟨rfl, rfl, hunit⟩ | ⟨child, hchild, hmchild⟩
    · refine ⟨hunit, by simp, ?_⟩
      rintro ⟨q, hq, -, hvalue⟩
      -- The root is the value of no node below it.
      have hle := size_le_of_mem_preorder ((sublist_reported m false).subset hq)
      have hlt := size_lt_of_mem_children (mem_children_of_child hvalue)
      omega
    · have hc := mem_children_of_mem_offspring hchild
      have hbelow : m ∈ child.2.preorder := (sublist_reported _ _).subset hmchild
      obtain ⟨hunit, hfree, hother⟩ := ih child.2 hc (h.child hc) hmchild
      refine ⟨hunit, ?_, ?_⟩
      · rintro ⟨-, rfl⟩
        exact notMem_preorder_of_child hc hbelow
      · rintro ⟨q, hq, hmethod, hvalue⟩
        rcases mem_reported.mp hq with ⟨rfl, rfl, hqunit⟩ | ⟨other, hotherchild, hqother⟩
        · -- The method would have taken the node.
          have htakes : q.takes false = true := by simp [takes, hqunit, isMethod, hmethod]
          rw [htakes] at hchild
          have hsame := h.offspring_unique hchild (taken_of_child hvalue) hbelow (mem_preorder_self m)
          subst hsame
          exact hfree ⟨rfl, rfl⟩
        · have hmother : m ∈ other.2.preorder := mem_preorder_trans ((sublist_reported _ _).subset hqother)
            (mem_preorder_of_child (mem_children_of_child hvalue) (mem_preorder_self m))
          have hsame := h.offspring_unique hchild hotherchild hbelow hmother
          subst hsame
          exact hother ⟨q, hqother, hmethod, hvalue⟩

/-- A unit that no reported method takes is reported. -/
theorem mem_reported_of_spec {n : Node} (h : n.IsDistinct) : ∀ {taken : Bool} {m : Node}, m ∈ n.preorder →
    m.isUnit = true → ¬(taken = true ∧ m = n) →
    (¬∃ q ∈ n.reported taken, q.kind = .methodDefinition ∧ q.child "value" = some m) → m ∈ n.reported taken := by
  induction n using Node.induction with
  | step n ih =>
    intro taken m hpre hunit hfree hother
    rw [preorder_eq_offspring (n.takes taken)] at hpre
    rcases List.mem_cons.mp hpre with rfl | hbelow
    · refine mem_reported.mpr (.inl ⟨rfl, ?_, hunit⟩)
      cases taken with
      | false => rfl
      | true => exact absurd ⟨rfl, rfl⟩ hfree
    · obtain ⟨child, hchild, hm⟩ := List.mem_flatMap.mp hbelow
      have hc := mem_children_of_mem_offspring hchild
      refine mem_reported.mpr (.inr ⟨child, hchild, ih child.2 hc (h.child hc) hm hunit ?_ ?_⟩)
      · rintro ⟨htaken, rfl⟩
        obtain ⟨t, c⟩ := child
        cases htaken
        -- What takes a child is a method that is itself reported.
        obtain ⟨htakes, hvalue⟩ := child_of_taken (h.keys n (mem_preorder_self n)) hchild
        simp only [takes, Bool.and_eq_true, Bool.not_eq_true', isMethod, decide_eq_true_eq] at htakes
        exact hother ⟨n, mem_reported.mpr (.inl ⟨rfl, htakes.1.1, htakes.1.2⟩), htakes.2, hvalue⟩
      · rintro ⟨q, hq, hmethod, hvalue⟩
        exact hother ⟨q, mem_reported.mpr (.inr ⟨child, hchild, hq⟩), hmethod, hvalue⟩

/-- **A node is reported if it has lines and is of a unit's kind, unless it is the value of a method that is
reported.** -/
theorem mem_reported_iff {n : Node} (h : n.IsDistinct) {taken : Bool} {m : Node} :
    m ∈ n.reported taken ↔ m ∈ n.preorder ∧ m.isUnit = true ∧ ¬(taken = true ∧ m = n) ∧
      ¬∃ q ∈ n.reported taken, q.kind = .methodDefinition ∧ q.child "value" = some m := by
  constructor
  · intro hm
    exact ⟨(sublist_reported n taken).subset hm, spec_of_mem_reported h hm⟩
  · rintro ⟨hpre, hunit, hfree, hother⟩
    exact mem_reported_of_spec h hpre hunit hfree hother

/-- The function whose body is measured: a method's is its value. -/
def unitFunction (n : Node) : Option Node := if n.kind = .methodDefinition then n.child "value" else some n

/-- The body on which a unit is measured. -/
def unitBody (n : Node) : Option Node := n.unitFunction.bind fun f => f.child "body"

theorem mem_preorder_unitFunction {n f : Node} (h : n.unitFunction = some f) : f ∈ n.preorder := by
  unfold unitFunction at h
  split at h
  · exact mem_preorder_of_child (mem_children_of_child h) (mem_preorder_self f)
  · cases h
    exact mem_preorder_self n

theorem mem_preorder_unitBody {n b : Node} (h : n.unitBody = some b) : b ∈ n.preorder := by
  obtain ⟨f, hf, hb⟩ := Option.bind_eq_some_iff.mp h
  have hbody : b ∈ f.preorder := mem_preorder_of_child (mem_children_of_child hb) (mem_preorder_self b)
  exact mem_preorder_trans (mem_preorder_unitFunction hf) hbody

/-- The numbers that are dealt with once a unit is found: its own, and that of a method's value. -/
def claims (n : Node) : List Nat := (if n.isMethod then ((n.child "value").map id).toList else []) ++ [n.id]

theorem mem_claims {n : Node} {i : Nat} :
    i ∈ n.claims ↔ i = n.id ∨ (n.isMethod = true ∧ ∃ v, n.child "value" = some v ∧ v.id = i) := by
  unfold claims
  cases n.isMethod <;> cases n.child "value" <;> simp [or_comm, eq_comm]

end Node

namespace Candidate

open Node

/-- A node as a unit that is still to be measured. -/
def ofNode? (parents : Parents) (n : Node) : Option Candidate :=
  n.span.map fun span => ⟨n.unitName parents, n.unitKind, span, n.unitFunction⟩

/-! ## The loop -/

variable {parents : Parents}

/-- One step of the loop. -/
theorem among_cons (processed : List Nat) (n : Node) (rest : List Node) :
    among parents processed (n :: rest) =
      if n.isUnit = true ∧ n.id ∉ processed then
        (ofNode? parents n).toList ++ among parents (n.claims ++ processed) rest
      else among parents processed rest := by
  rw [among]
  cases hspan : n.span with
  | none => simp [isUnit, hspan]
  | some span =>
    by_cases hid : n.id ∈ processed
    · simp [hid]
    · by_cases hmethod : n.kind = .methodDefinition
      · simp [hid, isUnit, hspan, hmethod, ofNode?, unitFunction, claims, isMethod]
      · cases hfunction : n.kind.isFunction <;>
          simp [hid, isUnit, hspan, hmethod, hfunction, ofNode?, unitFunction, claims, isMethod]

/-- Only the numbers of the nodes that are still to come matter. -/
theorem among_congr {nodes : List Node} : ∀ {p q : List Nat}, (∀ n ∈ nodes, n.id ∈ p ↔ n.id ∈ q) →
    among parents p nodes = among parents q nodes := by
  induction nodes with
  | nil => intro p q _; rfl
  | cons n rest ih =>
    intro p q h
    have hrest : ∀ m ∈ rest, m.id ∈ p ↔ m.id ∈ q := fun m hm => h m (List.mem_cons_of_mem _ hm)
    have hclaims : among parents (n.claims ++ p) rest = among parents (n.claims ++ q) rest := by
      refine ih fun m hm => ?_
      rw [List.mem_append, List.mem_append, hrest m hm]
    rw [among_cons, among_cons]
    simp only [h n List.mem_cons_self, hclaims, ih hrest]

/-- The loop finds the units of a tree, and leaves those after it as they are. -/
def Finds (parents : Parents) (n : Node) : Prop :=
  ∀ (taken : Bool) (processed : List Nat) (rest : List Node),
    (∀ m ∈ n.preorder, ∀ r ∈ rest, m.id ≠ r.id) → (n.id ∈ processed ↔ taken = true) →
    (∀ m ∈ n.preorder, m ≠ n → m.id ∉ processed) →
    among parents processed (n.preorder ++ rest)
      = (n.reported taken).filterMap (ofNode? parents) ++ among parents processed rest

/-- Several trees, one after the other. -/
theorem among_forest {kids : List (Bool × Node)} {processed : List Nat} {rest : List Node}
    (hfinds : ∀ kid ∈ kids, Finds parents kid.2)
    (hids : ((kids.flatMap fun kid => kid.2.preorder).map Node.id).Nodup)
    (hrest : ∀ m ∈ kids.flatMap fun kid => kid.2.preorder, ∀ r ∈ rest, m.id ≠ r.id)
    (hroot : ∀ kid ∈ kids, kid.2.id ∈ processed ↔ kid.1 = true)
    (hbelow : ∀ kid ∈ kids, ∀ m ∈ kid.2.preorder, m ≠ kid.2 → m.id ∉ processed) :
    among parents processed ((kids.flatMap fun kid => kid.2.preorder) ++ rest)
      = (kids.flatMap fun kid => kid.2.reported kid.1).filterMap (ofNode? parents)
        ++ among parents processed rest := by
  induction kids with
  | nil => rfl
  | cons kid kids ih =>
    rw [List.flatMap_cons, List.map_append, List.nodup_append] at hids
    obtain ⟨-, hids, hapart⟩ := hids
    have hlater := ih (fun k hk => hfinds k (List.mem_cons_of_mem _ hk)) hids
      (fun m hm => hrest m (List.mem_append_right _ hm)) (fun k hk => hroot k (List.mem_cons_of_mem _ hk))
      (fun k hk => hbelow k (List.mem_cons_of_mem _ hk))
    have hfirst := hfinds kid List.mem_cons_self kid.1 processed ((kids.flatMap fun kid => kid.2.preorder) ++ rest) ?_
      (hroot kid List.mem_cons_self) (hbelow kid List.mem_cons_self)
    · rw [List.flatMap_cons, List.flatMap_cons, List.append_assoc, hfirst, hlater, List.filterMap_append,
        List.append_assoc]
    · intro m hm r hr
      rcases List.mem_append.mp hr with hr | hr
      · exact hapart _ (List.mem_map_of_mem hm) _ (List.mem_map_of_mem hr)
      · exact hrest m (List.mem_append_left _ hm) r hr

/-- What is dealt with after a node is visited: all that was, and what the node claims if it is a unit. -/
def afterVisit (processed : List Nat) (n : Node) : List Nat :=
  if n.isUnit = true ∧ n.id ∉ processed then n.claims ++ processed else processed

theorem among_cons_afterVisit {taken : Bool} {processed : List Nat} {n : Node} (h : n.id ∈ processed ↔ taken = true)
    (rest : List Node) :
    among parents processed (n :: rest)
      = (if !taken && n.isUnit then [n] else []).filterMap (ofNode? parents)
        ++ among parents (afterVisit processed n) rest := by
  have hone : [n].filterMap (ofNode? parents) = (ofNode? parents n).toList := by
    cases hnode : ofNode? parents n <;> simp [hnode]
  rw [among_cons, afterVisit]
  cases taken with
  | true => simp [h.mpr rfl]
  | false =>
    have hnot : n.id ∉ processed := fun hmem => Bool.false_ne_true (h.mp hmem)
    cases hunit : n.isUnit with
    | false => simp
    | true => simp [hnot, hone]

/-- Below a node, what it takes is dealt with when it is visited. -/
theorem mem_afterVisit_iff {n : Node} (h : n.IsDistinct) {taken : Bool} {processed : List Nat}
    (hroot : n.id ∈ processed ↔ taken = true) (hbelow : ∀ m ∈ n.preorder, m ≠ n → m.id ∉ processed) {m : Node}
    (hm : m ∈ n.preorder) (hne : m ≠ n) :
    m.id ∈ afterVisit processed n ↔ n.takes taken = true ∧ n.child "value" = some m := by
  have hfree := hbelow m hm hne
  have hown : m.id ≠ n.id := fun hid => hne (h.eq_of_id hm (mem_preorder_self n) hid)
  have hvalue : (∃ v, n.child "value" = some v ∧ v.id = m.id) ↔ n.child "value" = some m := by
    constructor
    · rintro ⟨v, hv, hid⟩
      have hmem := mem_preorder_of_child (mem_children_of_child hv) (mem_preorder_self v)
      rw [hv, h.eq_of_id hmem hm hid]
    · exact fun hv => ⟨m, hv, rfl⟩
  unfold afterVisit takes
  cases taken with
  | true => simp [hroot.mpr rfl, hfree]
  | false =>
    have hnot : n.id ∉ processed := fun hmem => Bool.false_ne_true (hroot.mp hmem)
    cases hunit : n.isUnit with
    | false => simp [hfree]
    | true => simp [hnot, hfree, mem_claims, hown, hvalue]

theorem mem_afterVisit_of_apart {n r : Node} (h : ∀ m ∈ n.preorder, m.id ≠ r.id) (processed : List Nat) :
    r.id ∈ afterVisit processed n ↔ r.id ∈ processed := by
  have hclaims : r.id ∉ n.claims := by
    rw [mem_claims]
    rintro (hid | ⟨-, v, hv, hid⟩)
    · exact h n (mem_preorder_self n) hid.symm
    · exact h v (mem_preorder_of_child (mem_children_of_child hv) (mem_preorder_self v)) hid
  unfold afterVisit
  split
  · rw [List.mem_append, or_iff_right hclaims]
  · rfl

/-- **The loop finds the units of every tree.** -/
theorem finds_reported {n : Node} (h : n.IsDistinct) : Finds parents n := by
  induction n using Node.induction with
  | step n ih =>
    intro taken processed rest hrest hroot hbelow
    have hchild : ∀ kid ∈ offspring (n.takes taken) n.fields, kid.2 ∈ n.children := fun kid hkid =>
      mem_children_of_mem_offspring hkid
    have hids := h.ids
    rw [preorder_eq_offspring (n.takes taken), List.map_cons, List.nodup_cons] at hids
    have hrest' : ∀ m ∈ (offspring (n.takes taken) n.fields).flatMap fun kid => kid.2.preorder, ∀ r ∈ rest,
        m.id ≠ r.id := by
      intro m hm
      refine hrest m ?_
      rw [preorder_eq_offspring (n.takes taken)]
      exact List.mem_cons_of_mem _ hm
    -- Of the nodes below, just the child that is taken is dealt with before its turn.
    have hvisited : ∀ kid ∈ offspring (n.takes taken) n.fields, ∀ m ∈ kid.2.preorder,
        m.id ∈ afterVisit processed n ↔ kid.1 = true ∧ m = kid.2 := by
      intro kid hkid m hm
      have hmem := mem_preorder_of_child (hchild kid hkid) hm
      have hne : m ≠ n := fun hne => notMem_preorder_of_child (hchild kid hkid) (hne ▸ hm)
      rw [mem_afterVisit_iff h hroot hbelow hmem hne]
      constructor
      · rintro ⟨htakes, hvalue⟩
        rw [htakes] at hkid
        rw [h.offspring_unique hkid (taken_of_child hvalue) hm (mem_preorder_self m)]
        exact ⟨rfl, rfl⟩
      · rintro ⟨htaken, rfl⟩
        obtain ⟨t, c⟩ := kid
        cases htaken
        exact child_of_taken (h.keys n (mem_preorder_self n)) hkid
    have hforest := @among_forest parents _ (afterVisit processed n) rest
      (fun kid hkid => ih kid.2 (hchild kid hkid) (h.child (hchild kid hkid))) hids.2 hrest'
      (fun kid hkid => (hvisited kid hkid kid.2 (mem_preorder_self _)).trans (and_iff_left rfl))
      (fun kid hkid m hm hne hmem => hne ((hvisited kid hkid m hm).mp hmem).2)
    -- The numbers that were claimed are not those of later nodes.
    have hafter : among parents (afterVisit processed n) rest = among parents processed rest :=
      among_congr fun r hr => mem_afterVisit_of_apart (fun m hm => hrest m hm r hr) processed
    rw [reported_eq, List.filterMap_append, List.append_assoc, ← hafter, ← hforest,
      preorder_eq_offspring (n.takes taken), List.cons_append, among_cons_afterVisit hroot]

end Candidate

theorem Node.candidates_eq {n : Node} (h : n.IsDistinct) (parents : Parents) :
    n.candidates parents = (n.reported false).filterMap (Candidate.ofNode? parents) := by
  have hfinds := @Candidate.finds_reported parents n h false [] [] (by simp) (by simp) (by simp)
  rw [Node.candidates, Node.walk_eq]
  simpa [Candidate.among] using hfinds

end CodeMetrics
