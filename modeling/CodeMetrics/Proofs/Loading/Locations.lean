import CodeMetrics.Proofs.Loading.Malformed

/-!
# Places in documents

The failure for a malformed node names a place. `Value.at?` follows a place from a document on, with everything in a
list counted. The loader counts only the nodes in a list, so what it names is `counted` from the place of the node:
whatever else stands in a list before a node shifts the number of the node.

* `exists_at?_of_mem_visits` — a node that is looked at stands in the document, and its place is counted
* `counted_eq_iff` — the two are one place if only nodes stand before it in the lists on the way
* `text_counted_eq_iff` — and if they are not, their texts differ
* `Node.fault_location_counts_nodes` — what this means for the failure that is reported
-/

namespace CodeMetrics

namespace Value

/-- The part of a value that a step leads to. -/
def step? : Value → Step → Option Value
  | .object members, .key name => Fields.get? members name
  | .list items, .index i => items[i]?
  | _, _ => none

/-- The value at a place. -/
def at? (v : Value) : Place → Option Value
  | [] => some v
  | step :: place => (v.at? place).bind fun w => w.step? step

theorem at?_cons_eq_some {v w : Value} {step : Step} {place : Place} :
    v.at? (step :: place) = some w ↔ ∃ above, v.at? place = some above ∧ above.step? step = some w :=
  Option.bind_eq_some_iff

theorem hasDistinctKeys_step? {v w : Value} {step : Step} (hkeys : v.hasDistinctKeys) (h : v.step? step = some w) :
    w.hasDistinctKeys := by
  cases v with
  | object members =>
    cases step with
    | key name => exact membersDistinct_iff.mp (hasDistinctKeys_object.mp hkeys).2 _ (Fields.mem_of_get? h)
    | index i => cases h
  | list items =>
    cases step with
    | key name => cases h
    | index i => exact haveDistinctKeys_iff.mp (by simpa [hasDistinctKeys] using hkeys) _ (List.mem_of_getElem? h)
  | _ => cases h

theorem hasDistinctKeys_at? {v w : Value} {place : Place} (hkeys : v.hasDistinctKeys) (h : v.at? place = some w) :
    w.hasDistinctKeys := by
  induction place generalizing w with
  | nil =>
    cases h
    exact hkeys
  | cons step place ih =>
    obtain ⟨above, habove, hstep⟩ := at?_cons_eq_some.mp h
    exact hasDistinctKeys_step? (ih habove) hstep

/-- The parts of a value, each with the step that leads to it. -/
def branches : Value → List (Step × Value)
  | .object members => members.map fun member => (.key member.1, member.2)
  | .list items => items.zipIdx.map fun item => (.index item.2, item.1)
  | _ => []

theorem mem_branches_of_step? {v w : Value} {step : Step} (h : v.step? step = some w) : (step, w) ∈ v.branches := by
  cases v with
  | object members =>
    cases step with
    | key name => exact List.mem_map.mpr ⟨_, Fields.mem_of_get? h, rfl⟩
    | index i => cases h
  | list items =>
    cases step with
    | key name => cases h
    | index i => exact List.mem_map.mpr ⟨_, List.mk_mem_zipIdx_iff_getElem?.mpr h, rfl⟩
  | _ => cases h

/-- A list of places that goes on with every step holds all places. -/
theorem mem_of_at? {v w : Value} {place : Place} {parts : List (Place × Value)} (hroot : ([], v) ∈ parts)
    (hstep : ∀ p ∈ parts, ∀ b ∈ p.2.branches, (b.1 :: p.1, b.2) ∈ parts) (h : v.at? place = some w) :
    (place, w) ∈ parts := by
  induction place generalizing w with
  | nil =>
    cases h
    exact hroot
  | cons step place ih =>
    obtain ⟨above, habove, hbranch⟩ := at?_cons_eq_some.mp h
    exact hstep _ (ih habove) _ (mem_branches_of_step? hbranch)

end Value

namespace Loader

/-- How many nodes stand before an item, if there is a list around it. -/
def nodesBefore : Option Value → Nat → Nat
  | some (.list items), i => (items.take i).countP isNode
  | _, i => i

/-- A place as the loader names it: of a list only the nodes are counted. -/
def counted (document : Value) : Place → Place
  | [] => []
  | .key name :: place => .key name :: counted document place
  | .index i :: place => .index (nodesBefore (document.at? place) i) :: counted document place

/-- In the lists on the way to a place, only nodes stand before it. -/
def OnlyNodesBefore (document : Value) : Place → Prop
  | [] => True
  | .key _ :: place => OnlyNodesBefore document place
  | .index i :: place => OnlyNodesBefore document place ∧
    ∀ items, document.at? place = some (.list items) → ∀ v ∈ items.take i, isNode v = true

/-! ## Nodes stand where they are counted -/

/-- What is kept of a list stands in it behind those that are kept before. -/
theorem exists_getElem?_of_filter {α : Type} {p : α → Bool} {l : List α} {i : Nat} {a : α}
    (h : (l.filter p)[i]? = some a) : ∃ j, l[j]? = some a ∧ i = (l.take j).countP p := by
  induction l generalizing i with
  | nil => cases h
  | cons b rest ih =>
    by_cases hb : p b = true
    · rw [List.filter_cons_of_pos hb] at h
      cases i with
      | zero => exact ⟨0, h, rfl⟩
      | succ i =>
        obtain ⟨j, hj, rfl⟩ := ih h
        exact ⟨j + 1, hj, by rw [List.take_succ_cons, List.countP_cons_of_pos hb]⟩
    · rw [List.filter_cons_of_neg hb] at h
      obtain ⟨j, hj, rfl⟩ := ih h
      exact ⟨j + 1, hj, by rw [List.take_succ_cons, List.countP_cons_of_neg hb]⟩

theorem exists_at?_of_mem_nodesBelow {document v child : Value} {place named : Place} (hkeys : document.hasDistinctKeys)
    (hplace : document.at? place = some v) (hmem : (named, child) ∈ nodesBelow (counted document place, v)) :
    ∃ below, document.at? below = some child ∧ named = counted document below := by
  have hdistinct := Value.hasDistinctKeys_at? hkeys hplace
  cases v with
  | object members =>
    obtain ⟨⟨key, held⟩, hmember, hmem⟩ := List.mem_flatMap.mp hmem
    have hheld : document.at? (.key key :: place) = some held :=
      Value.at?_cons_eq_some.mpr ⟨_, hplace,
        Fields.get?_of_mem (Value.hasDistinctKeys_object.mp hdistinct).1 (List.mem_filter.mp hmember).1⟩
    by_cases hlist : ∃ items, held = .list items
    · obtain ⟨items, rfl⟩ := hlist
      obtain ⟨⟨node, i⟩, hnode, heq⟩ := List.mem_map.mp hmem
      cases heq
      obtain ⟨j, hj, rfl⟩ := exists_getElem?_of_filter (List.mk_mem_zipIdx_iff_getElem?.mp hnode)
      refine ⟨.index j :: .key key :: place, Value.at?_cons_eq_some.mpr ⟨_, hheld, hj⟩, ?_⟩
      rw [counted, hheld]
      rfl
    · -- What is no list is the node itself.
      rw [heldNodes_of_not_list hlist] at hmem
      split at hmem
      · cases List.mem_singleton.mp hmem
        exact ⟨_, hheld, rfl⟩
      · cases hmem
  | _ => cases hmem

/-- A node that is looked at stands in the document, at a place that is counted as it is named. -/
theorem exists_at?_of_mem_visits {document v w : Value} {place named : Place} (hkeys : document.hasDistinctKeys)
    (hplace : document.at? place = some v) (hmem : (named, w) ∈ visits (counted document place, v)) :
    ∃ below, document.at? below = some w ∧ named = counted document below := by
  rw [visits_eq, List.mem_cons] at hmem
  rcases hmem with heq | hmem
  · cases heq
    exact ⟨place, hplace, rfl⟩
  · obtain ⟨⟨below, child⟩, hchild, hmem⟩ := List.mem_flatMap.mp hmem
    have hbelow := List.mem_reverse.mp hchild
    have hlt := (exists_mem_nodesBelow.mp ⟨_, hbelow⟩).sizeOf_lt
    obtain ⟨place', hplace', rfl⟩ := exists_at?_of_mem_nodesBelow hkeys hplace hbelow
    exact exists_at?_of_mem_visits hkeys hplace' hmem
termination_by sizeOf v

/-! ## Places that are counted right -/

theorem countP_take_eq_iff {items : List Value} {i : Nat} (h : i ≤ items.length) :
    (items.take i).countP isNode = i ↔ ∀ v ∈ items.take i, isNode v = true := by
  rw [← List.countP_eq_length, List.length_take_of_le h]

/-- A place is named as it is if only nodes stand before it in the lists on the way. -/
theorem counted_eq_iff {document v : Value} {place : Place} (h : document.at? place = some v) :
    counted document place = place ↔ OnlyNodesBefore document place := by
  induction place generalizing v with
  | nil => exact ⟨fun _ => trivial, fun _ => rfl⟩
  | cons step place ih =>
    obtain ⟨above, habove, hstep⟩ := Value.at?_cons_eq_some.mp h
    cases step with
    | key name => rw [counted, OnlyNodesBefore, List.cons_inj_right, ih habove]
    | index i =>
      cases above with
      | list items =>
        have hle : i ≤ items.length := Nat.le_of_lt (List.getElem?_eq_some_iff.mp hstep).1
        rw [counted, OnlyNodesBefore, List.cons.injEq, ih habove, Step.index.injEq, habove, nodesBefore,
          countP_take_eq_iff hle, and_comm]
        simp only [Option.some.injEq, Value.list.injEq, forall_eq']
      | _ => cases hstep

theorem text_cons (step : Step) (place : Place) : Place.text (step :: place) = place.text ++ step.text := by
  rw [Place.text, List.reverse_cons, List.foldl_append]
  rfl

theorem text_key_inj {name : String} {p q : Place} :
    Place.text (.key name :: p) = Place.text (.key name :: q) ↔ p.text = q.text := by
  rw [text_cons, text_cons, ← String.toList_inj, String.toList_append, String.toList_append, List.append_left_inj,
    String.toList_inj]

/-- Where a sign stands for the last time, two lists can be taken apart. -/
theorem append_cons_inj_of_last {α : Type} {a : α} {xs ys as bs : List α} (has : a ∉ as) (hbs : a ∉ bs) :
    xs ++ a :: as = ys ++ a :: bs ↔ xs = ys ∧ as = bs := by
  constructor
  · intro h
    -- The sign that one list has too many would stand among `as` or `bs`.
    have hbehind : ∀ {cs ds es : List α}, a ∉ ds → a :: ds = cs ++ a :: es → cs = [] := by
      rintro (_ | ⟨c, cs⟩) ds es hds heq
      · rfl
      · cases heq
        exact absurd (List.mem_append_right _ List.mem_cons_self) hds
    rcases List.append_eq_append_iff.mp h with ⟨cs, rfl, heq⟩ | ⟨cs, rfl, heq⟩
    · cases hbehind has heq
      cases heq
      exact ⟨(List.append_nil xs).symm, rfl⟩
    · cases hbehind hbs heq
      cases heq
      exact ⟨List.append_nil ys, rfl⟩
  · rintro ⟨rfl, rfl⟩
    rfl

theorem toDigits_inj {i j : Nat} : Nat.toDigits 10 i = Nat.toDigits 10 j ↔ i = j := by
  constructor
  · intro h
    have hvalue := congrArg (fun cs => Nat.ofDigitChars 10 cs 0) h
    simpa only [Nat.ofDigitChars_toDigits (b := 10) (by decide) (by decide)] using hvalue
  · rintro rfl
    rfl

/-- The number at the end of a text can be told, and what is before it. -/
theorem text_index_inj {i j : Nat} {p q : Place} :
    Place.text (.index i :: p) = Place.text (.index j :: q) ↔ i = j ∧ p.text = q.text := by
  have htext : ∀ (i : Nat) (p : Place), (Place.text (.index i :: p)).toList
      = p.text.toList ++ '[' :: (Nat.toDigits 10 i ++ [']']) := by
    intro i p
    simp [text_cons, Step.text, Number.natText]
  have hclosed : ∀ i : Nat, '[' ∉ Nat.toDigits 10 i ++ [']'] := by
    intro i hmem
    rcases List.mem_append.mp hmem with hdigit | hbracket
    · exact absurd (Nat.isDigit_of_mem_toDigits (by decide) (by decide) hdigit) (by decide)
    · exact absurd hbracket (by decide)
  rw [← String.toList_inj, htext, htext, append_cons_inj_of_last (hclosed i) (hclosed j), List.append_left_inj,
    toDigits_inj, String.toList_inj, and_comm]

/-- Two places with the same keys have the same text only if they are the same. -/
theorem text_counted_eq_iff {document : Value} {place : Place} :
    (counted document place).text = place.text ↔ counted document place = place := by
  induction place with
  | nil => exact ⟨fun _ => rfl, fun _ => rfl⟩
  | cons step place ih =>
    cases step with
    | key name => rw [counted, text_key_inj, ih, List.cons_inj_right]
    | index i => rw [counted, text_index_inj, ih, List.cons.injEq, Step.index.injEq]

end Loader

namespace Node

open Loader

/-- **The failure names the place of the first malformed node, with only the nodes of a list counted.** This is the
place of the node in the document exactly if nothing but nodes stands before it in the lists on the way. -/
theorem fault_location_counts_nodes {document : Value} {reason : TreeFault} {location : String}
    (hkeys : document.hasDistinctKeys)
    (h : (load document).outcome = .error (.problem (.treeFormat reason location))) :
    ∃ place v passed later, document.at? place = some v ∧ reason.Describes v ∧
      visits ([], document) = passed ++ (counted document place, v) :: later ∧ (∀ p ∈ passed, IsWellFormed p.2) ∧
      location = (counted document place).text ∧ (location = place.text ↔ OnlyNodesBefore document place) := by
  obtain ⟨passed, named, v, later, reason', hvisits, hpassed, hreason, heq⟩ := load_isFirstFault hkeys h
  cases heq
  have hmem : (named, v) ∈ visits (counted document [], document) :=
    hvisits ▸ List.mem_append_right _ List.mem_cons_self
  obtain ⟨place, hplace, rfl⟩ := exists_at?_of_mem_visits hkeys rfl hmem
  exact ⟨place, v, passed, later, hplace, hreason, hvisits, hpassed, rfl,
    text_counted_eq_iff.trans (counted_eq_iff hplace)⟩

/-- A list with a hole in it before a node whose location is incomplete. -/
def holeDocument : Value :=
  .object
    [ ("type", .str "ArrayExpression"),
      ("elements", .list [.null, .object [("type", .str "Identifier"), ("loc", .object [])]]) ]

/-- All that stands in `holeDocument`. -/
def holeParts : List (Place × Value) :=
  [ ([], holeDocument),
    ([.key "type"], .str "ArrayExpression"),
    ([.key "elements"], .list [.null, .object [("type", .str "Identifier"), ("loc", .object [])]]),
    ([.index 0, .key "elements"], .null),
    ([.index 1, .key "elements"], .object [("type", .str "Identifier"), ("loc", .object [])]),
    ([.key "type", .index 1, .key "elements"], .str "Identifier"),
    ([.key "loc", .index 1, .key "elements"], .object []) ]

theorem load_holeDocument :
    (load holeDocument).outcome = .error (.problem (.treeFormat .incompleteLocation "$.elements[0]")) := by
  rw [load_eq (by decide)]
  rfl

theorem named_place_of_holeDocument :
    ∃ place v, holeDocument.at? place = some v ∧ TreeFault.incompleteLocation.Describes v ∧
      "$.elements[0]" = (counted holeDocument place).text := by
  obtain ⟨place, v, _, _, hplace, hreason, -, -, hlocation, -⟩ :=
    fault_location_counts_nodes (by decide) load_holeDocument
  exact ⟨place, v, hplace, hreason, hlocation⟩

/-- What the failure names is no place of a malformed node. -/
theorem hole_shifts_location :
    (load holeDocument).outcome = .error (.problem (.treeFormat .incompleteLocation "$.elements[0]")) ∧
    ¬∃ place v, holeDocument.at? place = some v ∧ TreeFault.incompleteLocation.Describes v ∧
      place.text = "$.elements[0]" := by
  refine ⟨load_holeDocument, ?_⟩
  rintro ⟨place, v, hplace, hreason, htext⟩
  have hclosed : ∀ p ∈ holeParts, ∀ b ∈ p.2.branches, (b.1 :: p.1, b.2) ∈ holeParts := by
    simp [holeParts, holeDocument, Value.branches]
  have hmem : (place, v) ∈ holeParts := Value.mem_of_at? List.mem_cons_self hclosed hplace
  simp only [holeParts, List.mem_cons, Prod.mk.injEq, List.not_mem_nil, or_false] at hmem
  rcases hmem with
    ⟨rfl, -⟩ | ⟨rfl, -⟩ | ⟨rfl, -⟩ | ⟨-, rfl⟩ | ⟨rfl, -⟩ | ⟨rfl, -⟩ | ⟨rfl, -⟩
  case inr.inr.inr.inl =>
    -- The hole itself is there, and it is no node.
    cases hreason with
    | incompleteLocation hnode => cases hnode
  all_goals exact absurd htext (by decide)

end Node

end CodeMetrics
