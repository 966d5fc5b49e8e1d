import CodeMetrics.Metrics.Analysis
import CodeMetrics.Proofs.Loading.Malformed
import CodeMetrics.Proofs.Loading.Tree

/-!
# Documents without their bookkeeping

Much of a document is there for other readers: offsets, comments, tokens, links back to parents, columns, and what stands
between the nodes of a list. `Value.essential` leaves all of that out and keeps every node where it was. The loader goes
through a document as it goes through what is left of it, so two documents of which the same is left are loaded alike,
with the same nodes at the same places.

* `Loader.convert_essential` — a document is converted as what is left of it
* `analysis_without_bookkeeping` — two documents of which the same is left
-/

namespace CodeMetrics

open Loader

namespace Value

/-- The members of a node that no reader of trees looks at. -/
def ignoredKeys : List String := ["range", "parent", "tokens", "comments"]

/-- A location with nothing but its lines, so far as it has them. -/
def onlyLines : Value → Value
  | null => null
  | loc => object (["start", "end"].filterMap fun side =>
      (locLine loc side).map fun line => (side, object [("line", line)]))

mutual

/-- What is left of a node: its members without those that are ignored, its location with nothing but lines, its lists of
nodes with nothing but nodes, and what is left of its children. -/
def essential : Value → Value
  | object members => object (essentialMembers members)
  | v => v

def essentialMembers : List (String × Value) → List (String × Value)
  | [] => []
  | (key, v) :: rest =>
    if ignoredKeys.contains key then essentialMembers rest
    else
      (key,
        if key = "loc" then onlyLines v
        else if isChild (key, v) then
          match v with
          | list items => list (essentialItems items)
          | v => essential v
        else v) :: essentialMembers rest

def essentialItems : List Value → List Value
  | [] => []
  | v :: rest => if isNode v then essential v :: essentialItems rest else essentialItems rest

end

/-- What is left of one member of a node. -/
def essentialMember (key : String) (v : Value) : Value :=
  if key = "loc" then onlyLines v
  else if isChild (key, v) then
    match v with
    | list items => list (essentialItems items)
    | v => essential v
  else v

theorem essentialMembers_cons (key : String) (v : Value) (rest : List (String × Value)) :
    essentialMembers ((key, v) :: rest) = if ignoredKeys.contains key then essentialMembers rest
      else (key, v.essentialMember key) :: essentialMembers rest := by
  rw [essentialMembers.eq_def]
  rfl

/-! ## Members that stay -/

theorem get?_essentialMembers {key : String} (hkey : key ∉ ignoredKeys) (members : List (String × Value)) :
    Fields.get? (essentialMembers members) key = (Fields.get? members key).map (essentialMember key) := by
  induction members with
  | nil => rfl
  | cons member rest ih =>
    obtain ⟨k, v⟩ := member
    rw [essentialMembers_cons, Fields.get?]
    by_cases hk : k = key
    · subst hk
      rw [if_neg (by simpa using hkey), Fields.get?, if_pos rfl, if_pos rfl]
      rfl
    · rw [if_neg hk]
      split
      · exact ih
      · rw [Fields.get?, if_neg hk]
        exact ih

@[simp] theorem tag?_essential (v : Value) : tag? v.essential = tag? v := by
  cases v with
  | object members =>
    have hsame : essentialMember "type" = id := by
      funext v
      simp [essentialMember, isChild, bookkeeping]
    rw [essential, tag?, tag?, field?, field?, get?_essentialMembers (by decide), hsame, Option.map_id, id]
  | _ => rfl

@[simp] theorem isNode_essential (v : Value) : isNode v.essential = isNode v := by rw [isNode, isNode, tag?_essential]

/-- The lines of a location are those of what is left of it. -/
theorem locLine_onlyLines (loc : Value) {side : String} (h : side ∈ ["start", "end"]) :
    locLine loc.onlyLines side = locLine loc side := by
  have hnull : locLine null side = none := rfl
  have hobject : ∀ lines : String → Option Value,
      locLine (object (["start", "end"].filterMap fun side =>
        (lines side).map fun line => (side, object [("line", line)]))) side = lines side := by
    intro lines
    simp only [List.mem_cons, List.not_mem_nil, or_false] at h
    rcases h with rfl | rfl <;> cases hstart : lines "start" <;> cases hend : lines "end" <;>
      simp [hstart, hend, locLine, field?, Fields.get?]
  cases loc with
  | null => exact hnull
  | _ => exact hobject _

theorem onlyLines_eq_null {loc : Value} : loc.onlyLines = null ↔ loc = null := by
  cases loc <;> simp [onlyLines]

theorem spanOf_essential (members : List (String × Value)) (place : Place) :
    spanOf (object (essentialMembers members)) place = spanOf (object members) place := by
  have hloc : ∀ v, essentialMember "loc" v = v.onlyLines := fun v => if_pos rfl
  rw [spanOf, spanOf, field?, field?, get?_essentialMembers (by decide)]
  cases hget : Fields.get? members "loc" with
  | none => rfl
  | some loc =>
    rw [Option.map_some, hloc]
    by_cases hnull : loc = null
    · rw [hnull, onlyLines]
    · have hleft : loc.onlyLines ≠ null := fun h => hnull (onlyLines_eq_null.mp h)
      simp only [locLine_onlyLines loc (show "start" ∈ ["start", "end"] by decide),
        locLine_onlyLines loc (show "end" ∈ ["start", "end"] by decide)]

/-! ## Children that stay -/

theorem essentialItems_eq (items : List Value) : essentialItems items = (items.filter isNode).map essential := by
  induction items with
  | nil => rfl
  | cons v rest ih =>
    rw [essentialItems]
    split
    · next hnode => rw [List.filter_cons_of_pos hnode, List.map_cons, ih]
    · next hnode => rw [List.filter_cons_of_neg hnode, ih]

/-- A list of nodes is one without what is no node. -/
theorem isNodeList_essentialItems {items : List Value} (h : isNodeList items = true) :
    isNodeList (essentialItems items) = true := by
  rw [isNodeList, Bool.or_eq_true, List.any_eq_true] at h
  rcases h with hempty | ⟨v, hv, hnode⟩
  · rw [List.isEmpty_iff.mp hempty]
    rfl
  · rw [isNodeList, Bool.or_eq_true, List.any_eq_true, essentialItems_eq]
    exact .inr ⟨v.essential, List.mem_map_of_mem (List.mem_filter.mpr ⟨hv, hnode⟩), (isNode_essential v).trans hnode⟩

theorem isChild_loc (v : Value) : isChild ("loc", v) = false := by simp [isChild, bookkeeping]

theorem ne_loc_of_isChild {key : String} {v : Value} (h : isChild (key, v) = true) : key ≠ "loc" := by
  rintro rfl
  rw [isChild_loc] at h
  cases h

theorem essentialMember_of_not {key : String} {v : Value} (h : isChild (key, v) = false) (hloc : key ≠ "loc") :
    v.essentialMember key = v := (if_neg hloc).trans (if_neg (by rw [h]; exact Bool.false_ne_true))

theorem essentialMember_list {key : String} {items : List Value} (h : isChild (key, list items) = true) :
    (list items).essentialMember key = list (essentialItems items) := (if_neg (ne_loc_of_isChild h)).trans (if_pos h)

theorem essentialMember_object {key : String} {members : List (String × Value)}
    (h : isChild (key, object members) = true) :
    (object members).essentialMember key = object (essentialMembers members) :=
  (if_neg (ne_loc_of_isChild h)).trans (if_pos h)

/-- What is neither a list nor an object has nothing to leave out. -/
theorem essentialMember_leaf (v : Value) (hlist : ∀ items, v ≠ list items) (hobject : ∀ members, v ≠ object members)
    {key : String} (hloc : key ≠ "loc") : v.essentialMember key = v := by
  cases hchild : isChild (key, v) with
  | false => exact essentialMember_of_not hchild hloc
  | true =>
    refine ((if_neg hloc).trans (if_pos hchild)).trans ?_
    cases v with
    | list items => exact absurd rfl (hlist items)
    | object members => exact absurd rfl (hobject members)
    | _ => rfl

/-- What is left of a child is a child, and of nothing else. -/
theorem isChild_essentialMember (key : String) (v : Value) :
    isChild (key, v.essentialMember key) = isChild (key, v) := by
  by_cases hloc : key = "loc"
  · subst hloc
    rw [isChild_loc, isChild_loc]
  cases hchild : isChild (key, v) with
  | false => rw [essentialMember_of_not hchild hloc, hchild]
  | true =>
    have hslot := hchild
    rw [isChild, Bool.and_eq_true] at hslot
    cases v with
    | list items =>
      rw [essentialMember_list hchild, isChild, Bool.and_eq_true]
      exact ⟨hslot.1, isNodeList_essentialItems hslot.2⟩
    | object members =>
      rw [essentialMember_object hchild, isChild, Bool.and_eq_true]
      exact ⟨hslot.1, (isNode_essential (object members)).trans hslot.2⟩
    | null => rw [essentialMember_leaf null (fun _ h => by cases h) (fun _ h => by cases h) hloc, hchild]
    | _ => simp [isChild, isSlot] at hchild

end Value

/-! ## Conversion -/

namespace Loader

open Value

/-- Attributes are those members that are neither ignored nor looked into. -/
theorem attributes_eq (members : List (String × Value)) :
    attributes members = members.filter fun m => !bookkeeping.contains m.1 && !isChild m := by
  refine List.filter_congr fun m _ => ?_
  obtain ⟨key, v⟩ := m
  show (!bookkeeping.contains key && !isSlot key v) = _
  rw [isChild]
  cases bookkeeping.contains key <;> rfl

theorem bookkeeping_of_ignored {key : String} (h : ignoredKeys.contains key = true) : bookkeeping.contains key = true := by
  simp only [ignoredKeys, bookkeeping, List.contains_eq_mem, List.mem_cons, List.not_mem_nil, or_false,
    decide_eq_true_eq] at h ⊢
  tauto

theorem attributes_essential (members : List (String × Value)) :
    attributes (essentialMembers members) = attributes members := by
  rw [attributes_eq, attributes_eq]
  induction members with
  | nil => rfl
  | cons member rest ih =>
    obtain ⟨key, v⟩ := member
    rw [essentialMembers_cons]
    split
    · next hignored =>
      rw [List.filter_cons_of_neg (by rw [bookkeeping_of_ignored hignored]; exact Bool.false_ne_true), ih]
    · rw [List.filter_cons, List.filter_cons, ih, isChild_essentialMember]
      split
      · next hkept =>
        rw [Bool.and_eq_true, Bool.not_eq_true', Bool.not_eq_true'] at hkept
        have hloc : key ≠ "loc" := by
          rintro rfl
          cases hkept.1
        rw [essentialMember_of_not hkept.2 hloc]
      · rfl

theorem convertSlot_of_ignored {key : String} (h : ignoredKeys.contains key = true) (v : Value) (place : Place) :
    convertSlot place key v = .ok none :=
  convertSlot_of_not (by rw [isChild, bookkeeping_of_ignored h]; rfl) place

/-- A member that is no child leaves none. -/
theorem convertSlot_essential_of_not {key : String} {v : Value} (h : isChild (key, v) = false) (place : Place) :
    convertSlot place key (v.essentialMember key) = convertSlot place key v := by
  rw [convertSlot_of_not h, convertSlot_of_not ((isChild_essentialMember key v).trans h)]

theorem convertSlot_essential_leaf (v : Value) (hlist : ∀ items, v ≠ .list items)
    (hobject : ∀ members, v ≠ .object members) (key : String) (place : Place) :
    convertSlot place key (v.essentialMember key) = convertSlot place key v := by
  cases hchild : isChild (key, v) with
  | false => exact convertSlot_essential_of_not hchild place
  | true => rw [essentialMember_leaf v hlist hobject (ne_loc_of_isChild hchild)]

mutual

/-- **A document is converted as what is left of it**, or refused for the same reason at the same place. -/
theorem convert_essential : ∀ (v : Value) (place : Place), convert place v.essential = convert place v
  | .object members, place => by
    rw [essential, convert, convert, ← essential, tag?_essential, essential, spanOf_essential, attributes_essential,
      convertMembers_essential members place]
  | .null, _ => rfl
  | .bool _, _ => rfl
  | .int _, _ => rfl
  | .float _, _ => rfl
  | .str _, _ => rfl
  | .moment _, _ => rfl
  | .list _, _ => rfl
termination_by v => (sizeOf v, 0)

theorem convertMembers_essential : ∀ (members : List (String × Value)) (place : Place),
    convertMembers place (essentialMembers members) = convertMembers place members
  | [], _ => rfl
  | (key, v) :: rest, place => by
    rw [essentialMembers_cons, convertMembers_cons]
    split
    · next hignored =>
      rw [convertSlot_of_ignored hignored, convertMembers_essential rest place]
      exact (bind_pure _).symm
    · rw [convertMembers_cons, convertMembers_essential rest place, convertSlot_essential v key place]
termination_by members => (sizeOf members, 0)

theorem convertSlot_essential : ∀ (v : Value) (key : String) (place : Place),
    convertSlot place key (v.essentialMember key) = convertSlot place key v
  | .list items, key, place => by
    cases hchild : isChild (key, .list items) with
    | false => exact convertSlot_essential_of_not hchild place
    | true =>
      have hleft := (isChild_essentialMember key (.list items)).trans hchild
      rw [essentialMember_list hchild] at hleft ⊢
      rw [convertSlot_list hchild, convertSlot_list hleft, convertItems_essential items]
  | .object members, key, place => by
    cases hchild : isChild (key, .object members) with
    | false => exact convertSlot_essential_of_not hchild place
    | true =>
      have hleft := (isChild_essentialMember key (.object members)).trans hchild
      have hconvert := convert_essential (.object members) (.key key :: place)
      rw [essential] at hconvert
      rw [essentialMember_object hchild] at hleft ⊢
      rw [convertSlot_object hchild, convertSlot_object hleft, hconvert]
  | .null, key, place => convertSlot_essential_leaf .null nofun nofun key place
  | .bool b, key, place => convertSlot_essential_leaf (.bool b) nofun nofun key place
  | .int n, key, place => convertSlot_essential_leaf (.int n) nofun nofun key place
  | .float x, key, place => convertSlot_essential_leaf (.float x) nofun nofun key place
  | .str s, key, place => convertSlot_essential_leaf (.str s) nofun nofun key place
  | .moment m, key, place => convertSlot_essential_leaf (.moment m) nofun nofun key place
termination_by v => (sizeOf v, 1)

/-- Nodes of a list are counted as if there were nothing between them. -/
theorem convertItems_essential : ∀ (items : List Value) (place : Place) (index : Nat),
    convertItems place index (essentialItems items) = convertItems place index items
  | [], _, _ => rfl
  | v :: rest, place, index => by
    rw [essentialItems, convertItems.eq_def place index (v :: rest)]
    dsimp only
    split
    · next hnode =>
      rw [convertItems, isNode_essential, if_pos hnode, convertItems_essential rest, convert_essential v]
    · exact convertItems_essential rest place index
termination_by items => (sizeOf items, 0)

end

end Loader

/-! ## Whole documents -/

section Documents

variable {document document' : Value} (hkeys : document.hasDistinctKeys) (hkeys' : document'.hasDistinctKeys)
  (h : document.essential = document'.essential)

include hkeys hkeys' h

/-- Documents of which the same is left are loaded alike, notes and all. -/
theorem Node.load_eq_of_essential : Node.load document = Node.load document' := by
  have hconvert : convert [] document = convert [] document' := by
    rw [← convert_essential document, h, convert_essential document']
  rw [load_eq hkeys, load_eq hkeys', hconvert]

/-- **Bookkeeping has no say in an analysis.** Two documents of which the same is left once ignored members, all of a
location but its lines and what is no node in a list of nodes are taken away give the same tree or are refused for the
same reason at the same place; under any settings their analyses end in the same way and note the same. -/
theorem analysis_without_bookkeeping {σ : Type} [Scalar σ] :
    ((∃ root, (Node.load document).outcome = .ok root ∧ (Node.load document').outcome = .ok root) ∨
      ∃ reason location, (Node.load document).outcome = .error (.problem (.treeFormat reason location)) ∧
        (Node.load document').outcome = .error (.problem (.treeFormat reason location))) ∧
    ∀ settings : Settings, (analyzeDocument document settings : Traced (Analysis Nat σ Num))
      = analyzeDocument document' settings := by
  have hload := Node.load_eq_of_essential hkeys hkeys' h
  refine ⟨?_, fun settings => by rw [analyzeDocument, analyzeDocument, hload]⟩
  rw [← hload]
  cases houtcome : (Node.load document).outcome with
  | ok root => exact .inl ⟨root, rfl, rfl⟩
  | error e =>
    obtain ⟨⟨reason, location⟩, -⟩ := Node.load_of_error hkeys houtcome
    exact .inr ⟨reason, location, rfl, rfl⟩

end Documents

/-- An empty statement with all that may come with it, some of it no tree. -/
def annotatedDocument : Value :=
  let position (line column : Int) : Value := .object [("line", .int line), ("column", .int column)]
  .object
    [ ("type", .str "Program"), ("range", .list [.int 0, .int 1]),
      ("loc", .object [("source", .null), ("end", position 2 1), ("start", position 1 0)]),
      ("tokens", .list [.object [("type", .str "Punctuator"), ("loc", .str "nowhere")]]),
      ("body", .list
        [ .null,
          .object [("parent", .object [("type", .str "Program"), ("loc", .int 7)]), ("type", .str "EmptyStatement")],
          .object [("comments", .str ";")] ]) ]

def plainDocument : Value :=
  .object
    [ ("type", .str "Program"),
      ("loc", .object [("start", .object [("line", .int 1)]), ("end", .object [("line", .int 2)])]),
      ("body", .list [.object [("type", .str "EmptyStatement")]]) ]

def plainTree : Node :=
  ⟨1, .program, "Program", Span.of? (.int 1) (.int 2),
    [("body", .many [some ⟨2, .emptyStatement, "EmptyStatement", none, [], []⟩])], []⟩

theorem load_plainDocument : (Node.load plainDocument).outcome = .ok plainTree := by
  rw [Node.load_eq (by decide)]
  rfl

/-- The annotated statement is loaded and analysed as the plain one. -/
theorem analysis_of_annotatedDocument : annotatedDocument.essential = plainDocument.essential ∧
    (Node.load annotatedDocument).outcome = .ok plainTree ∧
    ∀ settings : Settings, (analyzeDocument annotatedDocument settings : Traced Measured)
      = analyzeDocument plainDocument settings := by
  have hleft : annotatedDocument.essential = plainDocument.essential := rfl
  obtain ⟨hload, hanalysis⟩ := @analysis_without_bookkeeping _ _ (by decide) (by decide) hleft Float _
  refine ⟨hleft, ?_, hanalysis⟩
  rcases hload with ⟨root, hannotated, hplain⟩ | ⟨reason, location, -, hplain⟩
  · rw [hannotated, ← hplain, load_plainDocument]
  · cases load_plainDocument.symm.trans hplain

end CodeMetrics
