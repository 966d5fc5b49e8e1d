import CodeMetrics.Metrics.Analysis
import CodeMetrics.Proofs.Analysis.Measuring
import CodeMetrics.Proofs.Inheritance.Depths
import Mathlib.Order.MinMax

/-!
# The type graph of a tree

The types that a tree declares have texts as names if all its names are texts. Then nothing but a cycle keeps depths from
being found, and putting the declarations of one name together changes nothing about the graph.

* `typeDecls_eq` — the declarations of a tree, by texts
* `cyclic_merge` — the graph of merged declarations
* `inheritance_ok`, `inheritance_error` — what becomes of a cycle under either policy
-/

namespace CodeMetrics

namespace Inheritance

/-! ## Names that are texts -/

theorem mapM_keyed_texts (texts : List String) :
    (texts.map Value.str).mapM (fun v => do return (v, ← nameKey v) : Value → Except Error (Value × Value.Key))
      = .ok (texts.map fun s => (.str s, .text s)) := by
  rw [List.mapM_map]
  exact Outcome.mapM_eq_ok_map fun _ _ => rfl

theorem distinctNames_texts (texts : List String) :
    distinctNames (texts.map Value.str) = .ok ((distinct texts).map Value.str) := by
  have hkeys : (texts.map fun s => (Value.str s, Value.Key.text s)).map (·.2) = texts.map Value.Key.text := by
    rw [List.map_map]
    rfl
  have hfind : ∀ s ∈ distinct texts,
      (((texts.map fun s => (Value.str s, Value.Key.text s)).find? fun p => decide (p.2 = .text s)).map (·.1))
        = some (.str s) := by
    intro s hs
    rw [List.find?_map, Option.map_map]
    cases hfind : texts.find? ((fun p : Value × Value.Key => decide (p.2 = .text s)) ∘ fun s => (.str s, .text s)) with
    | none =>
      have hnone := List.find?_eq_none.mp hfind s ((mem_distinct _).mp hs)
      simp at hnone
    | some t =>
      have ht := List.find?_some hfind
      simp only [Function.comp_apply, decide_eq_true_eq, Value.Key.text.injEq] at ht
      rw [ht]
      rfl
  refine Outcome.bind_eq_ok.mpr ⟨_, mapM_keyed_texts texts, ?_⟩
  refine congrArg Except.ok ?_
  rw [hkeys, distinct_map text_injective, List.filterMap_map]
  refine (List.filterMap_congr hfind).trans ?_
  exact congrFun List.filterMap_eq_map _

end Inheritance

/-! ## Declarations -/

namespace Node

/-- No place in a list of children is open. -/
def IsClosed (n : Node) : Prop := ∀ key items, (key, .many items) ∈ n.fields → none ∉ items

theorem IsClosed.childList {n : Node} (h : n.IsClosed) (name : String) : none ∉ n.childList name := by
  unfold Node.childList
  split
  · next items hslot => exact h name items (Fields.mem_of_get? hslot)
  · exact List.not_mem_nil

theorem mem_children_of_childList {n c : Node} {name : String} (h : some c ∈ n.childList name) : c ∈ n.children := by
  unfold Node.childList at h
  split at h
  · next items hslot =>
    exact List.mem_flatMap.mpr ⟨_, Fields.mem_of_get? hslot, List.mem_filterMap.mpr ⟨some c, h, rfl⟩⟩
  · cases h

/-- The names behind the entries of a list of clauses that are texts. -/
def heritageTexts (items : List (Option Node)) : List String :=
  items.filterMap fun item => textName? (item.bind fun clause => clause.child "expression")

theorem heritageNames_eq {items : List (Option Node)} (hclosed : none ∉ items)
    (htexts : ∀ c, some c ∈ items → ∀ d ∈ c.children, d.HasTextName) :
    heritageNames items = .ok ((heritageTexts items).map Value.str) := by
  induction items with
  | nil => rfl
  | cons item rest ih =>
    cases item with
    | none => exact absurd List.mem_cons_self hclosed
    | some c =>
      have hlater := ih (fun h => hclosed (List.mem_cons_of_mem _ h)) fun d hd => htexts d (List.mem_cons_of_mem _ hd)
      have hfirst := @identifierName?_eq (c.child "expression") fun d hd =>
        htexts c List.mem_cons_self d (mem_children_of_child hd)
      have hcons : heritageTexts (some c :: rest) = (textName? (c.child "expression")).toList ++ heritageTexts rest := by
        cases hname : textName? (c.child "expression") <;> simp [heritageTexts, hname]
      rw [heritageNames, hlater, hfirst, hcons, List.map_append, Option.toList_map]
      rfl

open Inheritance

/-- The parents that a class or an interface names as texts. -/
def parentTexts (n : Node) : List String :=
  if n.kind.isClass then (textName? (n.child "superClass")).toList ++ heritageTexts (n.childList "implements")
  else heritageTexts (n.childList "extends")

/-- The type that a node declares under a text. -/
def declaration? (n : Node) : Option (TypeDecl String) :=
  if n.kind.isType then (textName? (n.child "id")).map fun name => ⟨name, distinct n.parentTexts⟩ else none

/-- What a node declares, if anything, has a text as its name and texts as parents. -/
theorem typeDecl?_eq {n : Node} (hclosed : n.IsClosed) (htexts : ∀ m ∈ n.preorder, m.HasTextName) :
    n.typeDecl? = .ok (n.declaration?.map (TypeDecl.map Value.str)) := by
  have hname : ∀ name, identifierName? (n.child name) = (textName? (n.child name)).map Value.str :=
    fun name => identifierName?_eq fun c hc =>
      htexts c (mem_preorder_of_child (mem_children_of_child hc) (mem_preorder_self c))
  have hheritage : ∀ name, heritageNames (n.childList name) = .ok ((heritageTexts (n.childList name)).map Value.str) := by
    intro name
    refine heritageNames_eq (hclosed.childList name) fun c hc d hd => htexts d ?_
    exact mem_preorder_of_child (mem_children_of_childList hc) (mem_preorder_of_child hd (mem_preorder_self d))
  unfold typeDecl? declaration? parentTexts
  cases n.kind.isType with
  | false => rfl
  | true =>
    rw [hname, hname, hheritage, hheritage]
    cases textName? (n.child "id") with
    | none => rfl
    | some name =>
      cases n.kind.isClass with
      | false =>
        show (distinctNames _ >>= _) = _
        rw [distinctNames_texts]
        rfl
      | true =>
        have hbase : distinctNames ((textName? (n.child "superClass")).map Value.str).toList
            = .ok ((textName? (n.child "superClass")).toList.map Value.str) := by
          cases textName? (n.child "superClass") with
          | none => rfl
          | some base => exact distinctNames_texts [base]
        show (distinctNames _ >>= _) = _
        rw [hbase]
        show (distinctNames _ >>= _) = _
        rw [← List.map_append, distinctNames_texts]
        rfl

/-- The types that a tree declares under texts. -/
def declarations (n : Node) : List (TypeDecl String) := n.preorder.filterMap declaration?

/-- The declarations of a tree. -/
theorem typeDecls_eq {n : Node} (hclosed : ∀ m ∈ n.preorder, m.IsClosed)
    (htexts : ∀ m ∈ n.preorder, m.HasTextName) :
    n.typeDecls = .ok (n.declarations.map (TypeDecl.map Value.str)) := by
  have hall : n.walk.mapM typeDecl? = .ok (n.preorder.map fun m => m.declaration?.map (TypeDecl.map Value.str)) := by
    rw [walk_eq]
    exact Outcome.mapM_eq_ok_map fun m hm => typeDecl?_eq (hclosed m hm) fun k hk => htexts k (mem_preorder_trans hm hk)
  refine Outcome.bind_eq_ok.mpr ⟨_, hall, congrArg Except.ok ?_⟩
  rw [List.filterMap_map, declarations, List.map_filterMap]
  rfl

end Node

/-! ## Merging -/

namespace Inheritance

theorem mergeDecls_texts (decls : List (TypeDecl String)) :
    mergeDecls (decls.map (TypeDecl.map Value.str)) = .ok ((merge decls).map (TypeDecl.map Value.str)) := by
  have hnames : (decls.map (TypeDecl.map Value.str)).map (·.name) = (decls.map (·.name)).map Value.str := by
    rw [List.map_map, List.map_map]
    rfl
  unfold mergeDecls
  rw [hnames, distinctNames_texts]
  show ((distinct (decls.map (·.name))).map Value.str).mapM _ = _
  rw [List.mapM_map, merge, List.map_map]
  refine Outcome.mapM_eq_ok_map fun name _ => ?_
  have hparents : ((decls.map (TypeDecl.map Value.str)).filter fun d => d.name.key? = (Value.str name).key?).flatMap
      (·.parents) = ((decls.filter fun d => d.name = name).flatMap (·.parents)).map Value.str := by
    have hsame : ((fun d : TypeDecl Value => decide (d.name.key? = (Value.str name).key?)) ∘ TypeDecl.map Value.str)
        = fun d : TypeDecl String => decide (d.name = name) := by
      funext d
      simp [TypeDecl.map, Value.key?]
    rw [List.filter_map, hsame, List.flatMap_map, List.map_flatMap]
    rfl
  show (distinctNames _ >>= _) = _
  rw [hparents, distinctNames_texts]
  rfl

variable {ν : Type} [DecidableEq ν] {decls : List (TypeDecl ν)}

/-- Merged declarations have the same edges. -/
theorem extends_merge {x y : ν} : Extends (merge decls) x y ↔ Extends decls x y := by
  unfold Extends merge
  constructor
  · rintro ⟨_, hmem, rfl, hy⟩
    obtain ⟨name, -, rfl⟩ := List.mem_map.mp hmem
    rw [mem_distinct, List.mem_flatMap] at hy
    obtain ⟨d, hd, hy⟩ := hy
    obtain ⟨hd, hname⟩ := List.mem_filter.mp hd
    exact ⟨d, hd, of_decide_eq_true hname, hy⟩
  · rintro ⟨d, hd, rfl, hy⟩
    refine ⟨_, List.mem_map_of_mem ((mem_distinct _).mpr (List.mem_map_of_mem hd)), rfl, ?_⟩
    rw [mem_distinct, List.mem_flatMap]
    exact ⟨d, List.mem_filter.mpr ⟨hd, decide_eq_true rfl⟩, hy⟩

theorem cyclic_merge : Cyclic (merge decls) ↔ Cyclic decls := cyclic_congr fun _ _ => extends_merge

theorem exists_name_merge {t : ν} : (∃ d ∈ merge decls, d.name = t) ↔ ∃ d ∈ decls, d.name = t := by
  unfold merge
  constructor
  · rintro ⟨_, hmem, rfl⟩
    obtain ⟨name, hname, rfl⟩ := List.mem_map.mp hmem
    exact List.mem_map.mp ((mem_distinct _).mp hname)
  · rintro ⟨d, hd, rfl⟩
    exact ⟨_, List.mem_map_of_mem ((mem_distinct _).mpr (List.mem_map_of_mem hd)), rfl⟩

/-! ## The greatest depth -/

/-- The greatest of some depths is zero or one of them, and none is above it. -/
theorem foldl_max_spec {α : Type} (depths : List (α × Nat)) : ∀ least : Nat,
    let greatest := depths.foldl (fun acc e => max acc e.2) least
    least ≤ greatest ∧ (∀ e ∈ depths, e.2 ≤ greatest) ∧ (greatest = least ∨ ∃ e ∈ depths, greatest = e.2) := by
  induction depths with
  | nil => exact fun least => ⟨Nat.le_refl _, nofun, .inl rfl⟩
  | cons e rest ih =>
    intro least
    obtain ⟨hleast, hall, hone⟩ := ih (max least e.2)
    rw [max_le_iff] at hleast
    refine ⟨hleast.1, List.forall_mem_cons.mpr ⟨hleast.2, hall⟩, ?_⟩
    rcases hone with hone | ⟨e', he', hone⟩
    · rcases max_choice least e.2 with hmax | hmax
      · exact .inl (hone.trans hmax)
      · exact .inr ⟨e, List.mem_cons_self, hone.trans hmax⟩
    · exact .inr ⟨e', List.mem_cons_of_mem _ he', hone⟩

/-- The greatest of the resolved depths is the depth of the graph. -/
theorem isDepth_maxDepth {decls : List (TypeDecl String)} {depths : List (Value × Nat)}
    (h : (resolveDepths (decls.map (TypeDecl.map Value.str)) none).outcome = .ok depths) (classCount : Nat) :
    IsDepth decls (Structure.maxDepth ⟨classCount, depths⟩) := by
  obtain ⟨hac, hnames, hgreatest⟩ := resolveDepths_ok h
  obtain ⟨-, hall, hone⟩ := foldl_max_spec depths 0
  refine ⟨fun hc => absurd hc hac, fun _ => ⟨?_, ?_⟩⟩
  · refine hone.imp id ?_
    rintro ⟨e, he, heq⟩
    have hname : e.1 ∈ depths.map (·.1) := List.mem_map_of_mem he
    rw [hnames, List.mem_map] at hname
    obtain ⟨t, ht, hte⟩ := hname
    obtain ⟨d, hd, rfl⟩ := List.mem_map.mp ((mem_distinct _).mp ht)
    refine ⟨d, hd, ?_⟩
    rw [show Structure.maxDepth ⟨classCount, depths⟩ = e.2 from heq]
    exact (hgreatest d.name e.2 (hte ▸ he)).1
  · rintro k (rfl | ⟨d, hd, hchain⟩)
    · exact Nat.zero_le _
    · have hname : Value.str d.name ∈ depths.map (·.1) := by
        rw [hnames]
        exact List.mem_map_of_mem ((mem_distinct _).mpr (List.mem_map_of_mem hd))
      obtain ⟨⟨name, depth⟩, he, hname⟩ := List.mem_map.mp hname
      cases hname
      exact ((hgreatest d.name depth he).2 hchain).trans (hall _ he)

end Inheritance

/-! ## Depths of a tree -/

namespace Node

open Inheritance

variable {n : Node} {decls : List (TypeDecl String)}

theorem outcome_structure (h : n.typeDecls = .ok (decls.map (TypeDecl.map Value.str))) :
    (n.structure none).outcome = (resolveDepths ((merge decls).map (TypeDecl.map Value.str)) none).outcome >>=
      fun depths => .ok ⟨n.classCount, depths⟩ := by
  simp only [Node.structure, Node.inheritanceDepths, Traced.outcome_bind, Traced.outcome_lift, Traced.outcome_pure, h]
  show (mergeDecls _ >>= _) >>= _ = _
  rw [mergeDecls_texts]
  rfl

theorem structure_of_acyclic (h : n.typeDecls = .ok (decls.map (TypeDecl.map Value.str))) (hac : ¬ Cyclic decls) :
    ∃ depths, (n.structure none).outcome = .ok ⟨n.classCount, depths⟩ ∧
      IsDepth decls (Structure.maxDepth ⟨n.classCount, depths⟩) := by
  obtain ⟨depths, hdepths⟩ := resolveDepths_of_acyclic fun hc => hac (cyclic_merge.mp hc)
  have hdepth := isDepth_maxDepth hdepths n.classCount
  exact ⟨depths, by rw [outcome_structure h, hdepths]; rfl,
    hdepth.congr (fun _ _ => extends_merge) fun _ => exists_name_merge⟩

theorem structure_of_cyclic (h : n.typeDecls = .ok (decls.map (TypeDecl.map Value.str))) (hc : Cyclic decls) :
    ∃ names passes, (n.structure none).outcome = .error (.problem (.inheritanceCycle names passes)) := by
  obtain ⟨names, passes, herror⟩ := resolveDepths_of_cyclic (cyclic_merge.mpr hc) none
  exact ⟨names, passes, by rw [outcome_structure h, herror]; rfl⟩

/-- A cycle ends the analysis under one policy. -/
theorem inheritance_error (h : n.typeDecls = .ok (decls.map (TypeDecl.map Value.str))) (hc : Cyclic decls) :
    ∃ names passes, (n.inheritance .fail).outcome = .error (.problem (.inheritanceCycle names passes)) := by
  obtain ⟨names, passes, herror⟩ := structure_of_cyclic h hc
  refine ⟨names, passes, ?_⟩
  unfold Node.inheritance
  simp only [herror, Traced.outcome_bind]
  rfl

/-- Otherwise there are a class count and the depth of the graph. -/
theorem inheritance_ok (h : n.typeDecls = .ok (decls.map (TypeDecl.map Value.str))) {policy : CyclePolicy}
    (hpolicy : ¬(policy = .fail ∧ Cyclic decls)) :
    ∃ depth, (n.inheritance policy).outcome = .ok (n.classCount, depth) ∧ IsDepth decls depth := by
  unfold Node.inheritance
  by_cases hc : Cyclic decls
  · obtain ⟨names, passes, herror⟩ := structure_of_cyclic h hc
    cases policy with
    | fail => exact absurd ⟨rfl, hc⟩ hpolicy
    | zero =>
      refine ⟨0, ?_, fun _ => rfl, fun hac => absurd hc hac⟩
      simp only [herror]
  · obtain ⟨depths, hdepths, hdepth⟩ := structure_of_acyclic h hc
    refine ⟨Structure.maxDepth ⟨n.classCount, depths⟩, ?_, hdepth⟩
    simp only [hdepths, Traced.outcome_bind]
    rfl

/-- Two trees end in cycles alike, and otherwise have the same depth. -/
def SameInheritance (policy : CyclePolicy) (n n' : Node) : Prop :=
  (policy = .fail ∧ (∃ names passes, (n.inheritance policy).outcome = .error (.problem (.inheritanceCycle names passes))) ∧
    ∃ names passes, (n'.inheritance policy).outcome = .error (.problem (.inheritanceCycle names passes))) ∨
  ∃ depth, (n.inheritance policy).outcome = .ok (n.classCount, depth) ∧
    (n'.inheritance policy).outcome = .ok (n'.classCount, depth)

/-- Graphs with cycles alike and of the same depth. -/
theorem sameInheritance_of_isDepth {n' : Node} {decls' : List (TypeDecl String)}
    (h : n.typeDecls = .ok (decls.map (TypeDecl.map Value.str)))
    (h' : n'.typeDecls = .ok (decls'.map (TypeDecl.map Value.str))) (hcyclic : Cyclic decls' ↔ Cyclic decls)
    (hsame : ∀ depth, IsDepth decls depth → IsDepth decls' depth) (policy : CyclePolicy) :
    SameInheritance policy n n' := by
  by_cases hcycle : policy = .fail ∧ Cyclic decls
  · obtain ⟨rfl, hc⟩ := hcycle
    exact .inl ⟨rfl, inheritance_error h hc, inheritance_error h' (hcyclic.mpr hc)⟩
  · obtain ⟨depth, hdepth, hchains⟩ := inheritance_ok h hcycle
    obtain ⟨depth', hdepth', hchains'⟩ := inheritance_ok h' fun hc => hcycle ⟨hc.1, hcyclic.mp hc.2⟩
    rw [hchains'.unique (hsame depth hchains)] at hdepth'
    exact .inr ⟨depth, hdepth, hdepth'⟩

end Node

end CodeMetrics
