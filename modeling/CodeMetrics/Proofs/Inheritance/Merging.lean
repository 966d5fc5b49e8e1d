import CodeMetrics.Proofs.Inheritance.Congruence
import CodeMetrics.Proofs.Inheritance.Trees
import Mathlib.Tactic.Tauto

/-!
# Declarations put together

The graph of declarations is the same in another order, with a declaration split or repeated, and with all declarations of
one name put together. Merging keeps the order of names as well (`names_merged`), so that not even the order of the
depths changes (`resolveDepths_merged`).

* `byKey_merged` — merged declarations, by keys
* `resolveDepths_mergeDecls` — their depths
* `depths_of_same_graph` — all lists of the same graph, and trees
-/

namespace CodeMetrics.Inheritance

section Values

open Value (Key)

variable {decls merged : List (TypeDecl Value)}

/-! ## Merged declarations -/

/-- Merged declarations are those of the names without repetition. -/
theorem mergeDecls_eq_ok : mergeDecls decls = .ok merged ↔ ∃ names, distinctNames (decls.map (·.name)) = .ok names ∧
    List.Forall₂ (fun (name : Value) (d : TypeDecl Value) => d.name = name ∧
      distinctNames ((decls.filter fun d => d.name.key? = name.key?).flatMap (·.parents)) = .ok d.parents)
      names merged := by
  have hstep : ∀ (name : Value) (d : TypeDecl Value),
      ((do return ⟨name, ← distinctNames ((decls.filter fun d => d.name.key? = name.key?).flatMap (·.parents))⟩ :
          Except Error (TypeDecl Value)) = .ok d) ↔ d.name = name ∧
        distinctNames ((decls.filter fun d => d.name.key? = name.key?).flatMap (·.parents)) = .ok d.parents := by
    intro name d
    rw [Outcome.bind_eq_ok]
    constructor
    · rintro ⟨parents, hparents, ⟨⟩⟩
      exact ⟨rfl, hparents⟩
    · rintro ⟨rfl, hparents⟩
      exact ⟨d.parents, hparents, rfl⟩
  unfold mergeDecls
  simp only [Outcome.bind_eq_ok, Outcome.mapM_eq_ok, hstep]

/-- Merged declarations are named as the names that come first. -/
theorem names_merged (h : mergeDecls decls = .ok merged) :
    distinctNames (decls.map (·.name)) = .ok (merged.map (·.name)) := by
  obtain ⟨names, hnames, hall⟩ := mergeDecls_eq_ok.mp h
  have hsame : merged.map (·.name) = names := by
    rw [← List.forall₂_eq_eq_eq, List.forall₂_map_left_iff]
    exact hall.flip.imp fun _ _ hd => hd.1
  rw [hsame, hnames]

/-- Merging by name is merging by key. -/
theorem byKey_merged (h : mergeDecls decls = .ok merged) : byKey merged = merge (byKey decls) := by
  obtain ⟨names, hnames, hall⟩ := mergeDecls_eq_ok.mp h
  have hkeys : distinct ((byKey decls).map (·.name)) = names.map Value.key? := by
    rw [(distinctNames_ok hnames).1, byKey, List.map_map, List.map_map]
    rfl
  have hparents : ∀ k : Option Key, ((byKey decls).filter fun d => d.name = k).flatMap (·.parents)
      = ((decls.filter fun d => d.name.key? = k).flatMap (·.parents)).map Value.key? := by
    intro k
    rw [byKey, List.filter_map, List.flatMap_map, List.map_flatMap]
    rfl
  rw [merge, hkeys, byKey, ← List.forall₂_eq_eq_eq, List.forall₂_map_left_iff, List.map_map, List.forall₂_map_right_iff]
  refine hall.flip.imp fun d name hd => ?_
  rw [Function.comp_apply, hparents, ← (distinctNames_ok hd.2).1, TypeDecl.map, hd.1]

/-- Merging does not depend on names. -/
theorem merge_map {ν μ : Type} [DecidableEq ν] [DecidableEq μ] {f : ν → μ} (hf : Function.Injective f)
    (decls : List (TypeDecl ν)) : merge (decls.map (TypeDecl.map f)) = (merge decls).map (TypeDecl.map f) := by
  have hnames : (decls.map (TypeDecl.map f)).map (·.name) = (decls.map (·.name)).map f := by
    rw [List.map_map, List.map_map]
    rfl
  have hparents : ∀ n, ((decls.map (TypeDecl.map f)).filter fun d => d.name = f n).flatMap (·.parents)
      = ((decls.filter fun d => d.name = n).flatMap (·.parents)).map f := by
    intro n
    rw [List.filter_map, List.flatMap_map, List.map_flatMap]
    simp only [Function.comp_def, TypeDecl.map, hf.eq_iff]
  rw [merge, merge, hnames, distinct_map hf, List.map_map, List.map_map]
  refine List.map_congr_left fun n _ => ?_
  rw [Function.comp_apply, Function.comp_apply, hparents, distinct_map hf, TypeDecl.map]

theorem sameGraph_merge {ν : Type} [DecidableEq ν] (decls : List (TypeDecl ν)) : SameGraph decls (merge decls) :=
  ⟨fun _ => exists_name_merge.symm, fun _ _ => extends_merge.symm⟩

/-- Names can be merged exactly if all have keys. -/
theorem exists_mergeDecls_iff : (∃ merged, mergeDecls decls = .ok merged) ↔
    ∃ keyed, decls.mapM TypeDecl.keyed = .ok keyed := by
  rw [exists_mapM_keyed_iff]
  constructor
  · rintro ⟨merged, hmerged⟩ d hd
    obtain ⟨names, hnames, hall⟩ := mergeDecls_eq_ok.mp hmerged
    have hname := exists_distinctNames_iff.mp ⟨names, hnames⟩ d.name (List.mem_map_of_mem hd)
    refine ⟨hname, fun v hv => ?_⟩
    -- The parents of a declaration are merged under its key.
    have hkey : d.name.key? ∈ names.map Value.key? := by
      rw [(distinctNames_ok hnames).1, mem_distinct]
      exact List.mem_map_of_mem (List.mem_map_of_mem hd)
    obtain ⟨name, hmem, hsame⟩ := List.mem_map.mp hkey
    obtain ⟨e, -, -, hparents⟩ := Outcome.exists_of_forall₂_left hall hmem
    refine exists_distinctNames_iff.mp ⟨_, hparents⟩ v (List.mem_flatMap.mpr ⟨d, List.mem_filter.mpr ⟨hd, ?_⟩, hv⟩)
    exact decide_eq_true hsame.symm
  · intro h
    obtain ⟨names, hnames⟩ := exists_distinctNames_iff.mpr fun v hv => by
      obtain ⟨d, hd, rfl⟩ := List.mem_map.mp hv
      exact (h d hd).1
    unfold mergeDecls
    rw [Outcome.exists_bind_eq_ok]
    refine ⟨names, hnames, Outcome.exists_mapM_iff.mpr fun name _ => ?_⟩
    obtain ⟨parents, hparents⟩ := (@exists_distinctNames_iff
      ((decls.filter fun d => d.name.key? = name.key?).flatMap (·.parents))).mpr fun v hv => by
        obtain ⟨d, hd, hv⟩ := List.mem_flatMap.mp hv
        exact (h d (List.mem_filter.mp hd).1).2 v hv
    exact ⟨_, Outcome.bind_eq_ok.mpr ⟨parents, hparents, rfl⟩⟩

theorem endsIn_mergeDecls (decls : List (TypeDecl Value)) : Outcome.EndsIn (.mismatch .unhashable) (mergeDecls decls) :=
  (endsIn_distinctNames _).bind fun _ => .mapM fun _ _ => (endsIn_distinctNames _).bind fun _ => .inl ⟨_, rfl⟩

theorem distinct_of_nodup {α : Type} [DecidableEq α] {l : List α} (h : l.Nodup) : distinct l = l := by
  induction l with
  | nil => rfl
  | cons a rest ih =>
    obtain ⟨ha, hrest⟩ := List.nodup_cons.mp h
    rw [distinct, ih hrest, List.filter_eq_self.mpr fun b hb => decide_eq_true (ne_of_mem_of_not_mem hb ha)]

/-- A key stands for the same name before and after merging. -/
theorem declaredName_merged (h : mergeDecls decls = .ok merged) (k : Key) :
    declaredName merged k = declaredName decls k := by
  obtain ⟨hkeys, hfirst⟩ := distinctNames_ok (names_merged h)
  rw [declaredName_eq, declaredName_eq]
  cases hfind : (merged.map (·.name)).find? fun v => v.key? = some k with
  | some v =>
    have hkey : v.key? = some k := by simpa using List.find?_some hfind
    have hname := hfirst v (List.mem_of_find?_eq_some hfind)
    rw [hkey] at hname
    rw [hname]
  | none =>
    have hnone : some k ∉ (merged.map (·.name)).map Value.key? := by
      rintro hmem
      obtain ⟨v, hv, hkey⟩ := List.mem_map.mp hmem
      simpa [hkey] using List.find?_eq_none.mp hfind v hv
    rw [hkeys, mem_distinct] at hnone
    have hnone' : ((decls.map (·.name)).find? fun v => v.key? = some k) = none := by
      refine List.find?_eq_none.mpr fun v hv hkey => hnone ?_
      rw [← of_decide_eq_true hkey]
      exact List.mem_map_of_mem hv
    rw [hnone']

/-- **Merging changes nothing**, not even the order of the names. -/
theorem resolveDepths_merged (h : mergeDecls decls = .ok merged) (hplaces : AllHavePlaces decls) (limit : Option Int) :
    resolveDepths merged limit = resolveDepths decls limit := by
  obtain ⟨keyed, hkeyed⟩ := exists_mergeDecls_iff.mp ⟨merged, h⟩
  have hbyKey : byKey merged = (merge keyed).map (TypeDecl.map some) := by
    rw [byKey_merged h, mapM_keyed_eq_ok.mp hkeyed, merge_map (Option.some_injective _)]
  have hkeyed' := mapM_keyed_eq_ok.mpr hbyKey
  rcases resolveDepths_cases hkeyed hkeyed' (sameGraph_merge keyed) hplaces limit with ⟨e, hrun, hrun'⟩ |
    ⟨r, r', hsame, hrun, hrun'⟩
  · rw [hrun, hrun']
  · have hnames : distinct ((merge keyed).map (·.name)) = distinct (keyed.map (·.name)) := by
      rw [merge, List.map_map]
      exact (congrArg distinct (List.map_id' _)).trans (distinct_of_nodup (nodup_distinct _))
    have hnd : r.depths.names.Nodup := hsame.names_eq ▸ nodup_distinct _
    have hnd' : r'.depths.names.Nodup := hsame.names_eq' ▸ nodup_distinct _
    have hdepths : r.depths = r'.depths := by
      rw [Depths.eq_map_names hnd, Depths.eq_map_names hnd', hsame.names_eq, hsame.names_eq', hnames]
      simp only [hsame.find_eq]
    rw [hrun, hrun', hdepths, hsame.passes_eq]
    simp only [named, declaredName_merged h]

/-! ## Other lists of the same graph -/

theorem sameGraph_of_perm {ν : Type} {decls others : List (TypeDecl ν)} (h : decls.Perm others) : SameGraph decls others :=
  ⟨fun _ => by simp only [h.mem_iff], fun _ _ => by simp only [Extends, h.mem_iff]⟩

theorem sameGraph_split {ν : Type} (name : ν) (parents more : List ν) (rest : List (TypeDecl ν)) :
    SameGraph (⟨name, parents ++ more⟩ :: rest) (⟨name, parents⟩ :: ⟨name, more⟩ :: rest) := by
  constructor
  · intro t
    simp
  · intro a b
    simp only [Extends, List.exists_mem_cons_iff, List.mem_append]
    tauto

theorem sameGraph_repeat {ν : Type} {d : TypeDecl ν} {rest : List (TypeDecl ν)} (h : d ∈ rest) :
    SameGraph (d :: rest) rest := by
  have hmem : ∀ e, e ∈ d :: rest ↔ e ∈ rest := fun e => by
    rw [List.mem_cons, or_iff_right_of_imp]
    rintro rfl
    exact h
  exact ⟨fun _ => by simp only [hmem], fun _ _ => by simp only [Extends, hmem]⟩

end Values

section Result

variable {n : Node} {limit : Option Int}

/-- Declarations are resolved alike before and after they have been put together, and refused alike. -/
theorem resolveDepths_mergeDecls {decls : List (TypeDecl Value)} (hplaces : AllHavePlaces decls) :
    (Traced.lift (mergeDecls decls) >>= (resolveDepths · limit)) = resolveDepths decls limit := by
  rcases (endsIn_mergeDecls decls).both (endsIn_mapM_keyed decls) exists_mergeDecls_iff with
    ⟨merged, -, hmerged, -⟩ | ⟨hmerged, hkeyed⟩
  · rw [hmerged, ← resolveDepths_merged hmerged hplaces]
    rfl
  · rw [hmerged, resolveDepths_of_unhashable hkeyed]
    rfl

/-- The depths of a tree are those of its declarations. -/
theorem inheritanceDepths_eq (hplaces : ∀ decls, n.typeDecls = .ok decls → AllHavePlaces decls) :
    n.inheritanceDepths limit = Traced.lift n.typeDecls >>= (resolveDepths · limit) := by
  unfold Node.inheritanceDepths
  cases hdecls : n.typeDecls with
  | error e => rfl
  | ok decls => exact resolveDepths_mergeDecls (hplaces decls hdecls)

end Result

/-- **Depths go by names and by pairs of a name and a parent.** Lists of declarations with the same ones have the same depth
for every name after as many passes, whatever the limit, or fail with the same error. Among these lists are those in
another order, with a declaration split or repeated, and with all declarations of a name put together; the last keeps
the order of names as well. So the depths of a tree are those of its declarations as they stand. -/
theorem depths_of_same_graph (limit : Option Int) :
    (∀ decls others : List (TypeDecl Value), AllHavePlaces decls → SameGraph (byKey decls) (byKey others) →
      SameDepths (resolveDepths decls limit) (resolveDepths others limit)) ∧
    (∀ decls others : List (TypeDecl Value), decls.Perm others → SameGraph (byKey decls) (byKey others)) ∧
    (∀ (name : Value) (parents more : List Value) (rest : List (TypeDecl Value)),
      SameGraph (byKey (⟨name, parents ++ more⟩ :: rest)) (byKey (⟨name, parents⟩ :: ⟨name, more⟩ :: rest))) ∧
    (∀ (decls : List (TypeDecl Value)), ∀ d ∈ decls, SameGraph (byKey (d :: decls)) (byKey decls)) ∧
    (∀ decls : List (TypeDecl Value),
      (∀ merged, mergeDecls decls = .ok merged → SameGraph (byKey decls) (byKey merged) ∧
        merged.map (·.name.key?) = distinct (decls.map (·.name.key?))) ∧
      (AllHavePlaces decls →
        (Traced.lift (mergeDecls decls) >>= (resolveDepths · limit)) = resolveDepths decls limit)) ∧
    ∀ n : Node, (∀ decls, n.typeDecls = .ok decls → AllHavePlaces decls) →
      let resolved := Traced.lift n.typeDecls >>= (resolveDepths · limit)
      n.inheritanceDepths limit = resolved ∧
        n.structure limit = resolved >>= fun depths => return ⟨n.classCount, depths⟩ := by
  refine ⟨fun decls others hplaces hgraph => resolveDepths_congr hgraph hplaces limit,
    fun decls others hperm => sameGraph_of_perm (hperm.map _), fun name parents more rest => ?_,
    fun decls d hd => sameGraph_repeat (List.mem_map_of_mem hd),
    fun decls => ⟨fun merged hmerged => ⟨?_, ?_⟩, resolveDepths_mergeDecls⟩, fun n hplaces => ?_⟩
  · have hsplit := sameGraph_split name.key? (parents.map Value.key?) (more.map Value.key?) (byKey rest)
    rw [← List.map_append] at hsplit
    exact hsplit
  · rw [byKey_merged hmerged]
    exact sameGraph_merge _
  · have hnames := (distinctNames_ok (names_merged hmerged)).1
    rw [List.map_map, List.map_map] at hnames
    exact hnames
  · have hdepths := @inheritanceDepths_eq n limit hplaces
    refine ⟨hdepths, ?_⟩
    rw [Node.structure, hdepths]

/-- An interface that is declared in two places. -/
def openInterface : List (TypeDecl Value) :=
  [⟨.str "View", [.str "Base"]⟩, ⟨.str "Base", []⟩, ⟨.str "View", [.str "Source"]⟩]

def closedInterface : List (TypeDecl Value) := [⟨.str "View", [.str "Base", .str "Source"]⟩, ⟨.str "Base", []⟩]

/-- The tree in which it stands. -/
def interfaceTree : Node :=
  let named (id : Nat) (name : String) : Slot Node :=
    .one ⟨id, .identifier, "Identifier", none, [], [("name", .str name)]⟩
  let clause (id : Nat) (name : String) : Option Node :=
    some ⟨id, .tsInterfaceHeritage, "TSInterfaceHeritage", none, [("expression", named (id + 1) name)], []⟩
  let interface (id : Nat) (name : String) (parents : List (Option Node)) : Option Node :=
    some ⟨id, .tsInterfaceDeclaration, "TSInterfaceDeclaration", none,
      [("id", named (id + 1) name), ("extends", .many parents)], []⟩
  ⟨1, .program, "Program", none,
    [("body", .many [interface 2 "View" [clause 4 "Base"], interface 6 "Base" [], interface 8 "View" [clause 10 "Source"]])],
    []⟩

theorem depths_of_openInterface : AllHavePlaces openInterface ∧ mergeDecls openInterface = .ok closedInterface ∧
    SameDepths (resolveDepths openInterface (some 1)) (resolveDepths closedInterface (some 1)) ∧
    interfaceTree.typeDecls = .ok openInterface ∧
    interfaceTree.inheritanceDepths none = resolveDepths openInterface none := by
  have hplaces : AllHavePlaces openInterface := by
    intro k hk
    simp [mem_mentioned, byKey, openInterface, TypeDecl.map, Value.key?] at hk
    rcases hk with (rfl | rfl) | rfl | rfl | rfl <;> rfl
  have hmerge : mergeDecls openInterface = .ok closedInterface := rfl
  have hdecls : interfaceTree.typeDecls = .ok openInterface := by
    rw [Node.typeDecls, Node.walk_eq]
    rfl
  obtain ⟨hsame, -, -, -, hmerged, -⟩ := depths_of_same_graph (some 1)
  obtain ⟨-, -, -, -, -, htree⟩ := depths_of_same_graph none
  refine ⟨hplaces, hmerge, hsame _ _ hplaces ((hmerged _).1 _ hmerge).1, hdecls, ?_⟩
  rw [(htree interfaceTree fun decls h => Except.ok.inj (hdecls.symm.trans h) ▸ hplaces).1, hdecls]
  rfl

end CodeMetrics.Inheritance
