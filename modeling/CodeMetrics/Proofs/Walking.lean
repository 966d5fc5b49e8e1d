import CodeMetrics.Proofs.Distinct
import CodeMetrics.Syntax.Walk
import Mathlib.Data.List.Lex
import Mathlib.Logic.Function.Iterate

/-!
# Walking with a stack

A walk takes the first node off a stack, visits it and puts its children in its place. What is still to come is at any
time the sequences of the nodes on the stack, one after the other, and each turn takes the first node off it.

Nodes may stand in several places of a tree. A place is the way down to it, a row of numbers of children, and `places`
lists all of them. They are in lexical order, so that a place comes before those below it, and those below it come
before all that follow it.

* `Walk.visited_iterate_turn`, `Walk.toCome_iterate_turn` — a walk after any number of turns
* `mem_places_iff`, `pairwise_places`, `map_at?_places` — the places of a tree
* `exists_block` — what is below a place stands together
* `walk_visits_places` — what this means for the walk
-/

namespace CodeMetrics

/-- What a walk has visited, the last node first, and the stack of nodes that it goes on with. -/
structure Walk where
  visited : List Node
  stack : List Node

namespace Walk

/-- A walk from a node. -/
def start (n : Node) : Walk := ⟨[], [n]⟩

/-- The first node on the stack is visited, and its children take its place. Nothing happens to an empty stack. -/
def turn : Walk → Walk
  | ⟨visited, []⟩ => ⟨visited, []⟩
  | ⟨visited, n :: rest⟩ => ⟨n :: visited, n.children ++ rest⟩

/-- The nodes that are still to come, in their order. -/
def toCome (w : Walk) : List Node := w.stack.flatMap Node.preorder

theorem walkOnto_turn (w : Walk) : Node.walkOnto w.turn.visited w.turn.stack = Node.walkOnto w.visited w.stack := by
  obtain ⟨visited, stack⟩ := w
  cases stack with
  | nil => rfl
  | cons n rest => rw [turn, Node.walkOnto]

/-- A turn visits the first of the nodes that are still to come. -/
theorem turn_spec (w : Walk) : w.turn.visited.reverse = w.visited.reverse ++ w.toCome.take 1 ∧
    w.turn.toCome = w.toCome.drop 1 := by
  obtain ⟨visited, stack⟩ := w
  cases stack with
  | nil => simp [turn, toCome]
  | cons n rest =>
    have hcome : toCome ⟨visited, n :: rest⟩ = n :: (n.children ++ rest).flatMap Node.preorder := by
      rw [toCome, List.flatMap_cons, Node.preorder_eq, List.flatMap_append, List.cons_append]
    rw [hcome]
    exact ⟨List.reverse_cons, rfl⟩

theorem toCome_iterate_turn (w : Walk) (turns : ℕ) : (turn^[turns] w).toCome = w.toCome.drop turns := by
  induction turns with
  | zero => rfl
  | succ turns ih => rw [Function.iterate_succ_apply', (turn_spec _).2, ih, List.drop_drop]

theorem visited_iterate_turn (w : Walk) (turns : ℕ) :
    (turn^[turns] w).visited.reverse = w.visited.reverse ++ w.toCome.take turns := by
  induction turns with
  | zero => simp
  | succ turns ih =>
    rw [Function.iterate_succ_apply', (turn_spec _).1, ih, toCome_iterate_turn, List.append_assoc, List.take_add]

theorem walkOnto_iterate_turn (w : Walk) (turns : ℕ) :
    Node.walkOnto (turn^[turns] w).visited (turn^[turns] w).stack = Node.walkOnto w.visited w.stack := by
  induction turns with
  | zero => rfl
  | succ turns ih => rw [Function.iterate_succ_apply', walkOnto_turn, ih]

/-- Nothing is on the stack once nothing is still to come: each node on it comes itself. -/
theorem stack_eq_nil_iff {w : Walk} : w.stack = [] ↔ w.toCome = [] := by
  rw [toCome, List.flatMap_eq_nil_iff]
  refine ⟨fun h n hn => absurd (h ▸ hn) List.not_mem_nil, fun h => List.eq_nil_iff_forall_not_mem.mpr fun n hn => ?_⟩
  have hself := Node.mem_preorder_self n
  rw [h n hn] at hself
  exact List.not_mem_nil hself

theorem toCome_start (n : Node) : (start n).toCome = n.preorder := List.flatMap_singleton ..

/-- A walk ends after as many turns as the tree has nodes, and no earlier. -/
theorem stack_iterate_turn_start (n : Node) (turns : ℕ) : (turn^[turns] (start n)).stack = [] ↔ n.size ≤ turns := by
  rw [stack_eq_nil_iff, toCome_iterate_turn, toCome_start, List.drop_eq_nil_iff, Node.length_preorder]

end Walk

namespace Node

/-! ## Places -/

/-- The node at the end of a way down, which goes from node to child by the numbers of the children. -/
def at? : Node → List ℕ → Option Node
  | n, [] => some n
  | n, i :: place => n.children[i]?.bind fun c => c.at? place

theorem at?_append {n m : Node} {place : List ℕ} (h : n.at? place = some m) (further : List ℕ) :
    n.at? (place ++ further) = m.at? further := by
  induction place generalizing n with
  | nil =>
    cases h
    rfl
  | cons i place ih =>
    obtain ⟨c, hc, hm⟩ := Option.bind_eq_some_iff.mp h
    rw [List.cons_append, at?, hc]
    exact ih hm

/-- The places of a tree: that of the node itself, and for each child those below it. -/
def places (n : Node) : List (List ℕ) :=
  [] :: n.children.attach.zipIdx.flatMap fun child => child.1.1.places.map (child.2 :: ·)
termination_by n.size
decreasing_by exact size_lt_of_mem_children child.1.2

/-- The places below a child, as they are seen from its parent. -/
def placesBelow (child : Node × ℕ) : List (List ℕ) := child.1.places.map (child.2 :: ·)

theorem places_eq (n : Node) : n.places = [] :: n.children.zipIdx.flatMap placesBelow := by
  have hchildren : n.children.zipIdx = n.children.attach.zipIdx.map fun child => (child.1.1, child.2) := by
    conv_lhs => rw [← List.attach_map_subtype_val n.children, List.zipIdx_map]
    rfl
  rw [places, hchildren, List.flatMap_map]
  rfl

theorem mem_places_iff {n : Node} {place : List ℕ} : place ∈ n.places ↔ ∃ m, n.at? place = some m := by
  induction place generalizing n with
  | nil =>
    rw [places_eq]
    exact ⟨fun _ => ⟨n, rfl⟩, fun _ => List.mem_cons_self⟩
  | cons i place ih =>
    have hbelow : i :: place ∈ n.places ↔ ∃ c, n.children[i]? = some c ∧ place ∈ c.places := by
      rw [places_eq, List.mem_cons, List.mem_flatMap]
      constructor
      · rintro (h | ⟨⟨c, j⟩, hc, h⟩)
        · cases h
        · obtain ⟨rest, hrest, heq⟩ := List.mem_map.mp h
          cases heq
          exact ⟨c, List.mem_zipIdx_iff_getElem?.mp hc, hrest⟩
      · rintro ⟨c, hc, h⟩
        exact .inr ⟨(c, i), List.mem_zipIdx_iff_getElem?.mpr hc, List.mem_map_of_mem h⟩
    simp only [hbelow, ih, at?, Option.bind_eq_some_iff]
    exact ⟨fun ⟨c, hc, m, hm⟩ => ⟨m, c, hc, hm⟩, fun ⟨m, c, hc, hm⟩ => ⟨c, hc, m, hm⟩⟩

/-- Each place is listed once, and in lexical order. -/
theorem pairwise_places (n : Node) : n.places.Pairwise (· < ·) := by
  induction n using Node.induction with
  | step n ih =>
    rw [places_eq, List.pairwise_cons, List.pairwise_flatMap]
    refine ⟨fun place hplace => ?_, fun child hchild => ?_, ?_⟩
    · obtain ⟨_, -, hplace⟩ := List.mem_flatMap.mp hplace
      obtain ⟨rest, -, rfl⟩ := List.mem_map.mp hplace
      exact List.nil_lt_cons _ _
    · rw [placesBelow, List.pairwise_map]
      exact (ih child.1 (List.fst_mem_of_mem_zipIdx hchild)).imp fun h => List.cons_lt_cons_iff.mpr (.inr ⟨rfl, h⟩)
    · -- What is below an earlier child begins with a smaller number.
      have hnumbers : (n.children.zipIdx.map Prod.snd).Pairwise (· < ·) := by
        rw [List.zipIdx_map_snd]
        exact List.pairwise_lt_range'
      refine (List.pairwise_map.mp hnumbers).imp fun hlt p hp q hq => ?_
      obtain ⟨_, -, rfl⟩ := List.mem_map.mp hp
      obtain ⟨_, -, rfl⟩ := List.mem_map.mp hq
      exact List.cons_lt_cons_iff.mpr (.inl hlt)

theorem nodup_places (n : Node) : n.places.Nodup := (pairwise_places n).imp fun h => ne_of_lt h

/-- The sequence of a tree has the node of each place, in the order of the places. -/
theorem map_at?_places (n : Node) : n.places.map n.at? = n.preorder.map some := by
  induction n using Node.induction with
  | step n ih =>
    have hbelow : (n.children.zipIdx.flatMap placesBelow).map n.at?
        = n.children.flatMap fun c => c.preorder.map some := by
      have hchildren : n.children = n.children.zipIdx.map Prod.fst := (List.zipIdx_map_fst 0 _).symm
      conv_rhs => rw [hchildren]
      rw [List.map_flatMap, List.flatMap_map]
      refine List.flatMap_congr fun (c, i) hc => ?_
      rw [placesBelow, List.map_map, ← ih c (List.fst_mem_of_mem_zipIdx hc)]
      refine List.map_congr_left fun place _ => ?_
      show n.at? (i :: place) = c.at? place
      rw [at?, List.mem_zipIdx_iff_getElem?.mp hc]
      rfl
    rw [places_eq, preorder_eq, List.map_cons, List.map_cons, hbelow, List.map_flatMap]
    rfl

theorem length_places (n : Node) : n.places.length = n.size := by
  have hlength := congrArg List.length (map_at?_places n)
  rwa [List.length_map, List.length_map, length_preorder] at hlength

/-! ## Blocks -/

/-- The places below a place stand together. -/
theorem exists_block {n m : Node} {place : List ℕ} (h : n.at? place = some m) :
    ∃ before after, n.places = before ++ m.places.map (place ++ ·) ++ after := by
  induction place generalizing n with
  | nil =>
    cases h
    exact ⟨[], [], by simp⟩
  | cons i place ih =>
    obtain ⟨c, hc, hm⟩ := Option.bind_eq_some_iff.mp h
    obtain ⟨before, after, hblock⟩ := ih hm
    have hmem : (c, i) ∈ n.children.zipIdx := List.mem_zipIdx_iff_getElem?.mpr hc
    obtain ⟨front, back, hsplit⟩ := List.append_of_mem hmem
    refine ⟨[] :: front.flatMap placesBelow ++ before.map (i :: ·), after.map (i :: ·) ++ back.flatMap placesBelow, ?_⟩
    rw [places_eq, hsplit, List.flatMap_append, List.flatMap_cons, placesBelow, hblock]
    simp [Function.comp_def]

section Below

variable {n m : Node} {i : ℕ} {place : List ℕ} (hi : n.places[i]? = some place) (hm : n.at? place = some m)

include hi hm

/-- The block of a place begins where the place is listed. -/
theorem exists_block_at :
    ∃ before after, n.places = before ++ m.places.map (place ++ ·) ++ after ∧ before.length = i := by
  obtain ⟨before, after, hblock⟩ := exists_block hm
  refine ⟨before, after, hblock, ?_⟩
  have hfirst : n.places[before.length]? = some place := by
    rw [hblock, places_eq m]
    simp
  have hlt : before.length < n.places.length := (List.getElem?_eq_some_iff.mp hfirst).1
  exact (List.getElem?_inj hlt (nodup_places n)).mp (hfirst.trans hi.symm)

/-- A place is below another one if it is listed in its block. -/
theorem isPrefix_iff {j : ℕ} {other : List ℕ} (hj : n.places[j]? = some other) :
    place <+: other ↔ i ≤ j ∧ j < i + m.size := by
  obtain ⟨before, after, hblock, rfl⟩ := exists_block_at hi hm
  have hin : ∀ k further, m.places[k]? = some further → n.places[before.length + k]? = some (place ++ further) := by
    intro k further hk
    have hlt : k < (m.places.map (place ++ ·)).length := by
      rw [List.length_map]
      exact (List.getElem?_eq_some_iff.mp hk).1
    rw [hblock, List.append_assoc, List.getElem?_append_right (Nat.le_add_right _ _), Nat.add_sub_cancel_left,
      List.getElem?_append_left hlt, List.getElem?_map, hk]
    rfl
  constructor
  · rintro ⟨further, rfl⟩
    obtain ⟨d, hd⟩ := mem_places_iff.mp (List.mem_of_getElem? hj)
    rw [at?_append hm] at hd
    obtain ⟨k, hk⟩ := List.mem_iff_getElem?.mp (mem_places_iff.mpr ⟨d, hd⟩)
    have hlt := (List.getElem?_eq_some_iff.mp hj).1
    have hsame : j = before.length + k :=
      (List.getElem?_inj hlt (nodup_places n)).mp (hj.trans (hin k further hk).symm)
    have hsize := (List.getElem?_eq_some_iff.mp hk).1
    rw [length_places] at hsize
    omega
  · rintro ⟨hlow, hhigh⟩
    obtain ⟨k, rfl⟩ := Nat.exists_eq_add_of_le hlow
    have hlt : k < m.places.length := by
      rw [length_places]
      omega
    have hk := hin k _ (List.getElem?_eq_getElem hlt)
    rw [hj, Option.some_inj] at hk
    exact ⟨_, hk.symm⟩

/-- The sequence of a node stands in that of the tree as one block. -/
theorem exists_preorder_block :
    ∃ before after, n.preorder = before ++ m.preorder ++ after ∧ before.length = i := by
  obtain ⟨before, after, hblock, rfl⟩ := exists_block_at hi hm
  have hsame : (m.places.map (place ++ ·)).map n.at? = m.preorder.map some := by
    rw [← map_at?_places, List.map_map]
    exact List.map_congr_left fun further _ => at?_append hm further
  have hnodes : n.preorder.map some = before.map n.at? ++ m.preorder.map some ++ after.map n.at? := by
    rw [← map_at?_places, hblock, List.map_append, List.map_append, hsame]
  obtain ⟨front, back, hsplit, hfront, -⟩ := List.map_eq_append_iff.mp hnodes
  obtain ⟨first, block, rfl, hfirst, hmiddle⟩ := List.map_eq_append_iff.mp hfront
  have hequal : block = m.preorder := List.map_injective_iff.mpr (fun _ _ => Option.some.inj) hmiddle
  have hlength := congrArg List.length hfirst
  rw [List.length_map, List.length_map] at hlength
  exact ⟨first, back, hequal ▸ hsplit, hlength⟩

end Below

/-! ## The walk -/

/-- The walk from a node goes on with the walks from its children, slot by slot. -/
theorem walk_eq_cons (n : Node) : n.walk = n :: n.fields.flatMap fun field => field.2.nodes.flatMap walk := by
  have hsame : walk = preorder := funext walk_eq
  rw [walk_eq, preorder_eq, children, hsame, List.flatMap_assoc]

/-- **A walk with a stack visits every place of a tree once, in preorder.** After any number of turns it has visited as
many nodes of the recursive sequence, and the sequences of the nodes on the stack are what is left of it; the stack is
empty after as many turns as there are nodes, and not before. The walk from a node is the node, and then the walks from
its children, slot by slot and item by item. So it has one node for each place where a node stands, however often that
is, and goes from place to place in lexical order: a node comes before those below it, and these come right after it,
as the walk from that node by itself, before all others. -/
theorem walk_visits_places (n : Node) :
    (∀ turns, let w := Walk.turn^[turns] (Walk.start n)
      w.visited.reverse = n.preorder.take turns ∧ w.stack.flatMap preorder = n.preorder.drop turns ∧
      walkOnto w.visited w.stack = n.walk ∧ (w.stack = [] ↔ n.size ≤ turns)) ∧
    n.walk = n.preorder ∧
    (n.walk = n :: n.fields.flatMap fun field => field.2.nodes.flatMap walk) ∧
    (∀ place, place ∈ n.places ↔ ∃ m, n.at? place = some m) ∧ n.places.Pairwise (· < ·) ∧
    n.walk.map some = n.places.map n.at? ∧
    ∀ (i : ℕ) (place : List ℕ) (m : Node), n.places[i]? = some place → n.at? place = some m →
      (∃ before after, n.walk = before ++ m.walk ++ after ∧ before.length = i) ∧
      (∀ j other, n.places[j]? = some other → (place <+: other ↔ i ≤ j ∧ j < i + m.size)) ∧
      ∀ j further, n.places[j]? = some (place ++ further) → further ≠ [] → i < j := by
  refine ⟨fun turns => ⟨?_, ?_, ?_, ?_⟩, walk_eq n, walk_eq_cons n, fun _ => mem_places_iff, pairwise_places n, ?_,
    fun i place m hi hm => ⟨?_, fun j other => isPrefix_iff hi hm, fun j further hj hne => ?_⟩⟩
  · rw [Walk.visited_iterate_turn, Walk.toCome_start]
    rfl
  · exact (Walk.toCome_iterate_turn _ turns).trans (congrArg _ (Walk.toCome_start n))
  · exact Walk.walkOnto_iterate_turn _ turns
  · exact Walk.stack_iterate_turn_start n turns
  · rw [walk_eq, map_at?_places]
  · simp only [walk_eq]
    exact exists_preorder_block hi hm
  · have hle := ((isPrefix_iff hi hm hj).mp (List.prefix_append _ _)).1
    refine lt_of_le_of_ne hle fun hsame => hne ?_
    rw [← hsame, hi, Option.some_inj] at hj
    exact List.append_right_eq_self.mp hj.symm

/-- A node that stands in a slot and in a list behind a hole is visited twice. -/
example :
    let leaf : Node := ⟨2, .literal, "Literal", none, [], []⟩
    let root : Node :=
      ⟨1, .program, "Program", none, [("a", .one leaf), ("b", .absent), ("c", .many [none, some leaf])], []⟩
    root.walk.map id = [1, 2, 2] ∧ root.walk.map some = [[], [0], [1]].map root.at? := by
  simp only [walk_eq]
  exact ⟨rfl, rfl⟩

end Node

end CodeMetrics
