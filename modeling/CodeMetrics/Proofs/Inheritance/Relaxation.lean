import CodeMetrics.Proofs.Inheritance.Chains

/-!
# Relaxation of depths

What relaxing one edge does to the depths, and from it what a pass over all edges does. Depths are looked at as a
function of names, `Depths.find`.

* `Pass.find_relax` — an edge raises its child above its parent and leaves all other names alone
* `succ_find_le_foldl_relax` — a pass lifts every child above the depth its parent had before
* `quiet_of_changed_eq_nil`, `changed_eq_nil_of_quiet` — a pass notes nothing exactly when no edge asks for more
-/

namespace CodeMetrics.Inheritance

variable {ν : Type}

/-! ## Depths by name -/

/-- The names that have an entry. -/
def Depths.names (depths : Depths ν) : List ν := depths.map (·.1)

/-- The children of all edges have entries. -/
def Covers (depths : Depths ν) (edges : List (ν × ν)) : Prop := ∀ e ∈ edges, e.1 ∈ depths.names

theorem Covers.head {depths : Depths ν} {child parent : ν} {edges : List (ν × ν)}
    (h : Covers depths ((child, parent) :: edges)) : child ∈ depths.names := h _ List.mem_cons_self

theorem Covers.tail {depths : Depths ν} {e : ν × ν} {edges : List (ν × ν)} (h : Covers depths (e :: edges)) :
    Covers depths edges := fun e' he' => h e' (List.mem_cons_of_mem _ he')

theorem Covers.congr {d d' : Depths ν} {edges : List (ν × ν)} (h : Covers d edges) (hn : d'.names = d.names) :
    Covers d' edges := fun e he => hn ▸ h e he

variable [DecidableEq ν]

theorem Depths.names_set (depths : Depths ν) (name : ν) (depth : Nat) :
    (depths.set name depth).names = depths.names := by
  induction depths with
  | nil => rfl
  | cons entry rest ih =>
    obtain ⟨n, d⟩ := entry
    simp only [Depths.names, Depths.set, List.map_cons] at ih ⊢
    rw [ih]
    by_cases h : n = name <;> simp [h]

theorem Depths.find_set_of_ne (depths : Depths ν) {name x : ν} (hx : x ≠ name) (depth : Nat) :
    (depths.set name depth).find x = depths.find x := by
  induction depths with
  | nil => rfl
  | cons entry rest ih =>
    obtain ⟨n, d⟩ := entry
    by_cases hn : n = name
    · subst hn
      simpa [Depths.set, Depths.find, Ne.symm hx] using ih
    · by_cases hnx : n = x
      · simp [Depths.set, Depths.find, hnx, hx]
      · simpa [Depths.set, Depths.find, hn, hnx] using ih

theorem Depths.find_set_self {depths : Depths ν} {name : ν} (h : name ∈ depths.names) (depth : Nat) :
    (depths.set name depth).find name = depth := by
  induction depths with
  | nil => simp [Depths.names] at h
  | cons entry rest ih =>
    obtain ⟨n, d⟩ := entry
    by_cases hn : n = name
    · simp [Depths.set, Depths.find, hn]
    · have hmem : name ∈ Depths.names rest := by
        rcases List.mem_cons.mp h with he | hr
        · exact absurd he.symm hn
        · exact hr
      simpa [Depths.set, Depths.find, hn] using ih hmem

/-- The depth of a name is that of its entry, if names have one entry each. -/
theorem Depths.find_of_mem {depths : Depths ν} (hnd : depths.names.Nodup) {name : ν} {depth : Nat}
    (h : (name, depth) ∈ depths) : depths.find name = depth := by
  induction depths with
  | nil => simp at h
  | cons entry rest ih =>
    obtain ⟨n, d⟩ := entry
    rw [Depths.names, List.map_cons, List.nodup_cons] at hnd
    rcases List.mem_cons.mp h with he | hr
    · cases he
      simp [Depths.find]
    · have hne : n ≠ name := by
        rintro rfl
        exact hnd.1 (List.mem_map.mpr ⟨_, hr, rfl⟩)
      simpa [Depths.find, hne] using ih hnd.2 hr

/-! ## One edge -/

/-- Relaxing an edge raises the depth of the child above that of the parent and leaves all others alone. -/
theorem Pass.find_relax (pass : Pass ν) (child parent : ν) (h : child ∈ pass.depths.names) (x : ν) :
    (pass.relax (child, parent)).depths.find x =
      if x = child then max (pass.depths.find child) (pass.depths.find parent + 1) else pass.depths.find x := by
  unfold Pass.relax
  by_cases hlt : pass.depths.find child < pass.depths.find parent + 1
  · simp only [hlt, if_true]
    by_cases hx : x = child
    · subst hx
      rw [if_pos rfl, Depths.find_set_self h]
      omega
    · rw [if_neg hx, Depths.find_set_of_ne _ hx]
  · simp only [hlt, if_false]
    by_cases hx : x = child
    · subst hx
      rw [if_pos rfl]
      omega
    · rw [if_neg hx]

@[simp] theorem Pass.names_relax (pass : Pass ν) (edge : ν × ν) :
    (pass.relax edge).depths.names = pass.depths.names := by
  simp only [Pass.relax]
  split
  · exact Depths.names_set _ _ _
  · rfl

/-- A relaxation either raises the child, and notes it, or changes nothing because the edge asks for nothing. -/
theorem Pass.relax_cases (pass : Pass ν) (child parent : ν) :
    (pass.relax (child, parent)).changed = child :: pass.changed ∧
        pass.depths.find child < pass.depths.find parent + 1 ∨
      pass.relax (child, parent) = pass ∧ pass.depths.find parent + 1 ≤ pass.depths.find child := by
  unfold Pass.relax
  by_cases hlt : pass.depths.find child < pass.depths.find parent + 1
  · exact Or.inl ⟨by simp only [hlt, if_true], hlt⟩
  · exact Or.inr ⟨by simp only [hlt, if_false], by omega⟩

/-- Relaxing an edge lowers no depth. -/
theorem Pass.find_le_relax (pass : Pass ν) (child parent : ν) (h : child ∈ pass.depths.names) (x : ν) :
    pass.depths.find x ≤ (pass.relax (child, parent)).depths.find x := by
  rw [pass.find_relax child parent h]
  split
  · next hx => rw [hx]; exact le_max_left _ _
  · exact le_rfl

/-- Relaxing an edge forgets no name that is noted, and notes one if it raises its depth. -/
theorem Pass.mem_changed_relax (pass : Pass ν) (child parent : ν) (h : child ∈ pass.depths.names) (x : ν) :
    x ∈ (pass.relax (child, parent)).changed ↔
      x ∈ pass.changed ∨ pass.depths.find x < (pass.relax (child, parent)).depths.find x := by
  rcases pass.relax_cases child parent with ⟨hc, hlt⟩ | ⟨hc, -⟩
  · rw [hc, pass.find_relax child parent h, List.mem_cons, or_comm]
    refine or_congr Iff.rfl ?_
    by_cases hx : x = child
    · subst hx
      rw [if_pos rfl]
      exact iff_of_true rfl (by omega)
    · rw [if_neg hx]
      exact iff_of_false hx (lt_irrefl _)
  · rw [hc]
    exact (or_iff_left (lt_irrefl _)).symm

/-! ## One pass -/

theorem names_foldl_relax (edges : List (ν × ν)) (pass : Pass ν) :
    (edges.foldl Pass.relax pass).depths.names = pass.depths.names := by
  induction edges generalizing pass with
  | nil => rfl
  | cons e rest ih => rw [List.foldl_cons, ih, Pass.names_relax]

theorem names_onePass (edges : List (ν × ν)) (depths : Depths ν) :
    (onePass edges depths).depths.names = depths.names := names_foldl_relax edges _

/-- Depths never fall in a pass. -/
theorem find_le_foldl_relax (edges : List (ν × ν)) : ∀ (pass : Pass ν), Covers pass.depths edges → ∀ x,
    pass.depths.find x ≤ (edges.foldl Pass.relax pass).depths.find x := by
  induction edges with
  | nil => exact fun _ _ _ => le_rfl
  | cons e rest ih =>
    intro pass hc x
    obtain ⟨child, parent⟩ := e
    rw [List.foldl_cons]
    exact (pass.find_le_relax child parent hc.head x).trans (ih _ (hc.tail.congr (Pass.names_relax _ _)) x)

/-- A pass lifts every child above the depth its parent had at the start of the pass. -/
theorem succ_find_le_foldl_relax (edges : List (ν × ν)) : ∀ (pass : Pass ν), Covers pass.depths edges →
    ∀ e ∈ edges, pass.depths.find e.2 + 1 ≤ (edges.foldl Pass.relax pass).depths.find e.1 := by
  induction edges with
  | nil => simp
  | cons e₀ rest ih =>
    intro pass hc e he
    obtain ⟨child, parent⟩ := e₀
    have hc' : Covers (pass.relax (child, parent)).depths rest := hc.tail.congr (Pass.names_relax _ _)
    have hstep := pass.find_relax child parent hc.head
    rw [List.foldl_cons]
    rcases List.mem_cons.mp he with rfl | hr
    · -- The child is lifted now, and later edges do not lower it.
      have hlater := find_le_foldl_relax rest _ hc' child
      have hnow := hstep child
      rw [if_pos rfl] at hnow
      show pass.depths.find parent + 1 ≤ (rest.foldl Pass.relax (pass.relax (child, parent))).depths.find child
      omega
    · -- When the turn of a later edge comes its parent is no lower than at the start.
      have hlater := ih _ hc' e hr
      have hmono := pass.find_le_relax child parent hc.head e.2
      omega

theorem mem_changed_foldl_relax_iff (edges : List (ν × ν)) : ∀ (pass : Pass ν), Covers pass.depths edges → ∀ x,
    x ∈ (edges.foldl Pass.relax pass).changed ↔
      x ∈ pass.changed ∨ pass.depths.find x < (edges.foldl Pass.relax pass).depths.find x := by
  induction edges with
  | nil => simp
  | cons e rest ih =>
    intro pass hc x
    obtain ⟨child, parent⟩ := e
    have hc' : Covers (pass.relax (child, parent)).depths rest := hc.tail.congr (Pass.names_relax _ _)
    have hnow := pass.find_le_relax child parent hc.head x
    have hlater := find_le_foldl_relax rest _ hc' x
    rw [List.foldl_cons, ih _ hc', Pass.mem_changed_relax _ _ _ hc.head, or_assoc]
    refine or_congr Iff.rfl ?_
    omega

/-- A pass notes the names whose depths it raises. -/
theorem mem_changed_onePass_iff {edges : List (ν × ν)} {depths : Depths ν} (hc : Covers depths edges) {x : ν} :
    x ∈ (onePass edges depths).changed ↔ depths.find x < (onePass edges depths).depths.find x := by
  rw [onePass, mem_changed_foldl_relax_iff edges _ hc]
  simp

/-- No edge asks for a greater depth. -/
def Quiet (edges : List (ν × ν)) (depths : Depths ν) : Prop :=
  ∀ e ∈ edges, depths.find e.2 + 1 ≤ depths.find e.1

theorem changed_foldl_relax_length (edges : List (ν × ν)) (pass : Pass ν) :
    pass.changed.length ≤ (edges.foldl Pass.relax pass).changed.length := by
  induction edges generalizing pass with
  | nil => exact le_rfl
  | cons e rest ih =>
    obtain ⟨child, parent⟩ := e
    refine le_trans ?_ (ih _)
    rcases pass.relax_cases child parent with ⟨h, -⟩ | ⟨h, -⟩
    · rw [h]; simp
    · rw [h]

/-- Names noted in a pass are children of edges. -/
theorem mem_changed_foldl_relax (edges : List (ν × ν)) : ∀ (pass : Pass ν),
    ∀ x ∈ (edges.foldl Pass.relax pass).changed, x ∈ pass.changed ∨ ∃ e ∈ edges, e.1 = x := by
  induction edges with
  | nil => exact fun _ _ hx => Or.inl hx
  | cons e rest ih =>
    intro pass x hx
    obtain ⟨child, parent⟩ := e
    rcases ih _ x hx with h | ⟨e, he, hex⟩
    · rcases pass.relax_cases child parent with ⟨hc, -⟩ | ⟨hc, -⟩
      · rw [hc] at h
        rcases List.mem_cons.mp h with rfl | h
        · exact Or.inr ⟨_, List.mem_cons_self, rfl⟩
        · exact Or.inl h
      · rw [hc] at h
        exact Or.inl h
    · exact Or.inr ⟨e, List.mem_cons_of_mem _ he, hex⟩

theorem mem_changed_onePass {edges : List (ν × ν)} {depths : Depths ν} {x : ν}
    (h : x ∈ (onePass edges depths).changed) : ∃ e ∈ edges, e.1 = x := by
  rcases mem_changed_foldl_relax edges ⟨depths, []⟩ x h with h | h
  · simp at h
  · exact h

/-- A pass that notes nothing leaves the depths as they are, and no edge asks for more. -/
theorem quiet_of_changed_eq_nil {edges : List (ν × ν)} {depths : Depths ν}
    (h : (onePass edges depths).changed = []) :
    (onePass edges depths).depths = depths ∧ Quiet edges depths := by
  -- Nothing that has been noted is forgotten, so equal lengths rule out every change.
  have all : ∀ (edges : List (ν × ν)) (pass : Pass ν),
      (edges.foldl Pass.relax pass).changed.length = pass.changed.length →
      edges.foldl Pass.relax pass = pass ∧ Quiet edges pass.depths := by
    intro edges
    induction edges with
    | nil => exact fun pass _ => ⟨rfl, by simp [Quiet]⟩
    | cons e rest ih =>
      intro pass hlen
      obtain ⟨child, parent⟩ := e
      rw [List.foldl_cons] at hlen ⊢
      rcases pass.relax_cases child parent with ⟨hc, -⟩ | ⟨hc, hle⟩
      · have := changed_foldl_relax_length rest (pass.relax (child, parent))
        rw [hc] at this
        simp at this
        omega
      · rw [hc] at hlen ⊢
        obtain ⟨heq, hq⟩ := ih pass hlen
        refine ⟨heq, fun e he => ?_⟩
        rcases List.mem_cons.mp he with rfl | he
        · exact hle
        · exact hq e he
  obtain ⟨heq, hq⟩ := all edges ⟨depths, []⟩ (by rw [onePass] at h; rw [h])
  exact ⟨by rw [onePass, heq], hq⟩

/-- Where no edge asks for more, a pass notes nothing. -/
theorem changed_eq_nil_of_quiet {edges : List (ν × ν)} {depths : Depths ν} (h : Quiet edges depths) :
    (onePass edges depths).changed = [] := by
  have all : ∀ l : List (ν × ν), (∀ e ∈ l, e ∈ edges) → ∀ noted,
      l.foldl Pass.relax ⟨depths, noted⟩ = ⟨depths, noted⟩ := by
    intro l
    induction l with
    | nil => exact fun _ _ => rfl
    | cons e rest ih =>
      intro hsub noted
      have he := h e (hsub e List.mem_cons_self)
      have hno : ¬ depths.find e.1 < depths.find e.2 + 1 := by omega
      rw [List.foldl_cons]
      have hstep : Pass.relax ⟨depths, noted⟩ e = ⟨depths, noted⟩ := by
        simp only [Pass.relax, hno, if_false]
      rw [hstep]
      exact ih (fun e he => hsub e (List.mem_cons_of_mem _ he)) noted
  rw [onePass, all edges (fun _ he => he)]

end CodeMetrics.Inheritance
