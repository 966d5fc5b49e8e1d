import CodeMetrics.Proofs.Inheritance.Relaxation

/-!
# Convergence of the passes

The loop of passes against chains of types. Two properties of depths carry the argument:

* `Sound` — every depth is the length of some chain; relaxing an edge lengthens a chain, so this is never lost
* `Settled p` — every chain of at most `p` types has been counted; a pass raises `p` by one

Depths that no edge changes have counted every chain (`Quiet.le_find`), so no cycle is left and they are greatest. While
chains are bounded, the loop makes such a pass as soon as `p` has reached the bound (`passesFrom_isOk`).
-/

namespace CodeMetrics.Inheritance

variable {ν : Type} [DecidableEq ν] {decls : List (TypeDecl ν)} {edges : List (ν × ν)} {depths : Depths ν}

/-- The edges are those of the graph, each child with an entry. -/
structure Describes (decls : List (TypeDecl ν)) (edges : List (ν × ν)) (depths : Depths ν) : Prop where
  mem_iff : ∀ a b, (a, b) ∈ edges ↔ Extends decls a b
  covers : Covers depths edges

theorem Describes.onePass (h : Describes decls edges depths) :
    Describes decls edges (onePass edges depths).depths :=
  ⟨h.mem_iff, h.covers.congr (names_onePass edges depths)⟩

/-! ## What a pass keeps and gains -/

/-- Every depth is the length of a chain. -/
def Sound (decls : List (TypeDecl ν)) (depths : Depths ν) : Prop := ∀ x, HasChain decls x (depths.find x)

/-- Every chain of at most `p` types has been counted. -/
def Settled (decls : List (TypeDecl ν)) (p : Nat) (depths : Depths ν) : Prop :=
  ∀ x k, k ≤ p → HasChain decls x k → k ≤ depths.find x

theorem Sound.relax {pass : Pass ν} {child parent : ν} (h : Sound decls pass.depths)
    (hc : child ∈ pass.depths.names) (he : Extends decls child parent) :
    Sound decls (pass.relax (child, parent)).depths := by
  intro x
  rw [pass.find_relax child parent hc]
  split
  · next hx =>
    subst hx
    rcases Nat.le_total (pass.depths.find parent + 1) (pass.depths.find x) with hm | hm
    · rw [Nat.max_eq_left hm]
      exact h x
    · rw [Nat.max_eq_right hm]
      exact (h parent).cons he
  · exact h x

theorem Sound.onePass (h : Sound decls depths) (hd : Describes decls edges depths) :
    Sound decls (onePass edges depths).depths := by
  have all : ∀ (l : List (ν × ν)) (pass : Pass ν), (∀ e ∈ l, e ∈ edges) → Covers pass.depths l →
      Sound decls pass.depths → Sound decls (l.foldl Pass.relax pass).depths := by
    intro l
    induction l with
    | nil => exact fun _ _ _ hs => hs
    | cons e rest ih =>
      intro pass hsub hc hs
      obtain ⟨child, parent⟩ := e
      have he : Extends decls child parent := (hd.mem_iff _ _).mp (hsub _ List.mem_cons_self)
      exact ih _ (fun e he => hsub e (List.mem_cons_of_mem _ he)) (hc.tail.congr (Pass.names_relax _ _))
        (hs.relax hc.head he)
  exact all edges _ (fun _ he => he) hd.covers h

/-- A pass counts the chains that are longer by one. -/
theorem Settled.onePass {p : Nat} (h : Settled decls p depths) (hs : Sound decls depths)
    (hd : Describes decls edges depths) : Settled decls (p + 1) (onePass edges depths).depths := by
  intro x k hk hx
  cases k with
  | zero => exact Nat.zero_le _
  | succ k =>
    rcases Nat.eq_zero_or_pos k with rfl | hpos
    · exact (hs.onePass hd x).pos
    · -- The rest of the chain starts at a parent and was counted before the pass.
      obtain ⟨y, hxy, hy⟩ := hx.exists_parent hpos
      have hcount : k ≤ depths.find y := h y k (by omega) hy
      have hlift := succ_find_le_foldl_relax edges ⟨depths, []⟩ hd.covers _ ((hd.mem_iff _ _).mpr hxy)
      exact (Nat.succ_le_succ hcount).trans hlift

/-! ## Quiet depths -/

/-- Depths that no edge changes have counted every chain. -/
theorem Quiet.le_find (hq : Quiet edges depths) (hs : Sound decls depths) (hd : Describes decls edges depths) :
    ∀ {k : Nat} {x : ν}, HasChain decls x k → k ≤ depths.find x := by
  intro k
  induction k with
  | zero => exact fun _ => Nat.zero_le _
  | succ k ih =>
    intro x hx
    rcases Nat.eq_zero_or_pos k with rfl | hpos
    · exact (hs x).pos
    · obtain ⟨y, hxy, hy⟩ := hx.exists_parent hpos
      exact (Nat.succ_le_succ (ih hy)).trans (hq _ ((hd.mem_iff _ _).mpr hxy))

theorem Quiet.not_cyclic (hq : Quiet edges depths) (hd : Describes decls edges depths) : ¬ Cyclic decls :=
  Cyclic.not_of_rank depths.find fun _ _ hab => hq _ ((hd.mem_iff _ _).mpr hab)

theorem Quiet.isGreatest (hq : Quiet edges depths) (hs : Sound decls depths) (hd : Describes decls edges depths)
    (x : ν) : IsGreatest {k | HasChain decls x k} (depths.find x) :=
  ⟨hs x, fun _ hk => hq.le_find hs hd hk⟩

/-- Once every chain has been counted no edge asks for more. -/
theorem Settled.quiet {p : Nat} (h : Settled decls p depths) (hs : Sound decls depths)
    (hd : Describes decls edges depths) (hbound : ∀ x k, HasChain decls x k → k ≤ p) : Quiet edges depths := by
  rintro ⟨child, parent⟩ he
  have hchain : HasChain decls child (depths.find parent + 1) := (hs parent).cons ((hd.mem_iff _ _).mp he)
  exact h child _ (hbound _ _ hchain) hchain

/-! ## The loop -/

/-- What the loop returns is quiet, and sound if it started so. -/
theorem passesFrom_ok : ∀ {remaining done : Nat} {depths : Depths ν} {r : Resolution ν},
    passesFrom edges remaining done depths = .ok r → Sound decls depths → Describes decls edges depths →
    Quiet edges r.depths ∧ Sound decls r.depths ∧ r.depths.names = depths.names := by
  intro remaining
  induction remaining with
  | zero =>
    intro done depths r h hs hd
    rw [passesFrom] at h
    split at h
    · next hc =>
      obtain ⟨heq, hq⟩ := quiet_of_changed_eq_nil (List.isEmpty_iff.mp hc)
      cases h
      rw [heq]
      exact ⟨hq, hs, rfl⟩
    · simp at h
  | succ remaining ih =>
    intro done depths r h hs hd
    rw [passesFrom] at h
    split at h
    · next hc =>
      obtain ⟨heq, hq⟩ := quiet_of_changed_eq_nil (List.isEmpty_iff.mp hc)
      cases h
      rw [heq]
      exact ⟨hq, hs, rfl⟩
    · obtain ⟨hq, hs', hn⟩ := ih h (hs.onePass hd) hd.onePass
      exact ⟨hq, hs', hn.trans (names_onePass edges depths)⟩

/-- The loop returns if the passes left are enough for the longest chain. -/
theorem passesFrom_isOk : ∀ {remaining done p : Nat} {depths : Depths ν}, Sound decls depths →
    Settled decls p depths → Describes decls edges depths →
    (∀ x k, HasChain decls x k → k ≤ p + remaining) →
    ∃ r, passesFrom edges remaining done depths = .ok r := by
  intro remaining
  induction remaining with
  | zero =>
    intro done p depths hs hp hd hbound
    have hquiet := changed_eq_nil_of_quiet (hp.quiet hs hd hbound)
    exact ⟨_, by rw [passesFrom, hquiet]; rfl⟩
  | succ remaining ih =>
    intro done p depths hs hp hd hbound
    rw [passesFrom]
    split
    · exact ⟨_, rfl⟩
    · -- One pass fewer is left, and chains longer by one are counted.
      exact ih (hs.onePass hd) (hp.onePass hs hd) hd.onePass
        (fun x k hk => (hbound x k hk).trans (by omega))

/-- The names that a failed loop reports are children of edges. -/
theorem passesFrom_error : ∀ {remaining done : Nat} {depths : Depths ν} {d : Divergence ν},
    passesFrom edges remaining done depths = .error d → ∀ x ∈ d.changed, ∃ e ∈ edges, e.1 = x := by
  intro remaining
  induction remaining with
  | zero =>
    intro done depths d h x hx
    rw [passesFrom] at h
    split at h
    · simp at h
    · cases h
      exact mem_changed_onePass hx
  | succ remaining ih =>
    intro done depths d h
    rw [passesFrom] at h
    split at h
    · simp at h
    · exact ih h

/-! ## From declarations -/

theorem mem_edges {le : ν → ν → Bool} {a b : ν} : (a, b) ∈ Inheritance.edges le decls ↔ Extends decls a b := by
  simp only [Inheritance.edges, List.mem_mergeSort, mem_distinct, List.mem_flatMap, List.mem_map, Prod.mk.injEq,
    Extends]
  constructor
  · rintro ⟨d, hd, p, hp, rfl, rfl⟩
    exact ⟨d, hd, rfl, hp⟩
  · rintro ⟨d, hd, rfl, hb⟩
    exact ⟨d, hd, b, hb, rfl, rfl⟩

theorem names_start : (start decls).names = distinct (decls.map (·.name)) := by
  simp [start, Depths.names, Function.comp_def]

theorem find_start (x : ν) : (start decls).find x = 1 := by
  have all : ∀ l : List ν, Depths.find (l.map fun n => (n, 1)) x = 1 := by
    intro l
    induction l with
    | nil => rfl
    | cons n rest ih => by_cases h : n = x <;> simp [Depths.find, h, ih]
  exact all _

theorem describes_start (le : ν → ν → Bool) : Describes decls (Inheritance.edges le decls) (start decls) where
  mem_iff _ _ := mem_edges
  covers := by
    rintro ⟨a, b⟩ he
    obtain ⟨d, hd, rfl, -⟩ := mem_edges.mp he
    rw [names_start, mem_distinct]
    exact List.mem_map_of_mem hd

theorem sound_start : Sound decls (start decls) := fun x => by
  rw [find_start]
  exact HasChain.one x

theorem settled_start : Settled decls 1 (start decls) := fun x k hk _ => by rwa [find_start]

/-- **Returned depths are longest chains.** Whatever the limit, if the passes end there is no cycle, and the depths are
those of the longest chains. -/
theorem resolve_ok {le : ν → ν → Bool} {limit : Option Int} {r : Resolution ν}
    (h : resolve le decls limit = .ok r) :
    ¬ Cyclic decls ∧ r.depths.names = distinct (decls.map (·.name)) ∧
      ∀ x, IsGreatest {k | HasChain decls x k} (r.depths.find x) := by
  obtain ⟨hq, hs, hn⟩ := passesFrom_ok h sound_start (describes_start le)
  have hd : Describes decls (Inheritance.edges le decls) r.depths :=
    ⟨(describes_start le).mem_iff, (describes_start le).covers.congr hn⟩
  exact ⟨hq.not_cyclic hd, hn.trans names_start, hq.isGreatest hs hd⟩

/-- **The default limit is never too small.** Without a cycle the passes end within it. -/
theorem resolve_of_acyclic (le : ν → ν → Bool) (h : ¬ Cyclic decls) : ∃ r, resolve le decls none = .ok r := by
  refine passesFrom_isOk sound_start settled_start (describes_start le) fun x k hk => ?_
  have hle := hk.le_of_acyclic h
  rw [Option.getD_none]
  omega

/-- The names that a failed resolution reports are declared. -/
theorem resolve_error {le : ν → ν → Bool} {limit : Option Int} {d : Divergence ν}
    (h : resolve le decls limit = .error d) : ∀ x ∈ d.changed, ∃ decl ∈ decls, decl.name = x := by
  intro x hx
  obtain ⟨⟨a, b⟩, he, rfl⟩ := passesFrom_error h x hx
  obtain ⟨decl, hdecl, hname, -⟩ := mem_edges.mp he
  exact ⟨decl, hdecl, hname⟩

end CodeMetrics.Inheritance
