import CodeMetrics.Proofs.Inheritance.Depths

/-!
# Limits on the number of passes

A limit decides whether depths are returned and never which ones. Once a pass changes nothing, further passes would not be
made, so a greater limit gives the same answer; and as every pass counts chains that are longer by one, no more passes
are made than the longest chain has types.

* `passesFrom_add` — a greater limit gives what a smaller one has given
* `passes_passesFrom_le` — passes are no more than types on the longest chain
* `exists_lastPass` — what the loop knows when it gives up
* `depths_within_limit` — all of it, for names that are texts
-/

namespace CodeMetrics.Inheritance

/-! ## The loop -/

section Loop

variable {ν : Type} [DecidableEq ν] {decls : List (TypeDecl ν)} {edges : List (ν × ν)}

/-- The loop ends with the first pass that changes nothing, however many are left. -/
theorem passesFrom_of_quiet {depths : Depths ν} (h : (onePass edges depths).changed.isEmpty = true)
    (remaining done : Nat) : passesFrom edges remaining done depths = .ok ⟨(onePass edges depths).depths, done + 1⟩ := by
  cases remaining <;> rw [passesFrom, if_pos h]

/-- Passes that are not needed are not made. -/
theorem passesFrom_add {r : Resolution ν} (extra : Nat) : ∀ {remaining done : Nat} {depths : Depths ν},
    passesFrom edges remaining done depths = .ok r → passesFrom edges (remaining + extra) done depths = .ok r := by
  intro remaining
  induction remaining with
  | zero =>
    intro done depths h
    rw [passesFrom] at h
    split at h
    · next hquiet => rw [passesFrom_of_quiet hquiet, h]
    · cases h
  | succ remaining ih =>
    intro done depths h
    rw [passesFrom] at h
    split at h
    · next hquiet => rw [passesFrom_of_quiet hquiet, h]
    · next hchanged =>
      rw [Nat.add_right_comm, passesFrom, if_neg hchanged]
      exact ih h

/-- Each pass but the last one counts chains that had not been counted. -/
theorem passes_passesFrom_le {longest : Nat} (hlongest : ∀ x k, HasChain decls x k → k ≤ longest) :
    ∀ {remaining done p : Nat} {depths : Depths ν} {r : Resolution ν},
    passesFrom edges remaining done depths = .ok r → Sound decls depths → Settled decls p depths →
    Describes decls edges depths → done + 1 ≤ r.passes ∧ r.passes ≤ done + 1 + (longest - p) := by
  intro remaining
  induction remaining with
  | zero =>
    intro done p depths r h hs hp hd
    rw [passesFrom] at h
    split at h
    · cases h
      simp
    · cases h
  | succ remaining ih =>
    intro done p depths r h hs hp hd
    rw [passesFrom] at h
    split at h
    · cases h
      simp
    · next hchanged =>
      obtain ⟨hmore, hless⟩ := ih h (hs.onePass hd) (hp.onePass hs hd) hd.onePass
      -- A pass that changes something means that some chain is longer than those counted so far.
      have hlt : p < longest := by
        by_contra hle
        have hquiet := hp.quiet hs hd fun x k hk => (hlongest x k hk).trans (not_lt.mp hle)
        exact hchanged (List.isEmpty_iff.mpr (changed_eq_nil_of_quiet hquiet))
      omega

/-- The last pass of a loop that gives up: the depths that it starts from, in which chains of at most `p` types have been
counted, and the names that it changes. -/
structure LastPass (decls : List (TypeDecl ν)) (edges : List (ν × ν)) (p : Nat) (d : Divergence ν)
    (depths : Depths ν) : Prop where
  sound : Sound decls depths
  settled : Settled decls p depths
  describes : Describes decls edges depths
  changed_eq : d.changed = (onePass edges depths).changed
  changed_ne : d.changed ≠ []

/-- The loop gives up when no pass is left, and something has changed in the last one. -/
theorem exists_lastPass : ∀ {remaining done p : Nat} {depths : Depths ν} {d : Divergence ν},
    passesFrom edges remaining done depths = .error d → Sound decls depths → Settled decls p depths →
    Describes decls edges depths →
    d.passes = done + remaining + 1 ∧ ∃ last, LastPass decls edges (p + remaining) d last := by
  intro remaining
  induction remaining with
  | zero =>
    intro done p depths d h hs hp hd
    rw [passesFrom] at h
    split at h
    · cases h
    · next hchanged =>
      cases h
      exact ⟨rfl, depths, hs, hp, hd, rfl, fun hnil => hchanged (List.isEmpty_iff.mpr hnil)⟩
  | succ remaining ih =>
    intro done p depths d h hs hp hd
    rw [passesFrom] at h
    split at h
    · cases h
    · obtain ⟨hpasses, last, hlast⟩ := ih h (hs.onePass hd) (hp.onePass hs hd) hd.onePass
      rw [Nat.add_right_comm p 1, Nat.add_assoc p] at hlast
      exact ⟨by omega, last, hlast⟩

end Loop

/-! ## From declarations -/

section Declarations

variable {ν : Type} [DecidableEq ν] {decls : List (TypeDecl ν)} {le : ν → ν → Bool} {limit limit' : Option Int}
  {r r' : Resolution ν}

theorem resolve_none (le : ν → ν → Bool) (decls : List (TypeDecl ν)) :
    resolve le decls none = resolve le decls (some ((mentioned decls).length + 1)) := rfl

/-- A greater limit gives what a smaller one has given. -/
theorem resolve_mono {m m' : Int} (h : resolve le decls (some m) = .ok r) (hle : m ≤ m') :
    resolve le decls (some m') = .ok r := by
  obtain ⟨extra, hextra⟩ := Nat.exists_eq_add_of_le (show m.toNat - 1 ≤ m'.toNat - 1 by omega)
  rw [resolve, Option.getD_some] at h ⊢
  rw [hextra]
  exact passesFrom_add _ h

/-- All limits that give depths give the same, after the same number of passes. -/
theorem resolve_unique (h : resolve le decls limit = .ok r) (h' : resolve le decls limit' = .ok r') : r = r' := by
  have hsome : ∀ {limit : Option Int} {r}, resolve le decls limit = .ok r → ∃ m, resolve le decls (some m) = .ok r := by
    intro limit r h
    cases limit with
    | none => exact ⟨_, h⟩
    | some m => exact ⟨m, h⟩
  obtain ⟨m, hm⟩ := hsome h
  obtain ⟨m', hm'⟩ := hsome h'
  rcases le_total m m' with hle | hle
  · exact Except.ok.inj ((resolve_mono hm hle).symm.trans hm')
  · exact Except.ok.inj (hm.symm.trans (resolve_mono hm' hle))

/-- What any limit gives, the default one gives. -/
theorem resolve_none_of_ok (h : resolve le decls limit = .ok r) : resolve le decls none = .ok r := by
  obtain ⟨r', hr'⟩ := resolve_of_acyclic le (resolve_ok h).1
  rw [hr', resolve_unique hr' h]

/-- No more passes are made than the longest chain has types. -/
theorem passes_resolve_le {longest : Nat} (h : resolve le decls limit = .ok r)
    (hlongest : ∀ x k, HasChain decls x k → k ≤ max 1 longest) : 1 ≤ r.passes ∧ r.passes ≤ max 1 longest := by
  have hpasses := passes_passesFrom_le hlongest h sound_start settled_start (describes_start le)
  omega

/-- A limit on which the longest chain has no more types gives depths. -/
theorem resolve_of_longest {longest : Nat} (hlongest : ∀ x k, HasChain decls x k → k ≤ max 1 longest) {m : Int}
    (hm : (max 1 longest : Nat) ≤ m) : ∃ r, resolve le decls (some m) = .ok r := by
  refine passesFrom_isOk sound_start settled_start (describes_start le) fun x k hk => ?_
  have hle := hlongest x k hk
  rw [Option.getD_some]
  omega

theorem exists_lastPass_resolve {m : Int} {d : Divergence ν} (h : resolve le decls (some m) = .error d) :
    d.passes = max 1 m.toNat ∧ ∃ last, LastPass decls (Inheritance.edges le decls) (max 1 m.toNat) d last := by
  obtain ⟨hpasses, hlast⟩ := exists_lastPass h sound_start settled_start (describes_start le)
  rw [Option.getD_some] at hpasses hlast
  have hmax : 1 + (m.toNat - 1) = max 1 m.toNat := by omega
  rw [hmax] at hlast
  exact ⟨by omega, hlast⟩

end Declarations

/-! ## Texts as names -/

section Texts

variable {decls : List (TypeDecl String)} {limit : Option Int}

/-- What is noted when depths have been found. -/
def resolvedNote (types passes : Nat) : Record :=
  ⟨.debug, "qualytics.metrics.structure",
    "Resolved " ++ Number.natText types ++ " type depths in " ++ Number.natText passes ++ " passes"⟩

theorem resolveDepths_of_ok {r : Resolution Value.Key}
    (h : resolve Value.Key.le (decls.map (TypeDecl.map Value.Key.text)) limit = .ok r) :
    resolveDepths (decls.map (TypeDecl.map Value.str)) limit
      = ⟨[resolvedNote r.depths.length r.passes],
          .ok (r.depths.map fun (k, d) => (declaredName (decls.map (TypeDecl.map Value.str)) k, d))⟩ := by
  unfold resolveDepths
  rw [keyed_texts]
  show (if _ then _ else _ : Traced _) = _
  rw [if_neg (by rw [ordered_texts]; exact Bool.false_ne_true), h]
  rfl

/-- Depths are returned only if the passes over the graph by keys end. -/
theorem exists_resolve_of_ok {depths : List (Value × Nat)}
    (h : (resolveDepths (decls.map (TypeDecl.map Value.str)) limit).outcome = .ok depths) :
    ∃ r, resolve Value.Key.le (decls.map (TypeDecl.map Value.Key.text)) limit = .ok r := by
  rw [resolveDepths_texts] at h
  split at h
  · obtain ⟨names, -, hfail⟩ := Outcome.bind_eq_ok.mp h
    cases hfail
  · next r hr => exact ⟨r, hr⟩

end Texts

/-- **A limit never makes a depth wrong.** Whatever the limit, zero and below included, the passes end, after no more of
them than the limit allows or one. If depths are returned the graph has no cycle and they are those of the longest
chains, and the default limit and all greater ones give the same after the same passes. A graph without a cycle is never
refused under a limit on which its longest chain has no more types, and takes no more passes than those. -/
theorem depths_within_limit (decls : List (TypeDecl String)) :
    let run := fun limit : Option Int => resolveDepths (decls.map (TypeDecl.map Value.str)) limit
    (∀ m : Int, (∃ depths, (run (some m)).outcome = .ok depths) ∨
      ∃ names, (run (some m)).outcome = .error (.problem (.inheritanceCycle names (max 1 m.toNat)))) ∧
    (∀ (m : Int) depths, (run (some m)).outcome = .ok depths →
      ¬ Cyclic decls ∧ depths.map (·.1) = (distinct (decls.map (·.name))).map Value.str ∧
      (∀ t n, (.str t, n) ∈ depths → IsGreatest {k | HasChain decls t k} n) ∧
      run none = run (some m) ∧ ∀ m' ≥ m, run (some m') = run (some m)) ∧
    (¬ Cyclic decls → ∀ longest, IsDepth decls longest →
      ∀ limit : Option Int, (∀ m ∈ limit, (max 1 longest : Nat) ≤ m) →
        ∃ depths passes, run limit = ⟨[resolvedNote depths.length passes], .ok depths⟩ ∧
          1 ≤ passes ∧ passes ≤ max 1 longest) := by
  intro run
  refine ⟨fun m => ?_, fun m depths h => ?_, fun hac longest hdepth limit hlimit => ?_⟩
  · cases hr : resolve Value.Key.le (decls.map (TypeDecl.map Value.Key.text)) (some m) with
    | ok r => exact .inl ⟨_, congrArg Traced.outcome (resolveDepths_of_ok hr)⟩
    | error d =>
      obtain ⟨texts, -, hfail⟩ := resolveDepths_of_error hr
      rw [(exists_lastPass_resolve hr).1] at hfail
      exact .inr ⟨_, hfail⟩
  · obtain ⟨r, hr⟩ := exists_resolve_of_ok h
    obtain ⟨hac, hnames, hgreatest⟩ := resolveDepths_ok h
    refine ⟨hac, hnames, hgreatest, ?_, fun m' hm' => ?_⟩
    · exact (resolveDepths_of_ok (resolve_none_of_ok hr)).trans (resolveDepths_of_ok hr).symm
    · exact (resolveDepths_of_ok (resolve_mono hr hm')).trans (resolveDepths_of_ok hr).symm
  · have hbound := (hdepth.map text_injective).hasChain_le fun hc => hac ((cyclic_map text_injective).mp hc)
    obtain ⟨r, hr⟩ : ∃ r, resolve Value.Key.le (decls.map (TypeDecl.map Value.Key.text)) limit = .ok r := by
      cases limit with
      | none => exact resolve_of_acyclic _ fun hc => hac ((cyclic_map text_injective).mp hc)
      | some m => exact resolve_of_longest hbound (hlimit m rfl)
    have hrun := resolveDepths_of_ok hr
    rw [← List.length_map] at hrun
    exact ⟨_, r.passes, hrun, passes_resolve_le hr hbound⟩

end CodeMetrics.Inheritance
