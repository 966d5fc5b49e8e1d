import CodeMetrics.Proofs.Settings.Sources
import Mathlib

/-!
# Which settings are valid

Each setting has its own values that are valid, and settings can be made from named values exactly when all names are
known and all values are valid. A value that is not valid is refused in one of two ways: a value of a kind that is not
compared with numbers is a mismatch, and any other value is shown together with the reason.

* `IsValid` — the values of each setting
* `Checks` — what the check of a value may end in
* `of_unknown`, `of_known` — settings from named values
* `of_congr` — only the values of the settings and the first unknown name matter
-/

namespace CodeMetrics.Settings

/-! ## Valid values -/

/-- A number of workers is a number that is not below one; none need be named. -/
def IsWorkers (v : Value) : Prop := v = .null ∨ ∃ n, v.num? = some n ∧ n.lt (.int 1) = false

def IsPolicy (v : Value) : Prop := ∃ p : CyclePolicy, v = .str p.text

def IsVerbosity (v : Value) : Prop := ∃ p : Verbosity, v = .str p.text

/-- A number of decimal places is a number from zero to ten. -/
def IsDecimals (v : Value) : Prop := ∃ n, v.num? = some n ∧ (Num.int 0).le n = true ∧ n.le (.int 10) = true

/-- The values that a setting can have. Any value will do where only its truth matters, and for the log file. -/
structure IsValid (key : String) (v : Value) : Prop where
  workers : key = "workers" → IsWorkers v
  policy : key = "inheritance_cycle_policy" → IsPolicy v
  verbosity : key = "verbosity" → IsVerbosity v
  decimals : key = "decimals" → IsDecimals v

theorem isValid_workers {v : Value} : IsValid "workers" v ↔ IsWorkers v :=
  ⟨fun h => h.workers rfl, fun h => ⟨fun _ => h, by simp, by simp, by simp⟩⟩

theorem isValid_policy {v : Value} : IsValid "inheritance_cycle_policy" v ↔ IsPolicy v :=
  ⟨fun h => h.policy rfl, fun h => ⟨by simp, fun _ => h, by simp, by simp⟩⟩

theorem isValid_verbosity {v : Value} : IsValid "verbosity" v ↔ IsVerbosity v :=
  ⟨fun h => h.verbosity rfl, fun h => ⟨by simp, by simp, fun _ => h, by simp⟩⟩

theorem isValid_decimals {v : Value} : IsValid "decimals" v ↔ IsDecimals v :=
  ⟨fun h => h.decimals rfl, fun h => ⟨by simp, by simp, by simp, fun _ => h⟩⟩

theorem isValid_includeFunctions (v : Value) : IsValid "include_functions" v :=
  ⟨by simp, by simp, by simp, by simp⟩

theorem isValid_logFile (v : Value) : IsValid "log_file" v := ⟨by simp, by simp, by simp, by simp⟩

/-! ## The check of a value -/

/-- What the check of a value may end in: in success if it is valid, and otherwise in a mismatch or its refusal. -/
inductive Checks (key : String) (v : Value) {α : Type} : Except Error α → Prop
  | ok (h : IsValid key v) (a : α) : Checks key v (.ok a)
  | mismatch (h : ¬IsValid key v) (m : Mismatch) : Checks key v (.error (.mismatch m))
  | invalid (h : ¬IsValid key v) (reason : String) : Checks key v (invalid key v reason)

theorem checks_workers (v : Value) : Checks "workers" v (checkWorkers v) := by
  rw [checkWorkers.eq_def]
  split
  · exact .ok (isValid_workers.mpr (.inl rfl)) _
  · next v hnull =>
    split
    · next hnum =>
      refine .mismatch (fun h => ?_) _
      obtain h | ⟨n, hn, -⟩ := isValid_workers.mp h
      · exact hnull h
      · cases hnum.symm.trans hn
    · next n hnum =>
      split
      · next hlt =>
        refine .invalid (fun h => ?_) _
        obtain h | ⟨m, hm, hnot⟩ := isValid_workers.mp h
        · exact hnull h
        · cases hnum.symm.trans hm
          cases hlt.symm.trans hnot
      · next hlt => exact .ok (isValid_workers.mpr (.inr ⟨n, hnum, Bool.eq_false_iff.mpr hlt⟩)) _

theorem ne_str_of_find?_eq_none {α : Type} {choices : List α} {text : α → String} {v : Value}
    (h : choices.find? (fun c => v.str? == some (text c)) = none) {c : α} (hc : c ∈ choices) : v ≠ .str (text c) := by
  rintro rfl
  exact List.find?_eq_none.mp h c hc (beq_iff_eq.mpr rfl)

theorem checks_policy (v : Value) : Checks "inheritance_cycle_policy" v (checkPolicy v) := by
  rw [checkPolicy]
  split
  · next p hfind => exact .ok (isValid_policy.mpr ⟨p, eq_str_of_find? hfind⟩) _
  · next hfind =>
    refine .invalid (fun h => ?_) _
    obtain ⟨p, hp⟩ := isValid_policy.mp h
    exact ne_str_of_find?_eq_none hfind (by cases p <;> simp) hp

theorem checks_verbosity (v : Value) : Checks "verbosity" v (checkVerbosity v) := by
  rw [checkVerbosity]
  split
  · next p hfind => exact .ok (isValid_verbosity.mpr ⟨p, eq_str_of_find? hfind⟩) _
  · next hfind =>
    refine .invalid (fun h => ?_) _
    obtain ⟨p, hp⟩ := isValid_verbosity.mp h
    exact ne_str_of_find?_eq_none hfind (by cases p <;> simp) hp

theorem checks_decimals (v : Value) : Checks "decimals" v (checkDecimals v) := by
  rw [checkDecimals]
  split
  · next hnum =>
    refine .mismatch (fun h => ?_) _
    obtain ⟨n, hn, -⟩ := isValid_decimals.mp h
    cases hnum.symm.trans hn
  · next n hnum =>
    split
    · next hrange =>
      rw [Bool.and_eq_true] at hrange
      exact .ok (isValid_decimals.mpr ⟨n, hnum, hrange⟩) _
    · next hrange =>
      refine .invalid (fun h => hrange ?_) _
      obtain ⟨m, hm, hrange⟩ := isValid_decimals.mp h
      cases hnum.symm.trans hm
      exact (Bool.and_eq_true _ _).mpr hrange

/-! ## Settings from named values -/

/-- A name that is no setting's. -/
def isUnknown (key : String) : Bool := !names.contains key

/-- The value of a setting: the one that is given, or its default. -/
def valueOf (given : List (String × Value)) (key : String) : Option Value :=
  (Fields.get? given key).or (Fields.get? default.toFields key)

theorem find?_keys (given : List (String × Value)) (p : String → Bool) :
    (Fields.keys given).find? p = (given.find? fun field => p field.1).map (·.1) := by
  rw [Fields.keys, List.find?_map]
  rfl

/-- The first unknown name is refused. -/
theorem of_unknown {given : List (String × Value)} {key : String} (h : (Fields.keys given).find? isUnknown = some key) :
    of given = .error (.mismatch (if key = ownName then .repeatedArgument key else .unknownArgument key)) := by
  rw [find?_keys, Option.map_eq_some_iff] at h
  obtain ⟨field, hfield, rfl⟩ := h
  rw [of]
  split
  · next k v hfind =>
    cases hfield.symm.trans hfind
    rfl
  · next hfind => cases hfield.symm.trans hfind

/-- The checks that settings are put to, one after the other. -/
theorem of_known {given : List (String × Value)} (h : (Fields.keys given).find? isUnknown = none) :
    of given = do
      let value := fun key fallback => (Fields.get? given key).getD fallback
      let workers ← checkWorkers (value "workers" .null)
      let cyclePolicy ← checkPolicy (value "inheritance_cycle_policy" (.str "zero"))
      let verbosity ← checkVerbosity (value "verbosity" (.str "normal"))
      let decimals ← checkDecimals (value "decimals" (.int 2))
      return { workers, cyclePolicy, verbosity, decimals
               includeFunctions := value "include_functions" (.bool true)
               logFile := value "log_file" .null } := by
  rw [find?_keys, Option.map_eq_none_iff] at h
  rw [of]
  split
  · next k v hfind => cases h.symm.trans hfind
  · rfl

theorem valueOf_eq (given : List (String × Value)) {key : String} {fallback : Value}
    (h : Fields.get? default.toFields key = some fallback) :
    valueOf given key = some ((Fields.get? given key).getD fallback) := by
  rw [valueOf, h]
  cases Fields.get? given key <;> rfl

/-- Values that are checked one after the other: all of them are valid, or one that is not is refused. -/
inductive Judges (value : String → Option Value) (keys : List String) {α : Type} : Except Error α → Prop
  | ok (h : ∀ key ∈ keys, ∀ v, value key = some v → IsValid key v) (a : α) : Judges value keys (.ok a)
  | mismatch {key : String} {v : Value} (hkey : key ∈ keys) (hv : value key = some v) (h : ¬IsValid key v) (m : Mismatch) :
    Judges value keys (.error (.mismatch m))
  | invalid {key : String} {v : Value} (hkey : key ∈ keys) (hv : value key = some v) (h : ¬IsValid key v)
    (reason : String) : Judges value keys (invalid key v reason)

section Judges

variable {value : String → Option Value} {keys : List String} {α β : Type}

theorem Checks.bind {key : String} {v : Value} {x : Except Error α} {f : α → Except Error β} (hv : value key = some v)
    (h : Checks key v x) (hf : ∀ a, Judges value keys (f a)) : Judges value (key :: keys) (x >>= f) := by
  cases h with
  | ok hvalid a =>
    have ha := hf a
    change Judges value (key :: keys) (f a)
    generalize f a = outcome at ha
    cases ha with
    | ok hall b =>
      refine .ok (List.forall_mem_cons.mpr ⟨fun w hw => ?_, hall⟩) b
      cases hv.symm.trans hw
      exact hvalid
    | mismatch hkey hv h m => exact .mismatch (List.mem_cons_of_mem _ hkey) hv h m
    | invalid hkey hv h reason => exact .invalid (List.mem_cons_of_mem _ hkey) hv h reason
  | mismatch h m => exact .mismatch List.mem_cons_self hv h m
  | invalid h reason => exact .invalid List.mem_cons_self hv h reason

theorem Judges.congr {keys' : List String} {x : Except Error α} (h : Judges value keys x)
    (hkeys : ∀ key, key ∈ keys ↔ key ∈ keys') : Judges value keys' x := by
  cases h with
  | ok hall a => exact .ok (fun key hkey => hall key ((hkeys key).mpr hkey)) a
  | mismatch hkey hv h m => exact .mismatch ((hkeys _).mp hkey) hv h m
  | invalid hkey hv h reason => exact .invalid ((hkeys _).mp hkey) hv h reason

end Judges

/-- Settings with known names only are made if all values are valid, and refused for one that is not. -/
theorem judges_of {given : List (String × Value)} (h : (Fields.keys given).find? isUnknown = none) :
    Judges (valueOf given) names (of given) := by
  rw [of_known h]
  refine Judges.congr (?_ : Judges _ ["workers", "inheritance_cycle_policy", "verbosity", "decimals",
    "include_functions", "log_file"] _) (fun key => List.Perm.mem_iff (by decide))
  refine (checks_workers _).bind (valueOf_eq given rfl) fun workers => ?_
  refine (checks_policy _).bind (valueOf_eq given rfl) fun cyclePolicy => ?_
  refine (checks_verbosity _).bind (valueOf_eq given rfl) fun verbosity => ?_
  refine (checks_decimals _).bind (valueOf_eq given rfl) fun decimals => .ok ?_ _
  simp only [List.forall_mem_cons]
  exact ⟨fun v _ => isValid_includeFunctions v, fun v _ => isValid_logFile v, nofun⟩

/-- Only the values of the settings and the first unknown name matter. -/
theorem of_congr {given given' : List (String × Value)}
    (hunknown : (Fields.keys given).find? isUnknown = (Fields.keys given').find? isUnknown)
    (hvalue : ∀ key ∈ names, valueOf given key = valueOf given' key) : of given = of given' := by
  cases h : (Fields.keys given).find? isUnknown with
  | some key => rw [of_unknown h, of_unknown (hunknown ▸ h)]
  | none =>
    have hgetD : ∀ key ∈ names, ∀ fallback, Fields.get? default.toFields key = some fallback →
        (Fields.get? given key).getD fallback = (Fields.get? given' key).getD fallback := by
      intro key hkey fallback hfallback
      have hsame := hvalue key hkey
      rw [valueOf_eq given hfallback, valueOf_eq given' hfallback] at hsame
      exact Option.some.inj hsame
    rw [of_known h, of_known (hunknown ▸ h)]
    dsimp only
    rw [hgetD "workers" (by decide) .null rfl, hgetD "inheritance_cycle_policy" (by decide) (.str "zero") rfl,
      hgetD "verbosity" (by decide) (.str "normal") rfl, hgetD "decimals" (by decide) (.int 2) rfl,
      hgetD "include_functions" (by decide) (.bool true) rfl, hgetD "log_file" (by decide) .null rfl]

end CodeMetrics.Settings
