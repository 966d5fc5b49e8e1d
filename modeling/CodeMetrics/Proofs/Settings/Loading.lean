import CodeMetrics.Proofs.Settings.Validity
import Mathlib

/-!
# When settings can be loaded

Settings are loaded in three steps, each of which may be refused: files and variables are read, the names that files
and overrides give have to be known, and the value that counts for each setting has to be valid. What is refused ends in
a fault of the settings or in an invalid value, as long as values can be written out. Only before a file is read may
loading stop in another way: the home directory may be unknown, or it may be impossible to tell whether a file is there.

* `EndsBy` — a computation that succeeds under a condition, and otherwise is stopped or ends in a fault of the settings
* `Stops` — what stops loading
* `CanGather`, `load_of_canGather`, `load_of_not_canGather` — reading
* `countingValue`, `valueOf_merged` — the values that count
* `givenNames`, `find?_givenNames` — the first name that is unknown
* `SameNames`, `load_congr` — values that do not count
-/

namespace CodeMetrics.Settings

/-! ## Ending in a fault of the settings -/

/-- A computation ends in a value under a condition. Otherwise it is stopped by the one error of which `stops` holds, and
if there is none it ends in a fault of the settings. -/
inductive EndsBy {α : Type} (p : Prop) (stops : Error → Prop) (a : α) : Except Error α → Prop
  | ok (h : p) (hstops : ∀ e, ¬stops e) : EndsBy p stops a (.ok a)
  | stopped {e : Error} (h : ¬p) (hstops : ∀ e', stops e' ↔ e' = e) : EndsBy p stops a (.error e)
  | fault (h : ¬p) (hstops : ∀ e, ¬stops e) (f : SettingsFault) : EndsBy p stops a (failLoading f)

/-- Nothing stops a computation. -/
def never : Error → Prop := fun _ => False

namespace EndsBy

variable {α β : Type} {p q : Prop} {stops stops' : Error → Prop} {a : α} {b : β} {x : Except Error α}

theorem congr (h : EndsBy p stops a x) (hpq : p ↔ q) (hstops : ∀ e, stops e ↔ stops' e) : EndsBy q stops' a x := by
  cases h with
  | ok hp hnone => exact .ok (hpq.mp hp) fun e => mt (hstops e).mpr (hnone e)
  | stopped hp he => exact .stopped (mt hpq.mpr hp) fun e => (hstops e).symm.trans (he e)
  | fault hp hnone f => exact .fault (mt hpq.mpr hp) (fun e => mt (hstops e).mpr (hnone e)) f

theorem bind {f : α → Except Error β} (h : EndsBy p stops a x) (hf : EndsBy q stops' b (f a)) :
    EndsBy (p ∧ q) (fun e => stops e ∨ p ∧ stops' e) b (x >>= f) := by
  cases h with
  | ok hp hnone => exact hf.congr (and_iff_right hp).symm fun e => by simp [hp, hnone e]
  | stopped hp he => exact .stopped (fun h => hp h.1) fun e => by simp [hp, he e]
  | fault hp hnone f => exact .fault (fun h => hp h.1) (fun e => by simp [hp, hnone e]) f

theorem mapM {l : List α} {f : α → Except Error β} {p : α → Prop} {g : α → β}
    (h : ∀ a ∈ l, EndsBy (p a) never (g a) (f a)) : EndsBy (∀ a ∈ l, p a) never (l.map g) (l.mapM f) := by
  induction l with
  | nil => exact .ok (by simp) fun _ => id
  | cons a l ih =>
    obtain ⟨ha, hl⟩ := List.forall_mem_cons.mp h
    rw [List.mapM_cons]
    have htail := (ih hl).bind (f := fun bs => pure (g a :: bs)) (.ok trivial fun _ => id)
    refine (ha.bind htail).congr ?_ fun e => by simp [never]
    rw [and_true, List.forall_mem_cons]

theorem eq_ok (h : EndsBy p stops a x) (hp : p) : x = .ok a := by
  cases h with
  | ok _ _ => rfl
  | stopped hnot _ => exact absurd hp hnot
  | fault hnot _ f => exact absurd hp hnot

theorem eq_error (h : EndsBy p stops a x) {e : Error} (he : stops e) : x = .error e := by
  cases h with
  | ok _ hnone => exact absurd he (hnone e)
  | stopped _ hstops => rw [(hstops e).mp he]
  | fault _ hnone f => exact absurd he (hnone e)

theorem exists_fault (h : EndsBy p stops a x) (hp : ¬p) (hnone : ∀ e, ¬stops e) : ∃ f, x = failLoading f := by
  cases h with
  | ok h _ => exact absurd h hp
  | @stopped e _ hstops => exact absurd ((hstops e).mpr rfl) (hnone e)
  | fault _ _ f => exact ⟨f, rfl⟩

end EndsBy

/-! ## Reading files and variables -/

/-- The settings of a table: those of its own table if it has one, which has to be a table, and all of it otherwise. -/
def sectionOf? (table : List (String × Value)) : Option (List (String × Value)) :=
  match Fields.get? table "qualytics" with
  | none => some table
  | some (.object own) => some own
  | some _ => none

/-- The settings of the file under a path, if it can be read and has settings. -/
def sectionAt? (look : String → Entry) (path : String) : Option (List (String × Value)) :=
  (tableAt? look path).bind sectionOf?

/-- The settings of the file under a path; none without a file. -/
def sectionAt (look : String → Entry) (path : String) : List (String × Value) := (sectionAt? look path).getD []

/-- Where files are looked for, the one that counts least first. -/
def places (s : Surroundings) (explicit : Option String) : List String :=
  s.homeFile?.toList ++ [s.workFile] ++ explicit.toList

/-- A file is known not to be there, or is there and has settings. -/
def HasSection (look : String → Entry) (path : String) : Prop :=
  ∃ there, (look path).exists = .ok there ∧ (there = true → (sectionAt? look path).isSome = true)

/-- The variable of a setting can be read, if it is set. -/
def CanReadVariable (environment : List (String × String)) (key : String) : Prop :=
  ∀ text, Fields.get? environment (variableOf key) = some text → ∃ v, readVariable text (kindOf key) = .ok v

/-- The home directory is known, all files that are there have settings, the one that is named is there, and all variables
that are set can be read. -/
structure CanGather (s : Surroundings) (explicit : Option String) : Prop where
  home : s.home.isSome = true
  files : ∀ path ∈ places s explicit, HasSection s.look path
  named : ∀ path ∈ explicit, (s.look path).exists = .ok true
  environment : ∀ key ∈ names, CanReadVariable s.environment key

/-- It cannot be told whether there is a file under a path. -/
def CannotTell (look : String → Entry) (path : String) (e : Error) : Prop :=
  ∃ fault, (look path).exists = .error fault ∧ e = .file fault path

/-- What stops loading: the home directory cannot be told, or it cannot be told of a file whether it is there, and the
files that are asked for before have been read. -/
inductive Stops (s : Surroundings) (explicit : Option String) : Error → Prop
  | home (h : s.home = none) : Stops s explicit .unknownHome
  | homeFile {path : String} {e : Error} (hhome : s.homeFile? = some path) (h : CannotTell s.look path e) :
    Stops s explicit e
  | workFile {home : String} {e : Error} (hhome : s.homeFile? = some home) (hsection : HasSection s.look home)
    (h : CannotTell s.look s.workFile e) : Stops s explicit e
  | named {home path : String} {e : Error} (hhome : s.homeFile? = some home) (hsection : HasSection s.look home)
    (hwork : HasSection s.look s.workFile) (hpath : explicit = some path) (h : CannotTell s.look path e) :
    Stops s explicit e

theorem endsBy_fileSection (look : String → Entry) (path : String) :
    EndsBy ((sectionAt? look path).isSome = true) never (sectionAt look path) (fileSection look path) := by
  unfold sectionAt sectionAt? tableAt?
  cases hentry : look path with
  | absent | directory | locked | hidden | blocked | nameTooLong =>
    rw [fileSection, hentry]
    exact .fault Bool.false_ne_true (fun _ => id) _
  | file bytes =>
    dsimp only
    cases hread : Toml.readBytes bytes with
    | error cause =>
      rw [fileSection, hentry]
      simp only [Entry.bytes, bind, Except.bind, hread]
      exact .fault Bool.false_ne_true (fun _ => id) _
    | ok table =>
      rw [fileSection_file hentry hread]
      show EndsBy ((sectionOf? table).isSome = true) never ((sectionOf? table).getD []) _
      unfold sectionOf?
      cases Fields.get? table "qualytics" with
      | none => exact .ok rfl fun _ => id
      | some own => cases own with
        | object own => exact .ok rfl fun _ => id
        | _ => exact .fault Bool.false_ne_true (fun _ => id) _

theorem sectionAt?_of_not_exists {look : String → Entry} {path : String} (h : (look path).exists = .ok false) :
    sectionAt? look path = none := by
  rw [sectionAt?, tableAt?_of_not_exists h]
  rfl

/-- Whether a file is there is asked first. -/
theorem endsBy_isThere {α : Type} {look : String → Entry} {path : String} {p : Bool → Prop} {a : α}
    {f : Bool → Except Error α} (h : ∀ there, (look path).exists = .ok there → EndsBy (p there) never a (f there)) :
    EndsBy (∃ there, (look path).exists = .ok there ∧ p there) (CannotTell look path) a (isThere look path >>= f) := by
  rw [isThere]
  cases hexists : (look path).exists with
  | ok there =>
    refine (h there hexists).congr (by simp) fun e => ?_
    simp [CannotTell, never, hexists]
  | error fault =>
    refine .stopped (by simp) fun e => ?_
    simp [CannotTell, hexists]

theorem endsBy_optionalSection (look : String → Entry) (path : String) :
    EndsBy (HasSection look path) (CannotTell look path) (sectionAt look path) (optionalSection look path) := by
  refine endsBy_isThere fun there hthere => ?_
  cases there with
  | true => exact (endsBy_fileSection look path).congr (by simp) fun _ => Iff.rfl
  | false =>
    rw [sectionAt, sectionAt?_of_not_exists hthere]
    exact .ok (by simp) fun _ => id

/-- The file in the home directory can be read. -/
def HasHomeSection (s : Surroundings) : Prop := ∃ path, s.homeFile? = some path ∧ HasSection s.look path

theorem endsBy_homeSection (s : Surroundings) :
    EndsBy (HasHomeSection s)
      (fun e => s.home = none ∧ e = .unknownHome ∨ ∃ path, s.homeFile? = some path ∧ CannotTell s.look path e)
      (s.homeFile?.elim [] (sectionAt s.look)) (homeSection s) := by
  unfold HasHomeSection
  cases hhome : s.homeFile? with
  | none =>
    have hnone : s.home = none := Option.map_eq_none_iff.mp hhome
    rw [homeSection, hhome]
    exact .stopped (by simp) fun e => by simp [hnone]
  | some path =>
    have hsome : s.home ≠ none := fun hnone => by simp [Surroundings.homeFile?, hnone] at hhome
    rw [homeSection_eq hhome]
    exact (endsBy_optionalSection s.look path).congr (by simp) fun e => by simp [hsome]

theorem endsBy_explicitSection (look : String → Entry) (explicit : Option String) :
    EndsBy (∀ path ∈ explicit, HasSection look path ∧ (look path).exists = .ok true)
      (fun e => ∃ path, explicit = some path ∧ CannotTell look path e) (explicit.elim [] (sectionAt look))
      (explicitSection look explicit) := by
  cases explicit with
  | none => exact .ok (by simp) (by simp)
  | some path =>
    have hpath : (∀ p ∈ some path, HasSection look p ∧ (look p).exists = .ok true) ↔
        ∃ there, (look path).exists = .ok there ∧ there = true ∧ (sectionAt? look path).isSome = true := by
      simp only [Option.mem_some_iff, forall_eq', HasSection]
      constructor
      · rintro ⟨⟨there, hthere, hsection⟩, htrue⟩
        cases hthere.symm.trans htrue
        exact ⟨true, htrue, rfl, hsection rfl⟩
      · rintro ⟨there, hthere, rfl, hsection⟩
        exact ⟨⟨true, hthere, fun _ => hsection⟩, hthere⟩
    refine (endsBy_isThere fun there _ => ?_).congr hpath.symm fun e => by simp
    cases there with
    | true => exact (endsBy_fileSection look path).congr (by simp) fun _ => Iff.rfl
    | false => exact .fault (by simp) (fun _ => id) _

theorem endsBy_variableSection (environment : List (String × String)) :
    EndsBy (∀ key ∈ names, CanReadVariable environment key) never (Fields.ofKeys names (variableSets environment))
      (variableSection environment) := by
  have hvalue : Fields.ofKeys names (variableSets environment) =
      (names.map fun key => (variableSets environment key).map fun v => (key, v)).filterMap fun field => field := by
    rw [List.filterMap_map]
    rfl
  rw [variableSection, variableNames_eq, List.mapM_map, hvalue]
  refine EndsBy.congr (.bind (.mapM fun key _ => ?_) (.ok trivial fun _ => id)) (and_iff_left trivial)
    fun e => by simp [never]
  unfold CanReadVariable variableSets
  dsimp only [Function.comp]
  cases Fields.get? environment (variableOf key) with
  | none => exact .ok (by rintro text ⟨⟩) fun _ => id
  | some text =>
    rw [Option.bind_some]
    dsimp only
    cases hread : readVariable text (kindOf key) with
    | ok v => exact .ok (fun _ h => ⟨v, by rw [← Option.some.inj h, hread]⟩) fun _ => id
    | error r =>
      refine .fault (fun h => ?_) (fun _ => id) _
      obtain ⟨v, hv⟩ := h text rfl
      cases hread.symm.trans hv

/-! ## Merging -/

/-- What is made of the three files, the variables and the overrides. -/
def merged (s : Surroundings) (overrides home project named : List (String × Value)) : List (String × Value) :=
  [home, project, named, Fields.ofKeys names (variableSets s.environment), overrideSection overrides].foldl
    Fields.insertAll []

/-- What is gathered if everything can be read. -/
def gathered (s : Surroundings) (explicit : Option String) (overrides : List (String × Value)) : List (String × Value) :=
  merged s overrides (s.homeFile?.elim [] (sectionAt s.look)) (sectionAt s.look s.workFile)
    (explicit.elim [] (sectionAt s.look))

/-- Settings from what has been merged; a mismatch is a fault of the settings here. -/
def ofMerged (given : List (String × Value)) : Except Error Settings :=
  match of given with
  | .error (.mismatch m) => failLoading (.invalidArguments m)
  | outcome => outcome

/-- Gathers what settings are made of. -/
def gather (s : Surroundings) (explicit : Option String) (overrides : List (String × Value)) :
    Except Error (List (String × Value)) := do
  let home ← homeSection s
  let project ← optionalSection s.look s.workFile
  let named ← explicitSection s.look explicit
  let fromVariables ← variableSection s.environment
  return [home, project, named, fromVariables, overrideSection overrides].foldl Fields.insertAll []

theorem load_eq (s : Surroundings) (explicit : Option String) (overrides : List (String × Value)) :
    load s explicit overrides = gather s explicit overrides >>= ofMerged := by
  simp only [load, gather, bind_assoc, pure_bind]
  rfl

theorem canGather_iff {s : Surroundings} {explicit : Option String} :
    CanGather s explicit ↔ HasHomeSection s ∧ HasSection s.look s.workFile ∧
      (∀ path ∈ explicit, HasSection s.look path ∧ (s.look path).exists = .ok true) ∧
      ∀ key ∈ names, CanReadVariable s.environment key := by
  constructor
  · rintro ⟨hhome, hfiles, hnamed, henvironment⟩
    obtain ⟨home, hhome⟩ := Option.isSome_iff_exists.mp hhome
    have hpath : s.homeFile? = some (Text.childPath home ".qualytics.toml") := by rw [Surroundings.homeFile?, hhome]; rfl
    refine ⟨⟨_, hpath, hfiles _ (by simp [places, hpath])⟩, hfiles _ (by simp [places]), fun path h => ?_, henvironment⟩
    exact ⟨hfiles path (by simp [places, Option.mem_def.mp h]), hnamed path h⟩
  · rintro ⟨⟨path, hpath, hhome⟩, hwork, hnamed, henvironment⟩
    refine ⟨?_, ?_, fun path h => (hnamed path h).2, henvironment⟩
    · cases hsome : s.home with
      | none => simp [Surroundings.homeFile?, hsome] at hpath
      | some _ => rfl
    · simp only [places, hpath, Option.toList_some, List.mem_append, List.mem_singleton, Option.mem_toList]
      rintro file ((rfl | rfl) | h)
      · exact hhome
      · exact hwork
      · exact (hnamed file h).1

theorem stops_iff {s : Surroundings} {explicit : Option String} {e : Error} :
    Stops s explicit e ↔
      (s.home = none ∧ e = .unknownHome ∨ ∃ path, s.homeFile? = some path ∧ CannotTell s.look path e) ∨
      HasHomeSection s ∧ (CannotTell s.look s.workFile e ∨
        HasSection s.look s.workFile ∧ ∃ path, explicit = some path ∧ CannotTell s.look path e) := by
  constructor
  · rintro (h | ⟨hhome, h⟩ | ⟨hhome, hsection, h⟩ | ⟨hhome, hsection, hwork, hpath, h⟩)
    · exact .inl (.inl ⟨h, rfl⟩)
    · exact .inl (.inr ⟨_, hhome, h⟩)
    · exact .inr ⟨⟨_, hhome, hsection⟩, .inl h⟩
    · exact .inr ⟨⟨_, hhome, hsection⟩, .inr ⟨hwork, _, hpath, h⟩⟩
  · rintro ((⟨h, rfl⟩ | ⟨path, hhome, h⟩) | ⟨⟨path, hhome, hsection⟩, h | ⟨hwork, path, hpath, h⟩⟩)
    · exact .home h
    · exact .homeFile hhome h
    · exact .workFile hhome hsection h
    · exact .named hhome hsection hwork hpath h

theorem endsBy_gather (s : Surroundings) (explicit : Option String) (overrides : List (String × Value)) :
    EndsBy (CanGather s explicit) (Stops s explicit) (gathered s explicit overrides) (gather s explicit overrides) := by
  unfold gather
  refine EndsBy.congr ((endsBy_homeSection s).bind ((endsBy_optionalSection s.look s.workFile).bind
    ((endsBy_explicitSection s.look explicit).bind ((endsBy_variableSection s.environment).bind
      (.ok trivial fun _ => id))))) ?_ fun e => ?_
  · rw [canGather_iff, and_true]
  · rw [stops_iff]
    simp [never]

theorem load_of_canGather {s : Surroundings} {explicit : Option String} (overrides : List (String × Value))
    (h : CanGather s explicit) : load s explicit overrides = ofMerged (gathered s explicit overrides) := by
  rw [load_eq, (endsBy_gather s explicit overrides).eq_ok h]
  rfl

theorem load_of_stops {s : Surroundings} {explicit : Option String} (overrides : List (String × Value)) {e : Error}
    (h : Stops s explicit e) : load s explicit overrides = .error e := by
  rw [load_eq, (endsBy_gather s explicit overrides).eq_error h]
  rfl

theorem not_stops_of_canGather {s : Surroundings} {explicit : Option String} {e : Error} (h : CanGather s explicit) :
    ¬Stops s explicit e := by
  have hends := endsBy_gather s explicit []
  intro hstops
  cases (hends.eq_ok h).symm.trans (hends.eq_error hstops)

theorem load_of_not_canGather {s : Surroundings} {explicit : Option String} (overrides : List (String × Value))
    (h : ¬CanGather s explicit) (hnone : ∀ e, ¬Stops s explicit e) :
    ∃ fault, load s explicit overrides = failLoading fault := by
  obtain ⟨fault, hfault⟩ := (endsBy_gather s explicit overrides).exists_fault h hnone
  exact ⟨fault, by rw [load_eq, hfault]; rfl⟩

/-! ## The values that count -/

/-- The value of the first source that sets a setting. -/
def countingValue (s : Surroundings) (explicit : Option String) (overrides : List (String × Value)) (key : String) :
    Option Value :=
  (sources s explicit overrides key).findSome? id

theorem valueOf_merged {s : Surroundings} {explicit : Option String} {overrides home project named : List (String × Value)}
    (hnodup : (Fields.keys overrides).Nodup) (hhome : IsSectionOf home (s.homeFile?.bind (tableAt? s.look)))
    (hproject : IsSectionOf project (tableAt? s.look s.workFile))
    (hnamed : IsSectionOf named (explicit.bind (tableAt? s.look))) {key : String} (hkey : key ∈ names) :
    valueOf (merged s overrides home project named) key = countingValue s explicit overrides key :=
  get?_sections hnodup hhome hproject hnamed hkey

/-! ## The first unknown name -/

/-- The overrides that stand for themselves: neither flags nor nulls. -/
def plainOverrides (overrides : List (String × Value)) : List (String × Value) :=
  overrides.filter fun (key, v) => key != "verbose" && key != "quiet" && !(v matches .null)

/-- The names that are given, in the order in which they are merged: those of the files, the one that counts least first,
and those of the overrides. Variables are looked up by the names of settings. -/
def givenNames (s : Surroundings) (explicit : Option String) (overrides : List (String × Value)) : List String :=
  ((places s explicit).flatMap fun path => Fields.keys (sectionAt s.look path)) ++ Fields.keys (plainOverrides overrides)

theorem find?_keys_insertAll (fields others : List (String × Value)) (p : String → Bool) :
    (Fields.keys (Fields.insertAll fields others)).find? p = (Fields.keys fields ++ Fields.keys others).find? p := by
  induction others generalizing fields with
  | nil => rw [Fields.insertAll, List.foldl_nil, Fields.keys, Fields.keys, List.map_nil, List.append_nil]
  | cons field rest ih =>
    obtain ⟨key, v⟩ := field
    refine (ih (Fields.insert fields key v)).trans ?_
    rw [Fields.keys_insert]
    split
    · next hkey =>
      -- a key that is there already is not the first to be found
      simp only [List.find?_append, Fields.keys, List.map_cons, List.find?_cons]
      cases hfind : List.find? p (fields.map (·.1)) with
      | some found => rfl
      | none =>
        have hp := List.find?_eq_none.mp hfind key hkey
        rw [Bool.not_eq_true] at hp
        rw [hp]
    · rw [List.append_assoc]
      rfl

theorem find?_keys_foldl_insertAll (sections : List (List (String × Value))) (before : List (String × Value))
    (p : String → Bool) :
    (Fields.keys (sections.foldl Fields.insertAll before)).find? p =
      (Fields.keys before ++ sections.flatMap Fields.keys).find? p := by
  induction sections generalizing before with
  | nil => rw [List.foldl_nil, List.flatMap_nil, List.append_nil]
  | cons fields rest ih =>
    rw [List.foldl_cons, ih, List.find?_append, find?_keys_insertAll, ← List.find?_append, List.append_assoc,
      List.flatMap_cons]

/-- Writing a field that is not kept is not seen among those that are. -/
theorem filter_insert {keep : String × Value → Bool} {key : String} (hkeep : ∀ v, keep (key, v) = false)
    (fields : List (String × Value)) (value : Value) : (Fields.insert fields key value).filter keep = fields.filter keep := by
  induction fields with
  | nil => simp [Fields.insert, hkeep]
  | cons field rest ih =>
    obtain ⟨k, v⟩ := field
    rw [Fields.insert]
    split
    · next hk =>
      subst hk
      simp [hkeep]
    · rw [List.filter_cons, List.filter_cons, ih]

theorem filter_applyFlag {overrides : List (String × Value)} (hnodup : (Fields.keys overrides).Nodup)
    (flag verbosity : String) {keep : String × Value → Bool} (hkeep : ∀ v, keep ("verbosity", v) = false) :
    (applyFlag overrides flag verbosity).filter keep = overrides.filter fun field => keep field && field.1 != flag := by
  rw [applyFlag]
  split
  · next hnone =>
    refine List.filter_congr fun field hfield => ?_
    have hne : field.1 ≠ flag := by
      rintro rfl
      cases hnone.symm.trans (Fields.get?_of_mem hnodup hfield)
    simp [hne]
  · rw [List.filter_filter]
    split
    · exact filter_insert (fun v => by simp [hkeep]) overrides _
    · rfl

theorem find?_keys_overrideSection {overrides : List (String × Value)} (hnodup : (Fields.keys overrides).Nodup) :
    (Fields.keys (overrideSection overrides)).find? isUnknown =
      (Fields.keys (plainOverrides overrides)).find? isUnknown := by
  rw [find?_keys, find?_keys, ← List.head?_filter, ← List.head?_filter, overrideSection, plainOverrides,
    List.filter_filter, filter_applyFlag (applyFlag_nodup hnodup _ _), filter_applyFlag hnodup, List.filter_filter]
  · refine congrArg (fun fields => Option.map Prod.fst (List.head? fields)) (List.filter_congr fun field _ => ?_)
    obtain ⟨key, v⟩ := field
    cases v <;> simp [Bool.and_comm, Bool.and_left_comm, Bool.and_assoc]
  · exact fun v => by simp [isUnknown, names]
  · exact fun v => by simp [isUnknown, names]

theorem isUnknown_eq_false {key : String} : isUnknown key = false ↔ key ∈ names := by
  rw [isUnknown, Bool.not_eq_false', List.contains_iff_mem]

theorem find?_keys_merged (s : Surroundings) {overrides : List (String × Value)}
    (hnodup : (Fields.keys overrides).Nodup) (home project named : List (String × Value)) :
    (Fields.keys (merged s overrides home project named)).find? isUnknown =
      ((Fields.keys home ++ Fields.keys project ++ Fields.keys named) ++ Fields.keys (plainOverrides overrides)).find?
        isUnknown := by
  have hvariables : (Fields.keys (Fields.ofKeys names (variableSets s.environment))).find? isUnknown = none := by
    rw [Fields.keys_ofKeys]
    refine List.find?_eq_none.mpr fun key hkey => ?_
    rw [isUnknown_eq_false.mpr (List.mem_of_mem_filter hkey)]
    exact Bool.false_ne_true
  rw [merged, find?_keys_foldl_insertAll]
  simp only [List.flatMap_cons, List.flatMap_nil, List.append_nil, List.find?_append, hvariables,
    find?_keys_overrideSection hnodup, Option.none_or, Option.or_assoc]
  rfl

theorem find?_givenNames (s : Surroundings) (explicit : Option String) {overrides : List (String × Value)}
    (hnodup : (Fields.keys overrides).Nodup) :
    (givenNames s explicit overrides).find? isUnknown =
      (Fields.keys (gathered s explicit overrides)).find? isUnknown := by
  rw [gathered, find?_keys_merged s hnodup, givenNames, places]
  cases s.homeFile? <;> cases explicit <;> simp [Fields.keys]

/-! ## Files with other values -/

/-- Files that are refused alike or hold the same names, whatever their values. -/
structure SameNames (look look' : String → Entry) : Prop where
  exists_eq (path : String) : (look' path).exists = (look path).exists
  sections (path : String) : Outcome.Rel (fun fields fields' => Fields.keys fields = Fields.keys fields')
    (fileSection look path) (fileSection look' path)

/-- Sources that agree down to one that sets the setting. -/
def AgreeDown (sources sources' : List (Option Value)) : Prop :=
  ∃ above below below', sources = above ++ below ∧ sources' = above ++ below' ∧ ∃ v, some v ∈ above

theorem AgreeDown.findSome? {sources sources' : List (Option Value)} (h : AgreeDown sources sources') :
    sources.findSome? id = sources'.findSome? id := by
  obtain ⟨above, below, below', rfl, rfl, v, hv⟩ := h
  have hsome : (above.findSome? id).isSome = true := List.findSome?_isSome_iff.mpr ⟨some v, hv, rfl⟩
  obtain ⟨w, hw⟩ := Option.isSome_iff_exists.mp hsome
  rw [List.findSome?_append, List.findSome?_append, hw, Option.some_or, Option.some_or]

/-- Sections that hold the same names, each as its table sets them. -/
structure SameSections (table table' : Option (List (String × Value))) (fields fields' : List (String × Value)) : Prop where
  keys : Fields.keys fields = Fields.keys fields'
  isSectionOf : IsSectionOf fields table
  isSectionOf' : IsSectionOf fields' table'

section SameNames

variable {look look' : String → Entry} (h : SameNames look look')

include h

theorem SameNames.isThere_eq (path : String) : isThere look' path = isThere look path := by
  rw [isThere, isThere, h.exists_eq]

theorem rel_fileSection (path : String) : Outcome.Rel (SameSections (tableAt? look path) (tableAt? look' path))
    (fileSection look path) (fileSection look' path) := by
  obtain ⟨e, he, he'⟩ | ⟨fields, fields', hfields, hfields', hkeys⟩ := (h.sections path).error_or_ok
  · rw [he, he']
    exact .error e
  · rw [hfields, hfields']
    exact .ok ⟨hkeys, fileSection_isSectionOf hfields, fileSection_isSectionOf hfields'⟩

theorem rel_optionalSection (path : String) : Outcome.Rel (SameSections (tableAt? look path) (tableAt? look' path))
    (optionalSection look path) (optionalSection look' path) := by
  rw [optionalSection, optionalSection, h.isThere_eq]
  cases hthere : isThere look path with
  | error e => exact .error e
  | ok there => cases there with
    | true => exact rel_fileSection h path
    | false =>
      rw [isThere_eq_ok] at hthere
      rw [tableAt?_of_not_exists hthere, tableAt?_of_not_exists ((h.exists_eq path).trans hthere)]
      exact .ok ⟨rfl, .nil, .nil⟩

theorem rel_explicitSection (explicit : Option String) :
    Outcome.Rel (SameSections (explicit.bind (tableAt? look)) (explicit.bind (tableAt? look')))
      (explicitSection look explicit) (explicitSection look' explicit) := by
  cases explicit with
  | none => exact .ok ⟨rfl, .nil, .nil⟩
  | some path =>
    rw [explicitSection, explicitSection, h.isThere_eq]
    cases isThere look path with
    | error e => exact .error e
    | ok there => cases there with
      | true => exact rel_fileSection h path
      | false => exact .error _

end SameNames

theorem rel_homeSection {s : Surroundings} {look' : String → Entry} (h : SameNames s.look look') :
    Outcome.Rel (SameSections (s.homeFile?.bind (tableAt? s.look)) (s.homeFile?.bind (tableAt? look')))
      (homeSection s) (homeSection { s with look := look' }) := by
  have hsame : Surroundings.homeFile? { s with look := look' } = s.homeFile? := rfl
  cases hhome : s.homeFile? with
  | none =>
    rw [homeSection, homeSection, hsame, hhome]
    exact .error _
  | some path =>
    rw [homeSection_eq hhome, homeSection_eq (hsame.trans hhome)]
    exact rel_optionalSection h path

/-- Values that do not count may be changed. -/
theorem load_congr {s : Surroundings} {look' : String → Entry} {explicit : Option String}
    {overrides : List (String × Value)} (hnodup : (Fields.keys overrides).Nodup) (h : SameNames s.look look')
    (hvalues : ∀ key ∈ names, countingValue { s with look := look' } explicit overrides key =
      countingValue s explicit overrides key) :
    load { s with look := look' } explicit overrides = load s explicit overrides := by
  refine Eq.symm (Outcome.Rel.eq ?_)
  -- The sections of both machines are read side by side, with the same names in each pair.
  refine (rel_homeSection h).bind fun home home' hhome => ?_
  refine (rel_optionalSection h _).bind fun project project' hproject => ?_
  refine (rel_explicitSection h explicit).bind fun named named' hnamed => ?_
  refine (Outcome.Rel.refl (variableSection s.environment)).and_eq.bind fun found found' hfound => ?_
  obtain ⟨rfl, hfound, -⟩ := hfound
  rw [variableSection_eq hfound]
  have hof : of (merged s overrides home project named) =
      of (merged { s with look := look' } overrides home' project' named') := by
    refine of_congr ?_ fun key hkey => ?_
    · rw [find?_keys_merged _ hnodup, find?_keys_merged _ hnodup, hhome.keys, hproject.keys, hnamed.keys]
    · rw [valueOf_merged hnodup hhome.isSectionOf hproject.isSectionOf hnamed.isSectionOf hkey, ← hvalues key hkey]
      exact (valueOf_merged hnodup hhome.isSectionOf' hproject.isSectionOf' hnamed.isSectionOf' hkey).symm
  change Outcome.Rel Eq (ofMerged (merged s overrides home project named))
    (ofMerged (merged { s with look := look' } overrides home' project' named'))
  rw [ofMerged, ofMerged, hof]
  exact .refl _

/-! ## Loading -/

/-- What an unknown name is refused with. -/
def refusal (key : String) : Mismatch := if key = ownName then .repeatedArgument key else .unknownArgument key

/-- The messages of refusals, up to the name. -/
def refusalTexts : List String :=
  [ "AnalysisConfig.__init__() got an unexpected keyword argument '"
  , "AnalysisConfig.__init__() got multiple values for argument '" ]

/-- Settings can be loaded: everything can be read, all names are known and the values that count are valid. -/
structure Loadable (s : Surroundings) (explicit : Option String) (overrides : List (String × Value)) : Prop where
  canGather : CanGather s explicit
  known : ∀ key ∈ givenNames s explicit overrides, key ∈ names
  valid : ∀ key ∈ names, ∀ v, countingValue s explicit overrides key = some v → IsValid key v

theorem find?_isUnknown_eq_none {keys : List String} : keys.find? isUnknown = none ↔ ∀ key ∈ keys, key ∈ names := by
  simp only [List.find?_eq_none, Bool.not_eq_true, isUnknown_eq_false]

section Loading

variable {s : Surroundings} {explicit : Option String} {overrides : List (String × Value)}
  (hnodup : (Fields.keys overrides).Nodup)

include hnodup

/-- The first unknown name is refused, before any value is looked at. -/
theorem load_unknown (h : CanGather s explicit) {key : String}
    (hkey : (givenNames s explicit overrides).find? isUnknown = some key) :
    load s explicit overrides = failLoading (.invalidArguments (refusal key)) := by
  rw [find?_givenNames s explicit hnodup] at hkey
  rw [load_of_canGather overrides h, ofMerged, of_unknown hkey]
  rfl

/-- With known names only, loading succeeds if the values that count are valid, and else fails for one that is not. -/
theorem load_known (h : CanGather s explicit) (hkeys : ∀ key ∈ givenNames s explicit overrides, key ∈ names) :
    ((∃ settings, load s explicit overrides = .ok settings) ∧ Loadable s explicit overrides) ∨
    ∃ key ∈ names, ∃ v, countingValue s explicit overrides key = some v ∧ ¬IsValid key v ∧
      ((∃ m, load s explicit overrides = failLoading (.invalidArguments m)) ∨
        ∃ reason, load s explicit overrides = invalid key v reason) := by
  obtain ⟨hhome, hwork, hnamed, -⟩ := canGather_iff.mp h
  replace hhome := homeSection_isSectionOf ((endsBy_homeSection s).eq_ok hhome)
  replace hwork := optionalSection_isSectionOf ((endsBy_optionalSection s.look s.workFile).eq_ok hwork)
  replace hnamed := explicitSection_isSectionOf ((endsBy_explicitSection s.look explicit).eq_ok hnamed)
  -- Every section has what its table sets, so that the merged values are the ones that count.
  have hvalue : ∀ {key : String}, key ∈ names →
      valueOf (gathered s explicit overrides) key = countingValue s explicit overrides key :=
    fun hkey => valueOf_merged hnodup hhome hwork hnamed hkey
  have hjudges := judges_of ((find?_givenNames s explicit hnodup).symm.trans (find?_isUnknown_eq_none.mpr hkeys))
  rw [load_of_canGather overrides h, ofMerged]
  generalize of (gathered s explicit overrides) = outcome at hjudges ⊢
  cases hjudges with
  | ok hvalid settings =>
    refine .inl ⟨⟨settings, rfl⟩, h, hkeys, fun key hkey v hv => hvalid key hkey v ?_⟩
    rw [hvalue hkey, hv]
  | mismatch hkey hv hnot m => exact .inr ⟨_, hkey, _, (hvalue hkey).symm.trans hv, hnot, .inl ⟨m, rfl⟩⟩
  | @invalid key v hkey hv hnot reason =>
    refine .inr ⟨key, hkey, v, (hvalue hkey).symm.trans hv, hnot, .inr ⟨reason, ?_⟩⟩
    rw [invalid]
    cases v.isWritable <;> rfl

theorem exists_load_iff : (∃ settings, load s explicit overrides = .ok settings) ↔ Loadable s explicit overrides := by
  constructor
  · rintro ⟨settings, hload⟩
    obtain ⟨given, hgiven, -⟩ := Outcome.bind_eq_ok.mp ((load_eq s explicit overrides).symm.trans hload)
    have hgather : CanGather s explicit := by
      generalize houtcome : gather s explicit overrides = outcome at hgiven
      have hends := endsBy_gather s explicit overrides
      rw [houtcome, hgiven] at hends
      cases hends with
      | ok h _ => exact h
    cases hunknown : (givenNames s explicit overrides).find? isUnknown with
    | some key => cases hload.symm.trans (load_unknown hnodup hgather hunknown)
    | none =>
      obtain ⟨-, hloadable⟩ | ⟨key, -, v, -, -, ⟨m, hfail⟩ | ⟨reason, hfail⟩⟩ :=
        load_known hnodup hgather (find?_isUnknown_eq_none.mp hunknown)
      · exact hloadable
      · cases hload.symm.trans hfail
      · cases hload.symm.trans hfail
  · intro h
    obtain ⟨hload, -⟩ | ⟨key, hkey, v, hv, hnot, -⟩ := load_known hnodup h.canGather h.known
    · exact hload
    · exact absurd (h.valid key hkey v hv) hnot

/-- What cannot be loaded and is not stopped ends in a fault of the settings or in a value that is not valid. -/
theorem load_of_not_loadable (h : ¬Loadable s explicit overrides) (hnone : ∀ e, ¬Stops s explicit e) :
    (∃ fault, load s explicit overrides = failLoading fault) ∨
    ∃ key ∈ names, ∃ v reason, countingValue s explicit overrides key = some v ∧ ¬IsValid key v ∧
      load s explicit overrides = invalid key v reason := by
  by_cases hgather : CanGather s explicit
  · cases hunknown : (givenNames s explicit overrides).find? isUnknown with
    | some key => exact .inl ⟨_, load_unknown hnodup hgather hunknown⟩
    | none =>
      obtain ⟨-, hloadable⟩ | ⟨key, hkey, v, hv, hnot, ⟨m, hfail⟩ | ⟨reason, hfail⟩⟩ :=
        load_known hnodup hgather (find?_isUnknown_eq_none.mp hunknown)
      · exact absurd hloadable h
      · exact .inl ⟨_, hfail⟩
      · exact .inr ⟨key, hkey, v, reason, hv, hnot, hfail⟩
  · exact .inl (load_of_not_canGather overrides hgather hnone)

/-- An unknown name is not made good for by anything else. -/
theorem load_of_mem_unknown {key : String} (hkey : key ∈ givenNames s explicit overrides) (hunknown : key ∉ names)
    (hnone : ∀ e, ¬Stops s explicit e) : ∃ fault, load s explicit overrides = failLoading fault := by
  by_cases hgather : CanGather s explicit
  · obtain ⟨first, hfirst⟩ := Option.ne_none_iff_exists'.mp fun hnone =>
      hunknown (find?_isUnknown_eq_none.mp hnone key hkey)
    exact ⟨_, load_unknown hnodup hgather hfirst⟩
  · exact load_of_not_canGather overrides hgather hnone

/-- **When settings can be loaded, and how it ends when they cannot.** They are loaded exactly if everything can be read,
all names are known and the values that count are valid. What stops loading before a file is read is passed on as it is.
Otherwise, as long as the values that count can be written out, loading ends in a fault of the settings, or refuses one of
these values, and in no other way. A value in a file does not matter if a source above the file sets the setting, but an
unknown name always does, and the first of them is named. -/
theorem load_outcomes :
    ((∃ settings, load s explicit overrides = .ok settings) ↔ Loadable s explicit overrides) ∧
    (∀ e, Stops s explicit e → load s explicit overrides = .error e) ∧
    ((∀ key ∈ names, ∀ v, countingValue s explicit overrides key = some v → v.isWritable = true) →
      ¬Loadable s explicit overrides → (∀ e, ¬Stops s explicit e) →
      (∃ fault, load s explicit overrides = .error (.problem (.settings fault))) ∨
      ∃ key ∈ names, ∃ v reason, countingValue s explicit overrides key = some v ∧ ¬IsValid key v ∧
        load s explicit overrides = .error (.problem (.invalidSetting key v reason))) ∧
    (∀ look', SameNames s.look look' →
      (∀ key ∈ names, AgreeDown (sources s explicit overrides key)
        (sources { s with look := look' } explicit overrides key)) →
      load { s with look := look' } explicit overrides = load s explicit overrides) ∧
    (∀ key ∈ givenNames s explicit overrides, key ∉ names → (∀ e, ¬Stops s explicit e) →
      ∃ fault, load s explicit overrides = .error (.problem (.settings fault))) ∧
    ∀ key, CanGather s explicit → (givenNames s explicit overrides).find? isUnknown = some key →
      load s explicit overrides = .error (.problem (.settings (.invalidArguments (refusal key)))) ∧
      ∃ before ∈ refusalTexts, (refusal key).message = before ++ key ++ "'" := by
  refine ⟨exists_load_iff hnodup, fun e => load_of_stops overrides, fun hwritable hnot hnone => ?_,
    fun look' hnames hagree => ?_, fun key => load_of_mem_unknown hnodup,
    fun key hgather hkey => ⟨load_unknown hnodup hgather hkey, ?_⟩⟩
  · obtain hfault | ⟨key, hkey, v, reason, hv, hinvalid, hfail⟩ := load_of_not_loadable hnodup hnot hnone
    · exact .inl hfault
    · refine .inr ⟨key, hkey, v, reason, hv, hinvalid, hfail.trans ?_⟩
      rw [invalid, if_pos (hwritable key hkey v hv)]
  · exact load_congr hnodup hnames fun key hkey => (hagree key hkey).findSome?.symm
  · rw [refusal]
    split
    · exact ⟨_, List.mem_cons_of_mem _ List.mem_cons_self, rfl⟩
    · exact ⟨_, List.mem_cons_self, rfl⟩

end Loading

/-! The machine with a file in each place, whose file in the home directory is spoilt where it does not count. -/

/-- Its policy is no policy, and its log file is fine. -/
def spoiltFile : List Nat := latinBytes "inheritance_cycle_policy = \"none\"\nlog_file = \"home.log\"\n"

def spoilt (path : String) : Entry :=
  if path = "/home/user/.qualytics.toml" then .file spoiltFile else furnished.look path

theorem readBytes_spoiltFile : Toml.readBytes spoiltFile =
    .ok [("inheritance_cycle_policy", .str "none"), ("log_file", .str "home.log")] := by
  cbv

theorem look_furnished : furnished.look "/home/user/.qualytics.toml" = .file homeFile := by simp [furnished]

theorem spoilt_home : spoilt "/home/user/.qualytics.toml" = .file spoiltFile := if_pos rfl

theorem sameNames_spoilt : SameNames furnished.look spoilt := by
  constructor
  · intro path
    by_cases hpath : path = "/home/user/.qualytics.toml"
    · rw [hpath, look_furnished, spoilt_home, Entry.exists, Entry.exists]
    · rw [spoilt, if_neg hpath]
  · intro path
    by_cases hpath : path = "/home/user/.qualytics.toml"
    · rw [hpath, fileSection_file look_furnished readBytes_homeFile, fileSection_file spoilt_home readBytes_spoiltFile]
      exact .ok rfl
    · have hsame : fileSection spoilt path = fileSection furnished.look path := by
        rw [fileSection, fileSection, spoilt, if_neg hpath]
      rw [hsame]
      cases fileSection furnished.look path with
      | ok fields => exact .ok rfl
      | error e => exact .error e

theorem tableAt?_file {look : String → Entry} {path : String} {bytes : List Nat} {table : List (String × Value)}
    (hentry : look path = .file bytes) (hread : Toml.readBytes bytes = .ok table) : tableAt? look path = some table := by
  rw [tableAt?, hentry]
  exact congrArg Except.toOption hread

theorem tableAt?_spoilt (path : String) (h : path ≠ "/home/user/.qualytics.toml") :
    tableAt? spoilt path = tableAt? furnished.look path := by
  rw [tableAt?, tableAt?, spoilt, if_neg h]

/-- What counts more than the file in the home directory. -/
def aboveHome (key : String) : List (Option Value) :=
  [ overrideSets furnishedOverrides key
  , variableSets furnished.environment key
  , (tableAt? furnished.look "named.toml").bind (tableSets · key)
  , (tableAt? furnished.look furnished.workFile).bind (tableSets · key) ]

theorem homeFile?_furnished : furnished.homeFile? = some "/home/user/.qualytics.toml" := rfl

theorem sources_furnished (key : String) : sources furnished (some "named.toml") furnishedOverrides key =
    aboveHome key ++ [tableSets [("inheritance_cycle_policy", .str "zero"), ("log_file", .str "home.log")] key,
      Fields.get? default.toFields key] := by
  have hhome := tableAt?_file look_furnished readBytes_homeFile
  simp only [sources, aboveHome, homeFile?_furnished, hhome, Option.bind_some, List.cons_append, List.nil_append]

theorem sources_spoilt (key : String) :
    sources { furnished with look := spoilt } (some "named.toml") furnishedOverrides key =
      aboveHome key ++ [tableSets [("inheritance_cycle_policy", .str "none"), ("log_file", .str "home.log")] key,
        Fields.get? default.toFields key] := by
  have hpath : Surroundings.homeFile? { furnished with look := spoilt } = some "/home/user/.qualytics.toml" := by
    rw [Surroundings.homeFile?]
    rfl
  have hplace : Surroundings.workFile { furnished with look := spoilt } = furnished.workFile := by
    rw [Surroundings.workFile, Surroundings.workFile]
  have hhome := tableAt?_file spoilt_home readBytes_spoiltFile
  have hnamed := tableAt?_spoilt "named.toml" (by decide)
  have hwork := tableAt?_spoilt furnished.workFile (by decide +kernel)
  simp only [sources, aboveHome, hpath, hplace, hhome, hnamed, hwork, Option.bind_some, List.cons_append, List.nil_append]

theorem agreeDown_spoilt : ∀ key ∈ names, AgreeDown (sources furnished (some "named.toml") furnishedOverrides key)
    (sources { furnished with look := spoilt } (some "named.toml") furnishedOverrides key) := by
  intro key hkey
  rw [sources_furnished, sources_spoilt]
  by_cases hpolicy : key = "inheritance_cycle_policy"
  · subst hpolicy
    have hnamed : tableAt? furnished.look "named.toml" = _ := tableAt?_file (by simp [furnished]) readBytes_namedFile
    refine ⟨aboveHome _, _, _, rfl, rfl, .str "raise", ?_⟩
    rw [aboveHome, hnamed]
    exact List.mem_cons_of_mem _ (List.mem_cons_of_mem _ List.mem_cons_self)
  · have hsame : tableSets [("inheritance_cycle_policy", .str "zero"), ("log_file", .str "home.log")] key =
        tableSets [("inheritance_cycle_policy", .str "none"), ("log_file", .str "home.log")] key := by
      simp [tableSets, Fields.get?, Ne.symm hpolicy]
    have hdefault : ∀ key ∈ names, (Fields.get? default.toFields key).isSome := by decide
    obtain ⟨v, hv⟩ := Option.isSome_iff_exists.mp (hdefault key hkey)
    rw [hsame, hv]
    exact ⟨_, [], [], (List.append_nil _).symm, (List.append_nil _).symm, v, by simp⟩

/-! A machine without files, whose home directory has a name that no file system takes. -/

def farHome : String := "/" ++ String.ofList (List.replicate 300 'a')

def farFile : String := farHome ++ "/.qualytics.toml"

def bare : Surroundings :=
  { look := fun path => if path = farFile then .nameTooLong else .absent
    home := some farHome
    work := "/work"
    environment := []
    columns := 80
    time := "2024-01-01T00:00:00" }

theorem stops_bare : Stops bare none (.file .nameTooLong farFile) :=
  .homeFile (by decide +kernel) ⟨.nameTooLong, by simp [bare, Entry.exists], rfl⟩

/-- The spoilt machine has the settings of the other; a name that is no setting's is refused; and on the bare machine
loading is stopped. -/
theorem load_outcomes_of_furnished :
    Loadable furnished (some "named.toml") furnishedOverrides ∧
    load { furnished with look := spoilt } (some "named.toml") furnishedOverrides = .ok furnishedSettings ∧
    (∃ fault, load furnished (some "named.toml") [("decimal", .int 3)] = .error (.problem (.settings fault))) ∧
    load bare none [] = .error (.file .nameTooLong farFile) := by
  obtain ⟨hiff, -, -, hmask, -⟩ := @load_outcomes furnished (some "named.toml") furnishedOverrides (by decide)
  obtain ⟨-, -, -, -, hunknown, -⟩ := @load_outcomes furnished (some "named.toml") [("decimal", .int 3)] (by decide)
  obtain ⟨-, hstops, -⟩ := @load_outcomes bare none [] (by decide)
  have hloadable := hiff.mp ⟨_, load_furnished⟩
  refine ⟨hloadable, (hmask spoilt sameNames_spoilt agreeDown_spoilt).trans load_furnished,
    hunknown "decimal" ?_ (by decide) ?_, hstops _ stops_bare⟩
  · exact List.mem_append_right _ List.mem_cons_self
  · exact fun e => not_stops_of_canGather hloadable.canGather

/-- No file is there, no variable and no override is set, and yet loading fails, and with no finding of the settings. -/
theorem bare_home_ends_loading :
    (∀ path bytes, bare.look path ≠ .file bytes) ∧ bare.environment = [] ∧
    load bare none [] = .error (.file .nameTooLong farFile) := by
  refine ⟨fun path bytes => ?_, rfl, load_of_stops [] stops_bare⟩
  unfold bare
  dsimp only
  split <;> simp

end CodeMetrics.Settings
