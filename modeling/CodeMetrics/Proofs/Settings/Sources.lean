import CodeMetrics.Proofs.Settings.Tables
import CodeMetrics.Settings.Sources
import Mathlib

/-!
# Which source a setting comes from

Settings are gathered by writing one source over another. Here each source is asked by itself what it sets a setting to,
if anything, and the gathered setting is what the first of them says, in the order of their priority (`sources`).

* `overrideSection_get?` — overrides, with the two flags that stand for a verbosity
* `variableSection_eq` — environment variables
* `fileSection_isSectionOf` — settings files, through their own table or their top level
* `get?_foldl_insertAll`, `get?_sections` — sections written one over the other
* `of_get?` — the settings that are made of the gathered values
-/

namespace CodeMetrics.Settings

/-! ## What each source sets -/

/-- Whether a flag is among the overrides and holds. -/
def isRaised (overrides : List (String × Value)) (flag : String) : Bool :=
  (Fields.get? overrides flag).any Value.truthy

/-- What the overrides set. Of the flags that stand for a verbosity, `quiet` comes before `verbose` and both before the
verbosity itself. -/
def overrideSets (overrides : List (String × Value)) (key : String) : Option Value :=
  if key = "verbosity" ∧ isRaised overrides "quiet" then some (.str "quiet")
  else if key = "verbosity" ∧ isRaised overrides "verbose" then some (.str "verbose")
  else (Fields.get? overrides key).filter fun v => !(v matches .null)

/-- The environment variable of a setting. -/
def variableOf (key : String) : String := "QUALYTICS_" ++ String.ofList (key.toList.map Char.toUpper)

/-- What the environment variable of a setting is read as. -/
def kindOf (key : String) : VariableKind :=
  if key = "workers" ∨ key = "decimals" then .integer else if key = "include_functions" then .truth else .text

/-- What the environment sets. -/
def variableSets (environment : List (String × String)) (key : String) : Option Value :=
  (Fields.get? environment (variableOf key)).bind fun text => (readVariable text (kindOf key)).toOption.join

/-- What the table of a file sets: only what stands in its `qualytics` table if it has one, and what stands at its top
level otherwise. -/
def tableSets (table : List (String × Value)) (key : String) : Option Value :=
  match Fields.get? table "qualytics" with
  | some own => own.field? key
  | none => Fields.get? table key

/-- The table that a file holds, if there is one under the path. -/
def tableAt? (look : String → Entry) (path : String) : Option (List (String × Value)) :=
  match look path with
  | .file bytes => (Toml.readBytes bytes).toOption
  | _ => none

/-- What each source sets, the one that counts most first. -/
def sources (s : Surroundings) (explicit : Option String) (overrides : List (String × Value)) (key : String) :
    List (Option Value) :=
  [ overrideSets overrides key
  , variableSets s.environment key
  , (explicit.bind (tableAt? s.look)).bind (tableSets · key)
  , (tableAt? s.look s.workFile).bind (tableSets · key)
  , (s.homeFile?.bind (tableAt? s.look)).bind (tableSets · key)
  , Fields.get? default.toFields key ]

/-! ## Overrides -/

/-- A flag that is raised is seen as a verbosity, and nothing else changes but the flag itself. -/
theorem applyFlag_get? (overrides : List (String × Value)) (verbosity : String) {flag key : String}
    (hkey : key ≠ flag) :
    Fields.get? (applyFlag overrides flag verbosity) key =
      if key = "verbosity" ∧ isRaised overrides flag then some (.str verbosity) else Fields.get? overrides key := by
  rw [applyFlag, isRaised]
  cases Fields.get? overrides flag with
  | none => simp
  | some v =>
    dsimp only
    rw [Fields.get?_filter_ne hkey]
    cases hv : v.truthy with
    | false => simp [hv]
    | true => simp [hv, Fields.get?_insert]

theorem applyFlag_nodup {overrides : List (String × Value)} (hnodup : (Fields.keys overrides).Nodup)
    (flag verbosity : String) : (Fields.keys (applyFlag overrides flag verbosity)).Nodup := by
  rw [applyFlag]
  split
  · exact hnodup
  · refine Fields.nodup_keys_filter ?_ _
    split
    · exact Fields.nodup_keys_insert hnodup _ _
    · exact hnodup

theorem overrideSection_nodup {overrides : List (String × Value)} (hnodup : (Fields.keys overrides).Nodup) :
    (Fields.keys (overrideSection overrides)).Nodup :=
  Fields.nodup_keys_filter (applyFlag_nodup (applyFlag_nodup hnodup _ _) _ _) _

/-- What overrides set, once flags are replaced and nulls are dropped. -/
theorem overrideSection_get? {overrides : List (String × Value)} (hnodup : (Fields.keys overrides).Nodup)
    {key : String} (hkey : key ∈ names) :
    Fields.get? (overrideSection overrides) key = overrideSets overrides key := by
  have hquiet : key ≠ "quiet" := by
    rintro rfl
    exact absurd hkey (by decide)
  have hverbose : key ≠ "verbose" := by
    rintro rfl
    exact absurd hkey (by decide)
  -- the first flag does not raise or lower the second
  have hsecond : isRaised (applyFlag overrides "verbose" "verbose") "quiet" = isRaised overrides "quiet" := by
    rw [isRaised, applyFlag_get? _ _ (by decide), if_neg (fun h => absurd h.1 (by decide)), isRaised]
  have hnodup' := applyFlag_nodup hnodup "verbose" "verbose"
  rw [overrideSection, Fields.get?_filter (applyFlag_nodup hnodup' _ _), applyFlag_get? _ _ hquiet, hsecond,
    applyFlag_get? _ _ hverbose, overrideSets]
  split
  · rfl
  · split
    · rfl
    · refine congrArg (fun keep => Option.filter keep (Fields.get? overrides key)) (funext fun v => ?_)
      cases v <;> rfl

/-! ## Environment variables -/

theorem variableNames_eq : variableNames = names.map fun key => (key, variableOf key, kindOf key) := by
  decide

theorem names_nodup : names.Nodup := by decide

/-- Variables that can all be read set what they say. -/
theorem variableSection_eq {environment : List (String × String)} {fields : List (String × Value)}
    (h : variableSection environment = .ok fields) : fields = Fields.ofKeys names (variableSets environment) := by
  rw [variableSection, variableNames_eq] at h
  obtain ⟨found, hfound, h⟩ := Outcome.bind_eq_ok.mp h
  cases h
  rw [Outcome.mapM_eq_ok, List.forall₂_map_left_iff] at hfound
  have hsame : found = names.map fun key => (variableSets environment key).map fun v => (key, v) := by
    rw [← List.forall₂_eq_eq_eq, List.forall₂_map_right_iff]
    refine hfound.flip.imp fun field key hfield => ?_
    dsimp only at hfield
    rw [variableSets]
    split at hfield
    · next hget =>
      cases hfield
      rw [hget]
      rfl
    · next text hget =>
      split at hfield
      · next v hv =>
        cases hfield
        rw [hget, Option.bind_some, hv]
        rfl
      · cases hfield
  rw [hsame, Fields.ofKeys, List.filterMap_map]
  rfl

/-! ## Files -/

/-- The settings of a file, each once, as its table sets them. -/
structure IsSectionOf (fields : List (String × Value)) (table : Option (List (String × Value))) : Prop where
  nodup : (Fields.keys fields).Nodup
  get? (key : String) : Fields.get? fields key = table.bind (tableSets · key)

theorem IsSectionOf.nil : IsSectionOf [] none := ⟨List.nodup_nil, fun _ => rfl⟩

/-- Settings that stand in the file's own table. -/
theorem isSectionOf_of_own {table own : List (String × Value)} (hdistinct : Toml.IsDistinct table)
    (h : Fields.get? table "qualytics" = some (.object own)) : IsSectionOf own (some table) := by
  have hown := hdistinct.get? h
  refine ⟨(Value.hasDistinctKeys_object.mp hown).1, fun key => ?_⟩
  rw [Option.bind_some, tableSets, h]
  rfl

/-- Settings that stand at the top level of the file. -/
theorem isSectionOf_self {table : List (String × Value)} (hdistinct : Toml.IsDistinct table)
    (h : Fields.get? table "qualytics" = none) : IsSectionOf table (some table) := by
  refine ⟨(Value.hasDistinctKeys_object.mp hdistinct).1, fun key => ?_⟩
  rw [Option.bind_some, tableSets, h]

/-- Where the settings stand in the table of a file. -/
theorem fileSection_file {look : String → Entry} {path : String} {bytes : List Nat} {table : List (String × Value)}
    (hentry : look path = .file bytes) (hread : Toml.readBytes bytes = .ok table) :
    fileSection look path = match Fields.get? table "qualytics" with
      | none => .ok table
      | some (.object own) => .ok own
      | some _ => failLoading (.invalidSection path) := by
  rw [fileSection, hentry]
  simp only [Entry.bytes, bind, Except.bind, hread]
  rfl

theorem optionalSection_file {look : String → Entry} {path : String} {bytes : List Nat}
    (hentry : look path = .file bytes) : optionalSection look path = fileSection look path := by
  rw [optionalSection, isThere, hentry]
  rfl

theorem explicitSection_file {look : String → Entry} {path : String} {bytes : List Nat}
    (hentry : look path = .file bytes) : explicitSection look (some path) = fileSection look path := by
  rw [explicitSection, isThere, hentry]
  rfl

theorem homeSection_eq {s : Surroundings} {path : String} (h : s.homeFile? = some path) :
    homeSection s = optionalSection s.look path := by
  rw [homeSection, h]

theorem fileSection_isSectionOf {look : String → Entry} {path : String} {fields : List (String × Value)}
    (h : fileSection look path = .ok fields) : IsSectionOf fields (tableAt? look path) := by
  rw [tableAt?]
  cases hentry : look path with
  | absent | directory | locked | hidden | blocked | nameTooLong =>
    rw [fileSection, hentry] at h
    cases h
  | file bytes =>
    dsimp only
    cases hread : Toml.readBytes bytes with
    | error cause =>
      rw [fileSection, hentry] at h
      simp only [Entry.bytes, bind, Except.bind, hread] at h
      cases h
    | ok table =>
      have hdistinct := Toml.readBytes_hasDistinctKeys hread
      rw [fileSection_file hentry hread] at h
      split at h
      · next hnone =>
        cases h
        exact isSectionOf_self hdistinct hnone
      · next own hown =>
        cases h
        exact isSectionOf_of_own hdistinct hown
      · cases h

theorem isThere_eq_ok {look : String → Entry} {path : String} {there : Bool} :
    isThere look path = .ok there ↔ (look path).exists = .ok there := by
  rw [isThere]
  cases (look path).exists with
  | ok found => simp [Except.mapError]
  | error fault => simp [Except.mapError]

theorem tableAt?_of_not_exists {look : String → Entry} {path : String} (h : (look path).exists = .ok false) :
    tableAt? look path = none := by
  rw [tableAt?]
  cases hentry : look path with
  | file bytes =>
    rw [hentry] at h
    cases h
  | _ => rfl

theorem optionalSection_isSectionOf {look : String → Entry} {path : String} {fields : List (String × Value)}
    (h : optionalSection look path = .ok fields) : IsSectionOf fields (tableAt? look path) := by
  obtain ⟨there, hthere, h⟩ := Outcome.bind_eq_ok.mp h
  cases there with
  | true => exact fileSection_isSectionOf h
  | false =>
    cases h
    rw [tableAt?_of_not_exists (isThere_eq_ok.mp hthere)]
    exact .nil

theorem explicitSection_isSectionOf {look : String → Entry} {explicit : Option String}
    {fields : List (String × Value)} (h : explicitSection look explicit = .ok fields) :
    IsSectionOf fields (explicit.bind (tableAt? look)) := by
  rw [explicitSection.eq_def] at h
  split at h
  · cases h
    exact .nil
  · obtain ⟨there, -, h⟩ := Outcome.bind_eq_ok.mp h
    cases there with
    | true => exact fileSection_isSectionOf h
    | false => cases h

theorem homeSection_isSectionOf {s : Surroundings} {fields : List (String × Value)} (h : homeSection s = .ok fields) :
    IsSectionOf fields (s.homeFile?.bind (tableAt? s.look)) := by
  cases hhome : s.homeFile? with
  | none =>
    rw [homeSection, hhome] at h
    cases h
  | some path =>
    rw [homeSection_eq hhome] at h
    exact optionalSection_isSectionOf h

/-! ## Checked values -/

theorem eq_ofNum_of_num? {v : Value} {n : Num} (h : v.num? = some n) : v = .ofNum n := by
  cases v with
  | bool b | int i | float x =>
    cases h
    rfl
  | _ => cases h

theorem eq_str_of_find? {α : Type} {choices : List α} {text : α → String} {v : Value} {choice : α}
    (h : choices.find? (fun c => v.str? == some (text c)) = some choice) : v = .str (text choice) := by
  have htext := List.find?_some h
  cases v with
  | str s => exact congrArg Value.str (Option.some.inj (beq_iff_eq.mp htext))
  | _ => cases htext

theorem eq_of_checkWorkers {v : Value} {workers : Option Num} (h : checkWorkers v = .ok workers) :
    v = workers.elim .null .ofNum := by
  rw [checkWorkers.eq_def] at h
  split at h
  · cases h
    rfl
  · split at h
    · cases h
    · next n hn =>
      split at h
      · cases h
      · cases h
        exact eq_ofNum_of_num? hn

theorem eq_of_checkPolicy {v : Value} {policy : CyclePolicy} (h : checkPolicy v = .ok policy) :
    v = .str policy.text := by
  rw [checkPolicy] at h
  split at h
  · next hfind =>
    cases h
    exact eq_str_of_find? hfind
  · cases h

theorem eq_of_checkVerbosity {v : Value} {verbosity : Verbosity} (h : checkVerbosity v = .ok verbosity) :
    v = .str verbosity.text := by
  rw [checkVerbosity] at h
  split at h
  · next hfind =>
    cases h
    exact eq_str_of_find? hfind
  · cases h

theorem eq_of_checkDecimals {v : Value} {decimals : Num} (h : checkDecimals v = .ok decimals) :
    v = .ofNum decimals := by
  rw [checkDecimals] at h
  split at h
  · cases h
  · next n hn =>
    split at h
    · cases h
      exact eq_ofNum_of_num? hn
    · cases h

/-- Checks change no value: settings have the values that are given, and their defaults otherwise. -/
theorem toFields_of {given : List (String × Value)} {settings : Settings} (h : of given = .ok settings) :
    settings.toFields = default.toFields.map fun field => (field.1, (Fields.get? given field.1).getD field.2) := by
  rw [of] at h
  split at h
  · cases h
  · obtain ⟨workers, hworkers, h⟩ := Outcome.bind_eq_ok.mp h
    obtain ⟨policy, hpolicy, h⟩ := Outcome.bind_eq_ok.mp h
    obtain ⟨verbosity, hverbosity, h⟩ := Outcome.bind_eq_ok.mp h
    obtain ⟨decimals, hdecimals, h⟩ := Outcome.bind_eq_ok.mp h
    cases h
    have hworkers := eq_of_checkWorkers hworkers
    have hpolicy := eq_of_checkPolicy hpolicy
    have hverbosity := eq_of_checkVerbosity hverbosity
    have hdecimals := eq_of_checkDecimals hdecimals
    simp only [toFields, default, List.map, CyclePolicy.text, Verbosity.text, Value.ofNum, hworkers, hpolicy, hverbosity,
      hdecimals]
    cases workers <;> rfl

theorem of_get? {given : List (String × Value)} {settings : Settings} (h : of given = .ok settings) {key : String}
    (hkey : key ∈ names) :
    Fields.get? settings.toFields key = (Fields.get? given key).or (Fields.get? default.toFields key) := by
  have hdefault : ∀ key ∈ names, (Fields.get? default.toFields key).isSome := by decide
  obtain ⟨fallback, hfallback⟩ := Option.isSome_iff_exists.mp (hdefault key hkey)
  rw [toFields_of h, Fields.get?_map fun key fallback => (Fields.get? given key).getD fallback, hfallback]
  cases Fields.get? given key <;> rfl

/-! ## All sources -/

/-- Sections written one over the other: the last one that has a key counts. -/
theorem get?_foldl_insertAll {sections : List (List (String × Value))}
    (h : ∀ fields ∈ sections, (Fields.keys fields).Nodup) (before : List (String × Value)) (key : String) :
    Fields.get? (sections.foldl Fields.insertAll before) key =
      (sections.reverse.findSome? (Fields.get? · key)).or (Fields.get? before key) := by
  induction sections generalizing before with
  | nil => rfl
  | cons fields rest ih =>
    obtain ⟨hfields, hrest⟩ := List.forall_mem_cons.mp h
    rw [List.foldl_cons, ih hrest, Fields.get?_insertAll hfields, List.reverse_cons, List.findSome?_append,
      Option.or_assoc]
    simp

/-- The sections that settings are gathered from. -/
theorem load_eq_ok {s : Surroundings} {explicit : Option String} {overrides : List (String × Value)}
    {settings : Settings} (h : load s explicit overrides = .ok settings) :
    ∃ home project named, IsSectionOf home (s.homeFile?.bind (tableAt? s.look)) ∧
      IsSectionOf project (tableAt? s.look s.workFile) ∧
      IsSectionOf named (explicit.bind (tableAt? s.look)) ∧
      of ([home, project, named, Fields.ofKeys names (variableSets s.environment), overrideSection overrides].foldl
        Fields.insertAll []) = .ok settings := by
  rw [load] at h
  obtain ⟨home, hhome, h⟩ := Outcome.bind_eq_ok.mp h
  obtain ⟨project, hproject, h⟩ := Outcome.bind_eq_ok.mp h
  obtain ⟨named, hnamed, h⟩ := Outcome.bind_eq_ok.mp h
  obtain ⟨fromVariables, hvariables, h⟩ := Outcome.bind_eq_ok.mp h
  refine ⟨home, project, named, homeSection_isSectionOf hhome, optionalSection_isSectionOf hproject,
    explicitSection_isSectionOf hnamed, ?_⟩
  rw [← variableSection_eq hvariables]
  dsimp only at h
  split at h
  · cases h
  · exact h

/-- Written one over the other, the sections give a setting the value of the first source that sets it. -/
theorem get?_sections {s : Surroundings} {explicit : Option String}
    {overrides home project named : List (String × Value)} (hnodup : (Fields.keys overrides).Nodup)
    (hhome : IsSectionOf home (s.homeFile?.bind (tableAt? s.look)))
    (hproject : IsSectionOf project (tableAt? s.look s.workFile))
    (hnamed : IsSectionOf named (explicit.bind (tableAt? s.look))) {key : String} (hkey : key ∈ names) :
    (Fields.get? ([home, project, named, Fields.ofKeys names (variableSets s.environment),
        overrideSection overrides].foldl Fields.insertAll []) key).or (Fields.get? default.toFields key)
      = (sources s explicit overrides key).findSome? id := by
  have hsections : ∀ fields ∈ [home, project, named, Fields.ofKeys names (variableSets s.environment),
      overrideSection overrides], (Fields.keys fields).Nodup := by
    simp only [List.forall_mem_cons]
    exact ⟨hhome.nodup, hproject.nodup, hnamed.nodup, Fields.nodup_keys_ofKeys names_nodup _,
      overrideSection_nodup hnodup, nofun⟩
  have hsources : sources s explicit overrides key =
      ([home, project, named, Fields.ofKeys names (variableSets s.environment), overrideSection overrides].reverse.map
        (Fields.get? · key)) ++ [Fields.get? default.toFields key] := by
    simp [sources, hhome.get?, hproject.get?, hnamed.get?, Fields.get?_ofKeys, hkey, overrideSection_get? hnodup hkey]
  rw [get?_foldl_insertAll hsections, hsources, List.findSome?_append, List.findSome?_map]
  simp [Fields.get?]

/-- **A setting has the value of the first source that sets it.** The sources are the overrides, the environment, the
file that is named, the one of the working directory, the one of the home directory, and the defaults. -/
theorem setting_of_first_source {s : Surroundings} {explicit : Option String} {overrides : List (String × Value)}
    {settings : Settings} (hnodup : (Fields.keys overrides).Nodup)
    (h : load s explicit overrides = .ok settings) {key : String} (hkey : key ∈ names) :
    Fields.get? settings.toFields key = (sources s explicit overrides key).findSome? id := by
  obtain ⟨home, project, named, hhome, hproject, hnamed, hof⟩ := load_eq_ok h
  rw [of_get? hof hkey]
  exact get?_sections hnodup hhome hproject hnamed hkey

/-! A machine with a file in each place, a variable and overrides. -/

/-- The bytes of a text of the Latin alphabet. -/
def latinBytes (text : String) : List Nat := text.toList.map Char.toNat

def homeFile : List Nat := latinBytes "inheritance_cycle_policy = \"zero\"\nlog_file = \"home.log\"\n"

/-- Its log file stands beside its own table, and counts for nothing. -/
def workFile : List Nat := latinBytes "log_file = \"work.log\"\n[qualytics]\nverbosity = \"verbose\"\n"

def namedFile : List Nat := latinBytes "inheritance_cycle_policy = \"raise\"\n"

def furnished : Surroundings :=
  { look := fun path =>
      if path = "/home/user/.qualytics.toml" then .file homeFile
      else if path = "/work/qualytics.toml" then .file workFile
      else if path = "named.toml" then .file namedFile
      else .absent
    home := some "/home/user"
    work := "/work"
    environment := [("QUALYTICS_WORKERS", "8")]
    columns := 80
    time := "2024-01-01T00:00:00" }

def furnishedOverrides : List (String × Value) :=
  [ ("verbose", .bool true), ("quiet", .bool true), ("verbosity", .str "normal"), ("decimals", .null)
  , ("include_functions", .bool false) ]

theorem readBytes_homeFile : Toml.readBytes homeFile =
    .ok [("inheritance_cycle_policy", .str "zero"), ("log_file", .str "home.log")] := by
  cbv

theorem readBytes_workFile : Toml.readBytes workFile =
    .ok [("log_file", .str "work.log"), ("qualytics", .object [("verbosity", .str "verbose")])] := by
  cbv

theorem readBytes_namedFile : Toml.readBytes namedFile = .ok [("inheritance_cycle_policy", .str "raise")] := by
  cbv

/-- In order of the fields, they come from the environment, the named file, the overrides, a flag, the defaults and the
home directory. -/
def furnishedSettings : Settings :=
  { workers := some (.int 8), cyclePolicy := .fail, includeFunctions := .bool false, verbosity := .quiet
    decimals := .int 2, logFile := .str "home.log" }

theorem load_furnished : load furnished (some "named.toml") furnishedOverrides = .ok furnishedSettings := by
  have hpath : furnished.homeFile? = some "/home/user/.qualytics.toml" := rfl
  have hhome : furnished.look "/home/user/.qualytics.toml" = .file homeFile := by simp [furnished]
  have hwork : furnished.look furnished.workFile = .file workFile := rfl
  have hnamed : furnished.look "named.toml" = .file namedFile := by simp [furnished]
  have hvariables : variableSection furnished.environment = .ok [("workers", .int 8)] := rfl
  rw [load, homeSection_eq hpath, optionalSection_file hhome, optionalSection_file hwork, explicitSection_file hnamed,
    hvariables, fileSection_file hhome readBytes_homeFile, fileSection_file hwork readBytes_workFile,
    fileSection_file hnamed readBytes_namedFile]
  rfl

/-- Every setting of that machine is the first that a source sets. -/
theorem settings_of_furnished : load furnished (some "named.toml") furnishedOverrides = .ok furnishedSettings ∧
    ∀ key ∈ names, Fields.get? furnishedSettings.toFields key =
      (sources furnished (some "named.toml") furnishedOverrides key).findSome? id :=
  ⟨load_furnished, fun _ hkey => setting_of_first_source (by decide) load_furnished hkey⟩

end CodeMetrics.Settings
