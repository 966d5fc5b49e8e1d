import CodeMetrics.CommandLine.Run
import CodeMetrics.Proofs.Fields
import Mathlib

/-!
# A run prints its report or nothing

A run of the `analyze` command goes through its stages in order: settings, logging, format, one file after the other, and
last the report. Whichever of them fails, and however many files have been analysed before, nothing is put on the output
stream. If none fails, what stands there is the report of all files, one result for each path that was given, in the order
of the arguments. Log records are shown on the error stream and stand in the log file of the settings and in no other.

* `parse_positional` — paths keep the order of the arguments
* `analyzeAll_cases` — the files are analysed to the last one or up to the first that fails
* `WritesTo` — where records are shown and written
* `report_cases` — a run fails in one of its stages or makes the whole report
* `report_or_nothing` — what is put on the output stream
-/

namespace CodeMetrics.CommandLine

/-! ## Paths among the arguments -/

section Arguments

theorem positional_foldl_set (given : List (Flag × String)) (p : Parsed) :
    (given.foldl (fun p (o, v) => p.set o v) p).positional = p.positional := by
  induction given generalizing p with
  | nil => rfl
  | cons o given ih =>
    rw [List.foldl_cons, ih]
    rfl

/-- What is no option and no option's value is kept in its order. -/
theorem parse_positional {p q : Parsed} {waiting : Option Flag} {args : List String}
    (h : parse p waiting args = some q) : ∃ paths, paths.Sublist args ∧ q.positional = p.positional ++ paths := by
  induction args generalizing p waiting with
  | nil =>
    unfold parse at h
    split at h
    · cases h
    · cases h
      exact ⟨[], List.Sublist.refl [], by simp⟩
  | cons arg rest ih =>
    unfold parse at h
    split at h
    · obtain ⟨paths, hsub, hq⟩ := ih h
      exact ⟨paths, hsub.cons arg, hq⟩
    · split at h
      · cases h
        exact ⟨rest, List.sublist_cons_self arg rest, rfl⟩
      · split at h
        · split at h
          · cases h
          · next given needing _ =>
            obtain ⟨paths, hsub, hq⟩ := ih h
            rw [positional_foldl_set] at hq
            exact ⟨paths, hsub.cons arg, hq⟩
        · obtain ⟨paths, hsub, hq⟩ := ih h
          refine ⟨arg :: paths, hsub.cons_cons arg, ?_⟩
          simpa using hq

theorem mapM_readable {look : String → Entry} {given paths : List String}
    (h : given.mapM (readable? look) = some paths) : paths = given.map Text.normalPath := by
  induction given generalizing paths with
  | nil =>
    rw [List.mapM_nil] at h
    cases h
    rfl
  | cons path given ih =>
    rw [List.mapM_cons] at h
    simp only [Option.bind_eq_bind, Option.bind_eq_some_iff] at h
    obtain ⟨normal, hnormal, others, hothers, hpaths⟩ := h
    cases hpaths
    unfold readable? at hnormal
    dsimp only at hnormal
    split at hnormal
    · cases hnormal
      rw [List.map_cons, ih hothers]
    · cases hnormal

theorem leading_sublist {helpful helpful' : Bool} {args rest : List String}
    (h : leading helpful args = some (helpful', rest)) : rest.Sublist args := by
  induction args generalizing helpful with
  | nil =>
    simp only [leading, Option.some.injEq, Prod.mk.injEq] at h
    rw [← h.2]
  | cons arg args ih =>
    unfold leading at h
    split_ifs at h
    · simp only [Option.some.injEq, Prod.mk.injEq] at h
      rw [← h.2]
      exact List.sublist_cons_self arg args
    · exact (ih h).cons arg
    · simp only [Option.some.injEq, Prod.mk.injEq] at h
      rw [← h.2]

section Commands

variable {look : String → Entry} {args : List String} {r : Request}

theorem paths_of_request? {p : Parsed} (h : request? look p = some r) : r.paths = p.positional.map Text.normalPath := by
  unfold request? at h
  split at h
  · cases h
  · simp only [Option.bind_eq_bind, Option.bind_eq_some_iff] at h
    obtain ⟨paths, hpaths, workers, -, config, -, logFile, -, hr⟩ := h
    cases hr
    exact mapM_readable hpaths

theorem versionCommand_ne_analyze : versionCommand args ≠ some (.analyze r) := by
  intro h
  unfold versionCommand at h
  simp only [Option.bind_eq_bind, Option.bind_eq_some_iff] at h
  obtain ⟨⟨helpful, others⟩, -, h⟩ := h
  dsimp only at h
  split at h
  · cases h
  · split at h <;> cases h

theorem exists_parse_of_analyzeCommand (h : analyzeCommand look args = some (.analyze r)) :
    ∃ p, parse .empty none args = some p ∧ request? look p = some r := by
  unfold analyzeCommand at h
  simp only [Option.bind_eq_bind, Option.bind_eq_some_iff] at h
  obtain ⟨p, hparse, h⟩ := h
  split at h
  · cases h
  · obtain ⟨r', hrequest, hr⟩ := Option.bind_eq_some_iff.mp h
    cases hr
    exact ⟨p, hparse, hrequest⟩

/-- Just the `analyze` command makes a request. -/
theorem exists_leading_of_command? (h : command? look args = some (.analyze r)) :
    ∃ rest, leading false args = some (false, "analyze" :: rest) ∧ analyzeCommand look rest = some (.analyze r) := by
  unfold command? at h
  simp only [Option.bind_eq_bind, Option.bind_eq_some_iff] at h
  obtain ⟨start, hleading, h⟩ := h
  split at h
  · cases h
  · exact absurd h versionCommand_ne_analyze
  · exact ⟨_, hleading, h⟩
  · cases h

end Commands

/-- The arguments of the `analyze` command that are neither options nor their values. -/
def pathArguments (args : List String) : List String :=
  match leading false args with
  | some (false, "analyze" :: rest) => ((parse .empty none rest).map Parsed.positional).getD []
  | _ => []

/-- The paths of a request are those among the arguments in their order, each in its normal form. -/
theorem request_paths {look : String → Entry} {args : List String} {r : Request}
    (h : command? look args = some (.analyze r)) :
    (pathArguments args).Sublist args ∧ r.paths = (pathArguments args).map Text.normalPath := by
  obtain ⟨rest, hleading, hcommand⟩ := exists_leading_of_command? h
  obtain ⟨p, hparse, hrequest⟩ := exists_parse_of_analyzeCommand hcommand
  obtain ⟨given, hgiven, hpositional⟩ := parse_positional hparse
  have hpaths : pathArguments args = p.positional := by
    unfold pathArguments
    simp only [hleading, hparse, Option.map_some, Option.getD_some]
  rw [hpaths]
  refine ⟨?_, paths_of_request? hrequest⟩
  rw [hpositional]
  exact hgiven.trans ((List.sublist_cons_self _ _).trans (leading_sublist hleading))

end Arguments

/-! ## One file after the other -/

section Files

variable (s : Surroundings) (settings : Settings)

/-- The analysis of a file as it is when logging has come this far. -/
@[irreducible] def analysisAt (logging : Logging) (path : String) : Traced Measured :=
  analyzePath (logging.look s) path settings true

/-- Logging after the turn of a file. -/
def afterTurn (logging : Logging) (path : String) : Logging := logging.writeAll (analysisAt s settings logging path).log

/-- The analysis of a file whose turn comes behind others. -/
def turn (logging : Logging) (before : List String) (path : String) : Except Error Measured :=
  (analysisAt s settings (before.foldl (afterTurn s settings) logging) path).outcome

/-- There is one result for each path, in order: that of the analysis in its turn. -/
structure ResultsOf (logging : Logging) (paths : List String) (files : List AnalyzedFile) : Prop where
  paths_eq : files.map (·.path) = paths.map Value.str
  analysis_eq : ∀ before path after, paths = before ++ path :: after →
    ∃ a, turn s settings logging before path = .ok a ∧ files[before.length]? = some ⟨.str path, a.report⟩

variable {s settings}

theorem turn_cons (logging : Logging) (path : String) (before : List String) (other : String) :
    turn s settings logging (path :: before) other = turn s settings (afterTurn s settings logging path) before other := by
  rw [turn, turn, List.foldl_cons]

theorem ResultsOf.cons {logging : Logging} {path : String} {rest : List String} {a : Measured}
    {files : List AnalyzedFile} (ha : (analysisAt s settings logging path).outcome = .ok a)
    (h : ResultsOf s settings (afterTurn s settings logging path) rest files) :
    ResultsOf s settings logging (path :: rest) (⟨.str path, a.report⟩ :: files) := by
  refine ⟨by simp [h.paths_eq], ?_⟩
  intro before other after hsplit
  cases before with
  | nil =>
    simp only [List.nil_append, List.cons.injEq] at hsplit
    obtain ⟨rfl, -⟩ := hsplit
    exact ⟨a, ha, rfl⟩
  | cons first before =>
    simp only [List.cons_append, List.cons.injEq] at hsplit
    obtain ⟨rfl, hsplit⟩ := hsplit
    simpa [turn_cons] using h.analysis_eq before other after hsplit

/-- The results are settled by the paths. -/
theorem ResultsOf.unique {logging : Logging} {paths : List String} {files files' : List AnalyzedFile}
    (h : ResultsOf s settings logging paths files) (h' : ResultsOf s settings logging paths files') : files = files' := by
  have hlength : ∀ {files : List AnalyzedFile}, ResultsOf s settings logging paths files → files.length = paths.length := by
    intro files h
    simpa using congrArg List.length h.paths_eq
  refine List.ext_getElem? fun i => ?_
  by_cases hi : i < paths.length
  · have hsplit : paths = paths.take i ++ paths[i] :: paths.drop (i + 1) := by simp
    obtain ⟨a, ha, hfile⟩ := h.analysis_eq _ _ _ hsplit
    obtain ⟨a', ha', hfile'⟩ := h'.analysis_eq _ _ _ hsplit
    rw [List.length_take_of_le (Nat.le_of_lt hi)] at hfile hfile'
    cases ha.symm.trans ha'
    rw [hfile, hfile']
  · rw [List.getElem?_eq_none (by rw [hlength h]; omega), List.getElem?_eq_none (by rw [hlength h']; omega)]

/-- One turn: a failure ends the analysis, and a result stands before those of the other files. -/
theorem analyzeAll_cons (logging : Logging) (path : String) (rest : List String) :
    analyzeAll s settings logging (path :: rest)
      = match (analysisAt s settings logging path).outcome with
        | .error e => (.error e, afterTurn s settings logging path)
        | .ok a =>
          let others := analyzeAll s settings (afterTurn s settings logging path) rest
          (others.1.map (⟨.str path, a.report⟩ :: ·), others.2) := by
  unfold afterTurn analysisAt
  rfl

/-- The files are analysed to the last one, or one of them fails in its turn. -/
theorem analyzeAll_cases (logging : Logging) (paths : List String) :
    (∃ files, ResultsOf s settings logging paths files ∧ (analyzeAll s settings logging paths).1 = .ok files) ∨
    ∃ before path after e, paths = before ++ path :: after ∧ turn s settings logging before path = .error e ∧
      (analyzeAll s settings logging paths).1 = .error e := by
  induction paths generalizing logging with
  | nil => exact .inl ⟨[], ⟨rfl, by simp⟩, rfl⟩
  | cons path rest ih =>
    rw [analyzeAll_cons]
    cases ha : (analysisAt s settings logging path).outcome with
    | error e => exact .inr ⟨[], path, rest, e, rfl, ha, rfl⟩
    | ok a =>
      dsimp only
      rcases ih (afterTurn s settings logging path) with
        ⟨files, hfiles, hall⟩ | ⟨before, other, after, e, hsplit, hturn, hall⟩
      · exact .inl ⟨_, hfiles.cons ha, by rw [hall]; rfl⟩
      · exact .inr ⟨path :: before, other, after, e, by rw [hsplit]; rfl, by rw [turn_cons, hturn], by rw [hall]; rfl⟩

end Files

/-! ## Where records are written -/

/-- The log file of the settings. -/
def IsLogFile (s : Surroundings) (settings : Settings) (path : String) : Prop :=
  ∃ given, settings.logFile = .str given ∧ path = Text.absolutePath s.work given

/-- Records are shown on the error stream, and are all that is written, to no other files than these. -/
structure WritesTo (allowed : String → Prop) (logging : Logging) : Prop where
  console : ∀ stream, logging.console = some stream → stream = .errors
  shown : ∀ stream r, (stream, r) ∈ logging.shown → stream = .errors
  file : ∀ path, logging.file = some path → allowed path
  files : ∀ path lines, (path, lines) ∈ logging.files → allowed path ∧ ∀ line ∈ lines, ∃ r : Record, line = r.line

/-- A record changes nothing but the loggers that are known, or it is shown and appended. -/
theorem write_cases (logging : Logging) (r : Record) :
    ∃ loggers, logging.write r = { logging with loggers } ∨
      logging.write r = (Logging.display { logging with loggers } r).append r := by
  unfold Logging.write
  generalize (if logging.loggers.contains r.logger then logging.loggers else r.logger :: logging.loggers) = loggers
  refine ⟨loggers, ?_⟩
  dsimp only
  split
  · exact .inr rfl
  · exact .inl rfl

namespace WritesTo

variable {allowed : String → Prop} {logging : Logging}

theorem initial : WritesTo allowed .initial := by
  constructor <;> simp [Logging.initial]

theorem mono {allowed' : String → Prop} (h : WritesTo allowed logging) (hallowed : ∀ path, allowed path → allowed' path) :
    WritesTo allowed' logging :=
  ⟨h.console, h.shown, fun path hpath => hallowed path (h.file path hpath),
    fun path lines hmem => (h.files path lines hmem).imp_left (hallowed path)⟩

/-- What a file holds already are records. -/
theorem lines (h : WritesTo allowed logging) (path : String) :
    ∀ line ∈ (Fields.get? logging.files path).getD [], ∃ r : Record, line = r.line := by
  intro line hline
  cases hget : Fields.get? logging.files path with
  | none => simp [hget] at hline
  | some found =>
    rw [hget, Option.getD_some] at hline
    exact (h.files path found (Fields.mem_of_get? hget)).2 line hline

theorem display (h : WritesTo allowed logging) (r : Record) : WritesTo allowed (logging.display r) := by
  unfold Logging.display
  split
  · next stream hstream =>
    refine ⟨h.console, fun stream' r' hmem => ?_, h.file, h.files⟩
    rcases List.mem_append.mp hmem with hold | hnew
    · exact h.shown stream' r' hold
    · cases List.mem_singleton.mp hnew
      exact h.console stream hstream
  · exact h

theorem append (h : WritesTo allowed logging) (r : Record) : WritesTo allowed (logging.append r) := by
  unfold Logging.append
  split
  · next path hpath =>
    refine ⟨h.console, h.shown, h.file, fun path' lines' hmem => ?_⟩
    rcases Fields.mem_of_mem_insert hmem with hold | hnew
    · exact h.files path' lines' hold
    · cases hnew
      refine ⟨h.file path hpath, fun line hline => ?_⟩
      rcases List.mem_append.mp hline with hold | hlast
      · exact h.lines path line hold
      · exact ⟨r, List.mem_singleton.mp hlast⟩
  · exact h

theorem write (h : WritesTo allowed logging) (r : Record) : WritesTo allowed (logging.write r) := by
  obtain ⟨loggers, hwrite⟩ := write_cases logging r
  have hloggers : WritesTo allowed { logging with loggers } := ⟨h.console, h.shown, h.file, h.files⟩
  rcases hwrite with hwrite | hwrite
  · rw [hwrite]
    exact hloggers
  · rw [hwrite]
    exact (hloggers.display r).append r

theorem writeAll (h : WritesTo allowed logging) (records : List Record) : WritesTo allowed (logging.writeAll records) := by
  unfold Logging.writeAll
  induction records generalizing logging with
  | nil => exact h
  | cons r records ih => exact ih (h.write r)

theorem openFile {s : Surroundings} {settings : Settings} (h : WritesTo (IsLogFile s settings) logging) :
    WritesTo (IsLogFile s settings) (logging.openFile s settings.logFile).1 := by
  unfold Logging.openFile
  split
  · exact h
  · split
    · next given hlog =>
      dsimp only
      split
      · exact h
      · split
        · exact h
        · have hpath : IsLogFile s settings (Text.absolutePath s.work given) := ⟨given, hlog, rfl⟩
          refine ⟨h.console, h.shown, fun path hopen => ?_, fun path lines hmem => ?_⟩
          · cases hopen
            exact hpath
          · rcases Fields.mem_of_mem_insert hmem with hold | hnew
            · exact h.files path lines hold
            · cases hnew
              exact ⟨hpath, h.lines _⟩
    · exact h

/-- Setting logging up opens no other file than that of the settings. -/
theorem setup (s : Surroundings) (settings : Settings) :
    WritesTo (IsLogFile s settings) (Logging.initial.setup s settings).1 := by
  have hstart : WritesTo (IsLogFile s settings) { Logging.initial with console := some .errors, file := none } := by
    constructor <;> simp [Logging.initial]
  have hopen := hstart.openFile
  unfold Logging.setup
  split
  · next state e heq =>
    rw [heq] at hopen
    exact hopen
  · next state heq =>
    rw [heq] at hopen
    have hlevel : WritesTo (IsLogFile s settings) { state with level := some settings.verbosity.level } :=
      ⟨hopen.console, hopen.shown, hopen.file, hopen.files⟩
    exact hlevel.write _

theorem analyzeAll {s : Surroundings} {settings : Settings} (h : WritesTo allowed logging) (paths : List String) :
    WritesTo allowed (CommandLine.analyzeAll s settings logging paths).2 := by
  induction paths generalizing logging with
  | nil => exact h
  | cons path rest ih =>
    have hturn : WritesTo allowed (afterTurn s settings logging path) := h.writeAll _
    rw [analyzeAll_cons]
    cases (analysisAt s settings logging path).outcome with
    | error e => exact hturn
    | ok a => exact ih hturn

end WritesTo

/-! ## Without a log file -/

section NoLogFile

variable {s : Surroundings} {settings : Settings} {logging : Logging}

theorem files_display (logging : Logging) (r : Record) :
    (logging.display r).file = logging.file ∧ (logging.display r).files = logging.files := by
  unfold Logging.display
  split <;> exact ⟨rfl, rfl⟩

theorem files_write (hfile : logging.file = none) (r : Record) :
    (logging.write r).file = none ∧ (logging.write r).files = logging.files := by
  obtain ⟨loggers, hwrite | hwrite⟩ := write_cases logging r
  · rw [hwrite]
    exact ⟨hfile, rfl⟩
  · obtain ⟨hfile', hfiles'⟩ := files_display { logging with loggers } r
    rw [hwrite, Logging.append, hfile'.trans hfile]
    exact ⟨hfile'.trans hfile, hfiles'⟩

/-- Without a log file nothing is written, and all files are seen as they are. -/
theorem files_afterTurn (hfile : logging.file = none) (path : String) :
    (afterTurn s settings logging path).file = none ∧ (afterTurn s settings logging path).files = logging.files := by
  unfold afterTurn Logging.writeAll
  generalize (analysisAt s settings logging path).log = records
  induction records generalizing logging with
  | nil => exact ⟨hfile, rfl⟩
  | cons r records ih =>
    obtain ⟨hfile', hfiles'⟩ := files_write hfile r
    rw [List.foldl_cons, ← hfiles']
    exact ih hfile'

theorem turn_of_no_file (hfile : logging.file = none) (hfiles : logging.files = []) (before : List String)
    (path : String) :
    turn s settings logging before path = (analyzePath s.look path settings true : Traced Measured).outcome := by
  induction before generalizing logging with
  | nil =>
    have hlook : logging.look s = s.look := by
      funext path
      unfold Logging.look
      rw [hfiles]
      rfl
    rw [turn, List.foldl_nil, analysisAt, hlook]
  | cons first before ih =>
    obtain ⟨hfile', hfiles'⟩ := @files_afterTurn s settings logging hfile first
    rw [turn_cons, ih hfile' (hfiles'.trans hfiles)]

end NoLogFile

/-! ## Stages of a run -/

/-- What the results are printed as: their JSON text and a line feed, or their table as it is drawn on the console. -/
inductive Prints (s : Surroundings) (settings : Settings) (files : List AnalyzedFile) : String → String → Prop
  | json {text : String} (h : Report.json settings files = .ok text) : Prints s settings files "json" (text ++ "\n")
  | table {t : Table} {text : String} (htable : Report.table settings files = .ok t)
      (h : t.render s.columns = .ok text) : Prints s settings files "table" text

/-- Why the results cannot be printed: they have no JSON text, or no table, or the table cannot be drawn. -/
inductive PrintFails (s : Surroundings) (settings : Settings) (files : List AnalyzedFile) : String → Error → Prop
  | json {e : Error} (h : Report.json settings files = .error e) : PrintFails s settings files "json" e
  | table {e : Error} (h : Report.table settings files = .error e) : PrintFails s settings files "table" e
  | drawing {t : Table} {e : Error} (htable : Report.table settings files = .ok t) (h : t.render s.columns = .error e) :
    PrintFails s settings files "table" e

/-- A stage of a run fails: the settings cannot be loaded, the log file cannot be opened, there is no such format, one of
the files fails in its turn, or the results cannot be printed. -/
inductive Fails (s : Surroundings) (r : Request) : Error → Prop
  | settings {e : Error} (h : Settings.load s r.config r.overrides = .error e) : Fails s r e
  | logging {settings : Settings} {e : Error} (hsettings : Settings.load s r.config r.overrides = .ok settings)
      (h : (Logging.initial.setup s settings).2 = some e) : Fails s r e
  | format (h : r.format ∉ ["json", "table"]) : Fails s r (.rejected (.unknownFormat r.format))
  | file {settings : Settings} {before after : List String} {path : String} {e : Error}
      (hsettings : Settings.load s r.config r.overrides = .ok settings) (hpaths : r.paths = before ++ path :: after)
      (h : turn s settings (Logging.initial.setup s settings).1 before path = .error e) : Fails s r e
  | output {settings : Settings} {files : List AnalyzedFile} {e : Error}
      (hsettings : Settings.load s r.config r.overrides = .ok settings)
      (hfiles : ResultsOf s settings (Logging.initial.setup s settings).1 r.paths files)
      (h : PrintFails s settings files r.format e) : Fails s r e

/-- A run in which every stage succeeds, and the text it prints. -/
structure Succeeds (s : Surroundings) (r : Request) (settings : Settings) (files : List AnalyzedFile) (text : String) :
    Prop where
  loaded : Settings.load s r.config r.overrides = .ok settings
  opened : (Logging.initial.setup s settings).2 = none
  analysed : ResultsOf s settings (Logging.initial.setup s settings).1 r.paths files
  printed : Prints s settings files r.format text

theorem Prints.json_eq {s : Surroundings} {settings : Settings} {files : List AnalyzedFile} {text : String}
    (h : Prints s settings files "json" text) : ∃ json, Report.json settings files = .ok json ∧ text = json ++ "\n" := by
  generalize hname : "json" = name at h
  cases h with
  | json h => exact ⟨_, h, rfl⟩
  | table => exact absurd hname (by decide)

theorem PrintFails.cases {s : Surroundings} {settings : Settings} {files : List AnalyzedFile} {format : String} {e : Error}
    (h : PrintFails s settings files format e) :
    (format = "json" ∧ Report.json settings files = .error e) ∨
      (format = "table" ∧ (Report.table settings files = .error e ∨
        ∃ t, Report.table settings files = .ok t ∧ t.render s.columns = .error e)) := by
  cases h with
  | json h => exact .inl ⟨rfl, h⟩
  | table h => exact .inr ⟨rfl, .inl h⟩
  | drawing htable h => exact .inr ⟨rfl, .inr ⟨_, htable, h⟩⟩

theorem Prints.mem_formats {s : Surroundings} {settings : Settings} {files : List AnalyzedFile} {format text : String}
    (h : Prints s settings files format text) : format ∈ ["json", "table"] := by
  cases h <;> simp

/-- What can be printed does not fail to be. -/
theorem Prints.not_printFails {s : Surroundings} {settings : Settings} {files : List AnalyzedFile} {format text : String}
    {e : Error} (h : Prints s settings files format text) : ¬PrintFails s settings files format e := by
  intro hfails
  cases h with
  | json hok =>
    obtain ⟨-, herror⟩ | ⟨hname, -⟩ := hfails.cases
    · cases hok.symm.trans herror
    · exact absurd hname (by decide)
  | table htable hok =>
    obtain ⟨hname, -⟩ | ⟨-, herror | ⟨t, htable', herror⟩⟩ := hfails.cases
    · exact absurd hname (by decide)
    · cases htable.symm.trans herror
    · cases htable.symm.trans htable'
      cases hok.symm.trans herror

/-- A name that is no format's is refused. -/
theorem format_of_not_mem {name : String} (h : name ∉ ["json", "table"]) :
    Format.of (.str name) = .error (.rejected (.unknownFormat name)) := by
  simp only [List.mem_cons, List.not_mem_nil, or_false, not_or] at h
  unfold Format.of
  split
  · next heq => exact absurd (Value.str.inj heq) h.1
  · next heq => exact absurd (Value.str.inj heq) h.2
  · next heq => cases heq
  · next heq => cases heq
  · rfl

/-- Results are printed in a format that there is, or fail to be. -/
theorem printed_cases (s : Surroundings) (settings : Settings) (files : List AnalyzedFile) {name : String}
    (h : name ∈ ["json", "table"]) : ∃ format, Format.of (.str name) = .ok format ∧
      ((∃ text, format.printed s.columns settings files = .ok text ∧ Prints s settings files name text) ∨
        ∃ e, format.printed s.columns settings files = .error e ∧ PrintFails s settings files name e) := by
  rcases List.mem_cons.mp h with rfl | h
  · refine ⟨.json, rfl, ?_⟩
    cases hjson : Report.json settings files with
    | ok text => exact .inl ⟨text ++ "\n", by rw [Format.printed, hjson]; rfl, .json hjson⟩
    | error e => exact .inr ⟨e, by rw [Format.printed, hjson]; rfl, .json hjson⟩
  · cases List.mem_singleton.mp h
    refine ⟨.table, rfl, ?_⟩
    cases htable : Report.table settings files with
    | error e => exact .inr ⟨e, by rw [Format.printed, htable]; rfl, .table htable⟩
    | ok t =>
      have hprinted : Format.table.printed s.columns settings files = t.render s.columns := by
        rw [Format.printed, htable]
        rfl
      cases hrender : t.render s.columns with
      | ok text => exact .inl ⟨text, hprinted.trans hrender, .table htable hrender⟩
      | error e => exact .inr ⟨e, hprinted.trans hrender, .drawing htable hrender⟩

section Stages

variable {s : Surroundings} {r : Request}

/-- In a run that succeeds no stage fails. -/
theorem Succeeds.not_fails {settings : Settings} {files : List AnalyzedFile} {text : String}
    (h : Succeeds s r settings files text) (e : Error) : ¬Fails s r e := by
  intro hfails
  cases hfails with
  | settings hload => cases h.loaded.symm.trans hload
  | logging hload hsetup =>
    cases h.loaded.symm.trans hload
    cases h.opened.symm.trans hsetup
  | format hformat => exact hformat h.printed.mem_formats
  | file hload hpaths hturn =>
    cases h.loaded.symm.trans hload
    obtain ⟨a, ha, -⟩ := h.analysed.analysis_eq _ _ _ hpaths
    cases ha.symm.trans hturn
  | output hload hfiles hprinted =>
    cases h.loaded.symm.trans hload
    rw [← h.analysed.unique hfiles] at hprinted
    exact h.printed.not_printFails hprinted

/-- A run fails in one of its stages, or makes the report of all files. -/
theorem report_cases (s : Surroundings) (r : Request) :
    (∃ e, Fails s r e ∧ (report s r).1 = .error e) ∨
    ∃ settings files text, Succeeds s r settings files text ∧ (report s r).1 = .ok text := by
  unfold report
  cases hsettings : Settings.load s r.config r.overrides with
  | error e => exact .inl ⟨e, .settings hsettings, rfl⟩
  | ok settings =>
    dsimp only
    split
    · next logging e hsetup => exact .inl ⟨e, .logging hsettings (by rw [hsetup]), rfl⟩
    · next logging hsetup =>
      have hlogging : (Logging.initial.setup s settings).1 = logging := by rw [hsetup]
      by_cases hname : r.format ∈ ["json", "table"]
      · rcases @analyzeAll_cases s settings logging r.paths with
          ⟨files, hfiles, hall⟩ | ⟨before, path, after, e, hsplit, hturn, hall⟩
        · obtain ⟨format, hformat, ⟨text, hok, hprints⟩ | ⟨e, herror, hfails⟩⟩ := printed_cases s settings files hname
          · rw [hformat]
            dsimp only
            rw [hall]
            exact .inr ⟨settings, files, text, ⟨hsettings, by rw [hsetup], hlogging ▸ hfiles, hprints⟩, hok⟩
          · rw [hformat]
            dsimp only
            rw [hall]
            exact .inl ⟨e, .output hsettings (hlogging ▸ hfiles) hfails, herror⟩
        · obtain ⟨format, hformat, -⟩ := printed_cases s settings [] hname
          rw [hformat]
          dsimp only
          rw [hall]
          exact .inl ⟨e, .file hsettings hsplit (hlogging ▸ hturn), rfl⟩
      · rw [format_of_not_mem hname]
        exact .inl ⟨_, .format hname, rfl⟩

/-- A run leaves records in the log file of its settings, and nothing in other files. -/
theorem writesTo_report (s : Surroundings) (r : Request) :
    WritesTo (fun path => ∃ settings, Settings.load s r.config r.overrides = .ok settings ∧ IsLogFile s settings path)
      (report s r).2 := by
  unfold report
  cases hsettings : Settings.load s r.config r.overrides with
  | error e => exact .initial
  | ok settings =>
    have hsetup : WritesTo
        (fun path => ∃ settings', (.ok settings : Except Error Settings) = .ok settings' ∧ IsLogFile s settings' path)
        (Logging.initial.setup s settings).1 :=
      (WritesTo.setup s settings).mono fun path hpath => ⟨settings, rfl, hpath⟩
    dsimp only
    split
    · next logging e heq =>
      rw [heq] at hsetup
      exact hsetup
    · next logging heq =>
      rw [heq] at hsetup
      split
      · exact hsetup
      · exact hsetup.analyzeAll r.paths

end Stages

/-! ## What is printed -/

section Printing

variable {s : Surroundings} {args : List String} {r : Request}

/-- The text of an error is put on the error stream, and the run does not end well. -/
theorem endWith_spec (columns : Nat) (e : Error) (logging : Logging) :
    (endWith columns e logging).logging = logging ∧ (endWith columns e logging).exit ≠ .ok 0 ∧
      ∀ item ∈ (endWith columns e logging).printed, item.1 = .errors := by
  have hfailed : ∀ exit message, exit ≠ 0 → (failed columns exit message logging).logging = logging ∧
      (failed columns exit message logging).exit ≠ .ok 0 ∧
      ∀ item ∈ (failed columns exit message logging).printed, item.1 = .errors := by
    intro exit message hexit
    unfold failed
    split <;> simp [hexit]
  unfold endWith
  split
  · exact hfailed 1 _ (by decide)
  · exact hfailed 2 _ (by decide)
  · simp

/-- A run shows the records of its report, and prints the report or ends with the error that stands in its place. -/
theorem run_analyze (h : command? s.look args = some (.analyze r)) :
    run s args = match (report s r).1 with
      | .ok text => ⟨(report s r).2, [(.output, .text text)], .ok 0⟩
      | .error e => endWith s.columns e (report s r).2 := by
  rw [run, h]
  show analyze s r = _
  unfold analyze
  cases report s r with
  | mk outcome logging => cases outcome <;> rfl

theorem logging_run (h : command? s.look args = some (.analyze r)) : (run s args).logging = (report s r).2 := by
  rw [run_analyze h]
  split
  · rfl
  · exact (endWith_spec _ _ _).1

/-- Records do not come on the output stream. -/
theorem on_output (h : command? s.look args = some (.analyze r)) :
    (run s args).on .output = ((run s args).printed.filter (·.1 == .output)).map (·.2) := by
  rw [Run.on, Run.written, logging_run h, List.filter_append, List.filter_eq_nil_iff.mpr, List.nil_append]
  intro item hmem
  obtain ⟨⟨stream, record⟩, hshown, rfl⟩ := List.mem_map.mp hmem
  rw [(writesTo_report s r).shown _ _ hshown]
  exact Bool.false_ne_true

/-- A run without a report puts nothing on the output stream and does not end well. -/
theorem ended_of_error (h : command? s.look args = some (.analyze r)) {e : Error} (herror : (report s r).1 = .error e) :
    (run s args).on .output = [] ∧ (run s args).exit ≠ .ok 0 := by
  obtain ⟨-, hexit, herrors⟩ := endWith_spec s.columns e (report s r).2
  rw [on_output h, run_analyze h, herror]
  refine ⟨?_, hexit⟩
  rw [List.map_eq_nil_iff, List.filter_eq_nil_iff]
  intro item hitem
  rw [herrors item hitem]
  exact Bool.false_ne_true

/-- **A run prints its report or nothing.** If any of its stages fails, nothing is put on the output stream and the run
does not end well; if none fails, the output is the report of all files, with one result for each path among the
arguments, in their order. Records are shown on the error stream, and left in the log file of the settings and nowhere
else. -/
theorem report_or_nothing (h : command? s.look args = some (.analyze r)) :
    ((∃ e, Fails s r e) → (run s args).on .output = [] ∧ (run s args).exit ≠ .ok 0) ∧
    ((¬∃ e, Fails s r e) → ∃ settings files text, Succeeds s r settings files text ∧
      files.map (·.path) = (pathArguments args).map (fun path => .str (Text.normalPath path)) ∧
      (run s args).on .output = [.text text] ∧ (run s args).exit = .ok 0) ∧
    (pathArguments args).Sublist args ∧
    (∀ stream record, (stream, .record record) ∈ (run s args).written → stream = .errors) ∧
    ∀ path lines, (path, lines) ∈ (run s args).logging.files →
      (∃ settings, Settings.load s r.config r.overrides = .ok settings ∧ IsLogFile s settings path) ∧
        ∀ line ∈ lines, ∃ record : Record, line = record.line := by
  obtain ⟨hsublist, hpaths⟩ := request_paths h
  have hwrites := writesTo_report s r
  refine ⟨?_, ?_, hsublist, fun stream record hmem => ?_, fun path lines hmem => ?_⟩
  · rintro ⟨e, hfails⟩
    rcases report_cases s r with ⟨e', -, herror⟩ | ⟨settings, files, text, hsucceeds, -⟩
    · exact ended_of_error h herror
    · exact absurd hfails (hsucceeds.not_fails e)
  · intro hnone
    rcases report_cases s r with ⟨e, hfails, -⟩ | ⟨settings, files, text, hsucceeds, hok⟩
    · exact absurd ⟨e, hfails⟩ hnone
    · refine ⟨settings, files, text, hsucceeds, ?_, ?_, ?_⟩
      · rw [hsucceeds.analysed.paths_eq, hpaths, List.map_map]
        rfl
      · rw [on_output h, run_analyze h, hok]
        rfl
      · rw [run_analyze h, hok]
  · rw [Run.written, logging_run h, List.mem_append, run_analyze h] at hmem
    rcases hmem with hmem | hmem
    · obtain ⟨⟨stream', record'⟩, hshown, heq⟩ := List.mem_map.mp hmem
      cases heq
      exact hwrites.shown _ _ hshown
    · split at hmem
      · cases List.mem_singleton.mp hmem
      · exact (endWith_spec _ _ _).2.2 _ hmem
  · rw [logging_run h] at hmem
    exact hwrites.files path lines hmem

end Printing

/-- A place with two files, of which only the first holds a tree. -/
def twoFiles : Surroundings :=
  { look := fun path =>
      if path = "a.json" then .file (Text.encodeUtf8 "\x7b\"type\": \"Program\"\x7d")
      else if path = "b.json" then .file (Text.encodeUtf8 "\x7b") else .absent
    home := some "/home", work := "/work", environment := [], columns := 80, time := "" }

def jsonRequest (paths : List String) : Request :=
  { paths, format := "json", noFunctions := false, workers := none, config := none, verbose := false, quiet := false
    logFile := none }

/-- Each file is told apart by whether it can be analysed, which the definitions compute. -/
theorem analysable_of_twoFiles :
    (analyzePath twoFiles.look "a.json" .default true : Traced Measured).outcome.toBool = true ∧
    (analyzePath twoFiles.look "b.json" .default true : Traced Measured).outcome.toBool = false := by
  decide +kernel

theorem turns_of_twoFiles :
    (∃ a, turn twoFiles .default (Logging.initial.setup twoFiles .default).1 [] "a.json" = .ok a) ∧
    ∃ e, turn twoFiles .default (Logging.initial.setup twoFiles .default).1 ["a.json"] "b.json" = .error e := by
  have hfile : (Logging.initial.setup twoFiles .default).1.file = none := rfl
  have hfiles : (Logging.initial.setup twoFiles .default).1.files = [] := rfl
  obtain ⟨hfirst, hsecond⟩ := analysable_of_twoFiles
  rw [← turn_of_no_file hfile hfiles []] at hfirst
  rw [← turn_of_no_file hfile hfiles ["a.json"]] at hsecond
  constructor
  · cases ha : turn twoFiles .default (Logging.initial.setup twoFiles .default).1 [] "a.json" with
    | ok a => exact ⟨a, rfl⟩
    | error e => rw [ha] at hfirst; cases hfirst
  · cases hb : turn twoFiles .default (Logging.initial.setup twoFiles .default).1 ["a.json"] "b.json" with
    | ok b => rw [hb] at hsecond; cases hsecond
    | error e => exact ⟨e, rfl⟩

/-- No stage fails if the first file is reported twice, since the definitions compute a report. -/
theorem not_fails_of_twoFiles : ¬∃ e, Fails twoFiles (jsonRequest ["a.json", "a.json"]) e := by
  have hreport : (report twoFiles (jsonRequest ["a.json", "a.json"])).1.toBool = true := by decide +kernel
  rintro ⟨e, hfails⟩
  rcases report_cases twoFiles (jsonRequest ["a.json", "a.json"]) with
    ⟨e', -, herror⟩ | ⟨settings, files, text, hsucceeds, -⟩
  · rw [herror] at hreport
    cases hreport
  · exact hsucceeds.not_fails e hfails

/-- Nothing is printed if the second file holds no tree, though the first has been analysed by then. A file that is named
twice is printed twice. -/
theorem printed_of_twoFiles :
    (command? twoFiles.look ["analyze", "a.json", "-f", "json", "b.json"]
        = some (.analyze (jsonRequest ["a.json", "b.json"])) ∧
      (∃ a, turn twoFiles .default (Logging.initial.setup twoFiles .default).1 [] "a.json" = .ok a) ∧
      (run twoFiles ["analyze", "a.json", "-f", "json", "b.json"]).on .output = []) ∧
    (command? twoFiles.look ["analyze", "a.json", "-f", "json", "a.json"]
        = some (.analyze (jsonRequest ["a.json", "a.json"])) ∧
      (¬∃ e, Fails twoFiles (jsonRequest ["a.json", "a.json"]) e) ∧
      ∃ files text, files.map (·.path) = [.str "a.json", .str "a.json"] ∧ Report.json .default files = .ok text ∧
        (run twoFiles ["analyze", "a.json", "-f", "json", "a.json"]).on .output = [.text (text ++ "\n")]) := by
  have hload : ∀ paths, Settings.load twoFiles none (jsonRequest paths).overrides = .ok .default := fun _ => rfl
  refine ⟨?_, ?_⟩
  · have hargs : command? twoFiles.look ["analyze", "a.json", "-f", "json", "b.json"]
        = some (.analyze (jsonRequest ["a.json", "b.json"])) := by cbv
    obtain ⟨hfirst, e, hsecond⟩ := turns_of_twoFiles
    exact ⟨hargs, hfirst, ((report_or_nothing hargs).1 ⟨e, .file (hload _) rfl hsecond⟩).1⟩
  · have hargs : command? twoFiles.look ["analyze", "a.json", "-f", "json", "a.json"]
        = some (.analyze (jsonRequest ["a.json", "a.json"])) := by cbv
    obtain ⟨settings, files, text, hsucceeds, hpaths, hprinted, -⟩ := (report_or_nothing hargs).2.1 not_fails_of_twoFiles
    cases hsucceeds.loaded.symm.trans (hload _)
    obtain ⟨json, hjson, rfl⟩ := hsucceeds.printed.json_eq
    exact ⟨hargs, not_fails_of_twoFiles, files, json, hpaths.trans (by cbv), hjson, hprinted⟩

end CodeMetrics.CommandLine
