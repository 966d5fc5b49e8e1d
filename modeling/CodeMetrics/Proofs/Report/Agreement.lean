import CodeMetrics.Proofs.Report.Json
import CodeMetrics.Proofs.Report.Table

/-!
# Both formats report the same

A table has one row for each record of the JSON report, in the same order: one for each file, and after it one for each
of its functions. A row is read by the headers of its columns and a record by its keys; what both of them have is the
same. JSON has no path of a file that is reported by itself, and no cells for scores, which a table rounds.

* `Report.entries` — the records of a JSON report
* `Table.Shows` — what a row has of a record
* `Report.shows_of_table` — the rows of a table
* `formats_agree` — the two reports
-/

namespace CodeMetrics

open Text.Markup Outcome

/-! ## Records of a JSON report -/

/-- The value under keys, each of them in the object under the one before. -/
def Value.under? (v : Value) (keys : List String) : Option Value := keys.foldlM Value.field? v

/-- The items of a list. -/
def Value.items : Value → List Value
  | .list items => items
  | _ => []

namespace Report

/-- A record of a JSON report: the analysis of a file or one of its functions, with the path if the report has it. -/
inductive Entry where
  | file (path? : Option Value) (analysis : Value)
  | function (path? : Option Value) (function : Value)

/-- The analyses in a report: the one that it is, or those in its list of files, with their paths. -/
def analyses (report : Value) : List (Option Value × Value) :=
  match report.field? "files" with
  | some files => files.items.map fun item => (item.field? "path", (item.field? "analysis").getD .null)
  | none => [(none, report)]

/-- The records of an analysis. -/
def entriesOf (analysis : Option Value × Value) : List Entry :=
  .file analysis.1 analysis.2 :: ((analysis.2.field? "functions").getD .null).items.map (Entry.function analysis.1)

/-- The records of a report, in the order in which they stand in it. -/
def entries (report : Value) : List Entry := (analyses report).flatMap entriesOf

end Report

/-! ## Rows of a table -/

namespace Table

/-- The cell of a row that stands below a header. -/
def cell? (t : Table) (row : List String) (header : String) : Option String :=
  Fields.get? ((t.columns.map Column.header).zip row) header

/-- A row has the text of a value below a header. -/
def Has (t : Table) (row : List String) (header : String) (v : Value) (keys : List String) : Prop :=
  ∃ w, v.under? keys = some w ∧ t.cell? row header = some w.text

/-- A row has an escaped name below a header. -/
def HasName (t : Table) (row : List String) (header : String) (v : Value) : Prop :=
  ∃ s, v = .str s ∧ t.cell? row header = some (escape s)

/-- The row of a file. -/
structure ShowsFile (t : Table) (path? : Option Value) (analysis : Value) (row : List String) : Prop where
  scope : t.cell? row "Scope" = some "file"
  path : ∀ path, path? = some path → t.HasName row "File" path ∧ t.HasName row "Name" path
  linesOfCode : t.Has row "LOC" analysis ["fileMetrics", "linesOfCode"]
  complexity : t.Has row "Complexity" analysis ["fileMetrics", "cyclomaticComplexity"]
  methods : t.Has row "Methods" analysis ["fileMetrics", "methodCount"]
  classes : t.Has row "Classes" analysis ["fileMetrics", "classCount"]
  depth : t.Has row "Inheritance Depth" analysis ["fileMetrics", "depthOfInheritance"]

/-- The row of a function. -/
structure ShowsFunction (t : Table) (path? : Option Value) (function : Value) (row : List String) : Prop where
  scope : t.cell? row "Scope" = some "function"
  path : ∀ path, path? = some path → t.HasName row "File" path
  name : ∃ name, function.under? ["name"] = some name ∧ t.HasName row "Name" name
  kind : t.Has row "Type" function ["type"]
  lines : ∃ first last, function.under? ["startLine"] = some first ∧ function.under? ["endLine"] = some last ∧
    t.cell? row "Lines" = some (first.text ++ "-" ++ last.text)
  linesOfCode : t.Has row "LOC" function ["metrics", "linesOfCode"]
  complexity : t.Has row "Complexity" function ["metrics", "cyclomaticComplexity"]
  methods : t.Has row "Methods" function ["metrics", "methodCount"]

/-- A row shows a record, and has as many cells as the table has columns. -/
def Shows (t : Table) (entry : Report.Entry) (row : List String) : Prop :=
  row.length = t.columns.length ∧
    match entry with
    | .file path? analysis => t.ShowsFile path? analysis row
    | .function path? function => t.ShowsFunction path? function row

end Table

namespace Report

variable {settings : Settings}

/-! ## The records of files -/

/-- The path of a file, if the report of several files has it. -/
def shownPath (several : Bool) (file : AnalyzedFile) : Option Value := if several then some file.path else none

/-- The records of one file. -/
def fileEntries (settings : Settings) (several : Bool) (file : AnalyzedFile) : List Entry :=
  entriesOf (shownPath several file, jsonAnalysis settings file)

theorem fileEntries_eq (several : Bool) (file : AnalyzedFile) :
    fileEntries settings several file =
      .file (shownPath several file) (jsonAnalysis settings file) ::
        if settings.includeFunctions.truthy
          then file.analysis.units.map fun u => .function (shownPath several file) u.toValue else [] := by
  rw [fileEntries, jsonAnalysis_eq]
  cases settings.includeFunctions.truthy with
  | false => rfl
  | true =>
    show _ :: (file.analysis.units.map CodeUnit.toValue).map _ = _
    rw [List.map_map]
    rfl

/-- The records of a report are those of its files. -/
theorem entries_jsonValue (settings : Settings) (files : List AnalyzedFile) :
    entries (jsonValue settings files) = files.flatMap (fileEntries settings (decide (1 < files.length))) := by
  by_cases hone : files.length = 1
  · obtain ⟨file, rfl⟩ := List.length_eq_one_iff.mp hone
    rw [jsonValue, jsonAnalysis_eq, List.flatMap_singleton, fileEntries, jsonAnalysis_eq, entries]
    exact List.flatMap_singleton _ _
  · rw [jsonValue_of_length_ne_one hone]
    show ((files.map _).map _).flatMap entriesOf = _
    rw [List.map_map, List.flatMap_map]
    refine List.flatMap_congr fun file hfile => ?_
    -- If there is a file it is not the only one, and has its path in the report.
    have hpos := List.length_pos_of_mem hfile
    have hseveral : decide (1 < files.length) = true := decide_eq_true (by omega)
    rw [fileEntries, jsonAnalysis_eq, hseveral]
    rfl

/-! ## The rows of files -/

theorem plainCell_eq_ok {v : Value} {cell : String} : plainCell v = .ok cell ↔ v.isWritable = true ∧ cell = v.text := by
  unfold plainCell
  split
  · next h => simp [h, eq_comm]
  · next h => simp [h]

theorem nameCell_eq_ok {v : Value} {cell : String} : nameCell v = .ok cell ↔ ∃ s, v = .str s ∧ cell = escape s := by
  cases v <;> simp [nameCell, eq_comm]

/-- What stands in the row of a file. -/
theorem fileRow_eq_ok {file : AnalyzedFile} {row : List String} (h : fileRow settings file = .ok row) :
    ∃ path score average, file.path = .str path ∧
      row = [ "file", escape path, "-", "-", file.analysis.metrics.linesOfCode.text
            , file.analysis.metrics.cyclomaticComplexity.text, score, file.analysis.metrics.classCount.text
            , file.analysis.metrics.methodCount.text, average, file.analysis.metrics.depthOfInheritance.text ] := by
  unfold fileRow at h
  obtain ⟨name, hname, h⟩ := bind_eq_ok.mp h
  obtain ⟨path, hpath, rfl⟩ := nameCell_eq_ok.mp hname
  obtain ⟨lines, hlines, h⟩ := bind_eq_ok.mp h
  obtain ⟨-, rfl⟩ := plainCell_eq_ok.mp hlines
  obtain ⟨complexity, hcomplexity, h⟩ := bind_eq_ok.mp h
  obtain ⟨-, rfl⟩ := plainCell_eq_ok.mp hcomplexity
  obtain ⟨score, -, h⟩ := bind_eq_ok.mp h
  obtain ⟨classes, hclasses, h⟩ := bind_eq_ok.mp h
  obtain ⟨-, rfl⟩ := plainCell_eq_ok.mp hclasses
  obtain ⟨methods, hmethods, h⟩ := bind_eq_ok.mp h
  obtain ⟨-, rfl⟩ := plainCell_eq_ok.mp hmethods
  obtain ⟨average, -, h⟩ := bind_eq_ok.mp h
  obtain ⟨depth, hdepth, h⟩ := bind_eq_ok.mp h
  obtain ⟨-, rfl⟩ := plainCell_eq_ok.mp hdepth
  cases h
  exact ⟨path, score, average, hpath, rfl⟩

/-- What stands in the row of a function. -/
theorem functionRow_eq_ok {u : CodeUnit Value Value Value} {row : List String} (h : functionRow settings u = .ok row) :
    ∃ name score average, u.name = .str name ∧
      row = [ "function", escape name, u.kind.text, u.startLine.text ++ "-" ++ u.endLine.text
            , u.metrics.linesOfCode.text, u.metrics.cyclomaticComplexity.text, score, "-", u.metrics.methodCount.text
            , average, "-" ] := by
  unfold functionRow at h
  obtain ⟨cell, hcell, h⟩ := bind_eq_ok.mp h
  obtain ⟨name, hname, rfl⟩ := nameCell_eq_ok.mp hcell
  obtain ⟨first, hfirst, h⟩ := bind_eq_ok.mp h
  obtain ⟨-, rfl⟩ := plainCell_eq_ok.mp hfirst
  obtain ⟨last, hlast, h⟩ := bind_eq_ok.mp h
  obtain ⟨-, rfl⟩ := plainCell_eq_ok.mp hlast
  obtain ⟨lines, hlines, h⟩ := bind_eq_ok.mp h
  obtain ⟨-, rfl⟩ := plainCell_eq_ok.mp hlines
  obtain ⟨complexity, hcomplexity, h⟩ := bind_eq_ok.mp h
  obtain ⟨-, rfl⟩ := plainCell_eq_ok.mp hcomplexity
  obtain ⟨score, -, h⟩ := bind_eq_ok.mp h
  obtain ⟨methods, hmethods, h⟩ := bind_eq_ok.mp h
  obtain ⟨-, rfl⟩ := plainCell_eq_ok.mp hmethods
  obtain ⟨average, -, h⟩ := bind_eq_ok.mp h
  cases h
  exact ⟨name, score, average, hname, rfl⟩

/-- A report as a table with some rows. -/
def tableOf (several : Bool) (rows : List (List String)) : Table :=
  ⟨"Code Quality Metrics", (if several then [⟨"File", .left⟩] else []) ++ columns, rows⟩

/-- The cells in front of each row of a file. -/
def lead (several : Bool) (path : String) : List String := if several then [escape path] else []

theorem shows_file {file : AnalyzedFile} {row : List String} {path : String} (hpath : file.path = .str path)
    (h : fileRow settings file = .ok row) (several : Bool) (rows : List (List String)) :
    (tableOf several rows).Shows (.file (shownPath several file) (jsonAnalysis settings file))
      (lead several path ++ row) := by
  obtain ⟨name, score, average, hname, rfl⟩ := fileRow_eq_ok h
  obtain rfl : path = name := by simpa using hpath.symm.trans hname
  rw [jsonAnalysis_eq]
  cases several with
  | false =>
    exact ⟨rfl, ⟨rfl, nofun, ⟨_, rfl, rfl⟩, ⟨_, rfl, rfl⟩, ⟨_, rfl, rfl⟩, ⟨_, rfl, rfl⟩, ⟨_, rfl, rfl⟩⟩⟩
  | true =>
    refine ⟨rfl, ⟨rfl, ?_, ⟨_, rfl, rfl⟩, ⟨_, rfl, rfl⟩, ⟨_, rfl, rfl⟩, ⟨_, rfl, rfl⟩, ⟨_, rfl, rfl⟩⟩⟩
    rintro _ ⟨⟩
    exact ⟨⟨path, hpath, rfl⟩, ⟨path, hpath, rfl⟩⟩

theorem shows_function {file : AnalyzedFile} {u : CodeUnit Value Value Value} {row : List String} {path : String}
    (hpath : file.path = .str path) (h : functionRow settings u = .ok row) (several : Bool)
    (rows : List (List String)) :
    (tableOf several rows).Shows (.function (shownPath several file) u.toValue) (lead several path ++ row) := by
  obtain ⟨name, score, average, hname, rfl⟩ := functionRow_eq_ok h
  cases several with
  | false =>
    exact ⟨rfl, ⟨rfl, nofun, ⟨_, rfl, name, hname, rfl⟩, ⟨_, rfl, rfl⟩, ⟨_, _, rfl, rfl, rfl⟩, ⟨_, rfl, rfl⟩,
      ⟨_, rfl, rfl⟩, ⟨_, rfl, rfl⟩⟩⟩
  | true =>
    refine ⟨rfl, ⟨rfl, ?_, ⟨_, rfl, name, hname, rfl⟩, ⟨_, rfl, rfl⟩, ⟨_, _, rfl, rfl, rfl⟩, ⟨_, rfl, rfl⟩,
      ⟨_, rfl, rfl⟩, ⟨_, rfl, rfl⟩⟩⟩
    rintro _ ⟨⟩
    exact ⟨path, hpath, rfl⟩

/-- The rows of a file show its records. -/
theorem shows_fileRows {file : AnalyzedFile} {several : Bool} {block : List (List String)}
    (h : fileRows settings several file = .ok block) (rows : List (List String)) :
    List.Forall₂ (tableOf several rows).Shows (fileEntries settings several file) block := by
  rw [fileRows_eq] at h
  obtain ⟨front, hfront, h⟩ := bind_eq_ok.mp h
  obtain ⟨first, hfirst, h⟩ := bind_eq_ok.mp h
  obtain ⟨others, hothers, h⟩ := bind_eq_ok.mp h
  -- The row of the file is there, so that its path is a text.
  obtain ⟨path, _, _, hpath, -⟩ := fileRow_eq_ok hfirst
  obtain rfl : lead several path = front := by
    rw [hpath] at hfront
    cases several <;> cases hfront <;> rfl
  cases h
  rw [fileEntries_eq, List.map_cons]
  refine .cons (shows_file hpath hfirst several rows) ?_
  cases hfunctions : settings.includeFunctions.truthy with
  | false =>
    rw [hfunctions] at hothers
    cases hothers
    exact .nil
  | true =>
    rw [hfunctions] at hothers
    rw [if_pos rfl, List.forall₂_map_left_iff, List.forall₂_map_right_iff]
    exact (mapM_eq_ok.mp hothers).imp fun u row hrow => shows_function hpath hrow several rows

theorem table_eq_ok {files : List AnalyzedFile} {t : Table} (h : table settings files = .ok t) :
    ∃ blocks, List.Forall₂ (fun file block => fileRows settings (decide (1 < files.length)) file = .ok block) files blocks ∧
      t = tableOf (decide (1 < files.length)) blocks.flatten := by
  obtain ⟨blocks, hblocks, ht⟩ := bind_eq_ok.mp h
  cases ht
  exact ⟨blocks, mapM_eq_ok.mp hblocks, rfl⟩

/-- The rows of a table show the records of the JSON report, one after the other. -/
theorem shows_of_table {files : List AnalyzedFile} {t : Table} (h : table settings files = .ok t) :
    List.Forall₂ t.Shows (entries (jsonValue settings files)) t.rows := by
  obtain ⟨blocks, hblocks, rfl⟩ := table_eq_ok h
  rw [entries_jsonValue, List.flatMap_def]
  refine List.rel_flatten (List.forall₂_map_left_iff.mpr ?_)
  exact hblocks.imp fun file block hblock => shows_fileRows hblock _

theorem columns_of_table {files : List AnalyzedFile} {t : Table} (h : table settings files = .ok t) :
    t.columns = (if 1 < files.length then [⟨"File", .left⟩] else []) ++ columns := by
  obtain ⟨blocks, -, rfl⟩ := table_eq_ok h
  simp [tableOf]

/-! ## When there are reports -/

theorem endsIn_plainCell (v : Value) : EndsIn (.rejected .unwritable) (plainCell v) := by
  unfold plainCell
  split
  · exact .inl ⟨_, rfl⟩
  · exact .inr rfl

section Numeric

variable {places : Nat} (hdecimals : settings.decimals = .int places)

include hdecimals

theorem endsIn_fileRow {file : AnalyzedFile} (h : file.IsNumeric) :
    EndsIn (.rejected .unwritable) (fileRow settings file) := by
  obtain ⟨name, hname, -⟩ := exists_nameCell h.path
  obtain ⟨⟨score, hscore, -⟩, average, haverage, -⟩ := exists_scoreCells hdecimals h.metrics
  unfold fileRow
  refine EndsIn.bind (.inl ⟨name, hname⟩) fun _ => ?_
  refine (endsIn_plainCell _).bind fun _ => (endsIn_plainCell _).bind fun _ => ?_
  refine EndsIn.bind (.inl ⟨score, hscore⟩) fun _ => ?_
  refine (endsIn_plainCell _).bind fun _ => (endsIn_plainCell _).bind fun _ => ?_
  refine EndsIn.bind (.inl ⟨average, haverage⟩) fun _ => ?_
  exact (endsIn_plainCell _).bind fun _ => .inl ⟨_, rfl⟩

theorem endsIn_functionRow {u : CodeUnit Value Value Value} (h : u.IsNumeric) :
    EndsIn (.rejected .unwritable) (functionRow settings u) := by
  obtain ⟨name, hname, -⟩ := exists_nameCell h.name
  obtain ⟨⟨score, hscore, -⟩, average, haverage, -⟩ := exists_scoreCells hdecimals h.metrics
  unfold functionRow
  refine EndsIn.bind (.inl ⟨name, hname⟩) fun _ => ?_
  refine (endsIn_plainCell _).bind fun _ => (endsIn_plainCell _).bind fun _ => ?_
  refine (endsIn_plainCell _).bind fun _ => (endsIn_plainCell _).bind fun _ => ?_
  refine EndsIn.bind (.inl ⟨score, hscore⟩) fun _ => ?_
  refine (endsIn_plainCell _).bind fun _ => ?_
  exact EndsIn.bind (.inl ⟨average, haverage⟩) fun _ => .inl ⟨_, rfl⟩

theorem endsIn_fileRows {file : AnalyzedFile} (h : file.IsNumeric) (several : Bool) :
    EndsIn (.rejected .unwritable) (fileRows settings several file) := by
  obtain ⟨name, hname, -⟩ := exists_nameCell h.path
  rw [fileRows_eq]
  refine EndsIn.bind ?_ fun _ => (endsIn_fileRow hdecimals h).bind fun _ => EndsIn.bind ?_ fun _ => .inl ⟨_, rfl⟩
  · cases several with
    | false => exact .inl ⟨[], rfl⟩
    | true => exact .inl ⟨[name], by rw [hname]; rfl⟩
  · split
    · exact EndsIn.mapM fun u hu => endsIn_functionRow hdecimals (h.units u hu)
    · exact .inl ⟨[], rfl⟩

/-- A table is refused only for a whole number that cannot be written out, and then JSON is refused as well. -/
theorem table_or_unwritable {files : List AnalyzedFile} (h : ∀ file ∈ files, file.IsNumeric) :
    (∃ t, table settings files = .ok t) ∨
    (table settings files = .error (.rejected .unwritable) ∧ json settings files = .error (.rejected .unwritable)) := by
  have hends : EndsIn (.rejected .unwritable) (table settings files) :=
    EndsIn.bind (EndsIn.mapM fun file hfile => endsIn_fileRows hdecimals (h file hfile) _) fun _ => .inl ⟨_, rfl⟩
  refine hends.imp_right fun htable => ⟨htable, ?_⟩
  have hwritable : ¬(jsonValue settings files).isWritable = true := by
    intro hwritable
    obtain ⟨t, ht, -⟩ := exists_table hdecimals h hwritable
    rw [htable] at ht
    cases ht
  rw [json]
  exact if_neg hwritable

end Numeric

end Report

/-! ## Files of numbers -/

theorem isData_of_num? {v : Value} (h : v.num?.isSome = true) : Json.IsData v := by
  cases v with
  | bool b => exact .bool b
  | int n => exact .int n
  | float x => exact .float x
  | _ => cases h

theorem Metrics.IsNumeric.isData {m : Metrics Value Value} (h : m.IsNumeric) : Json.IsData m.toValue := by
  have hscore : ∀ v ∈ [m.maintainabilityIndex, m.averageMethodComplexity], v.num?.isSome = true := by
    intro v hv
    obtain ⟨x, hx, -⟩ := h.scores v hv
    exact Option.isSome_of_eq_some hx
  have hcounts := h.counts
  simp only [List.forall_mem_cons] at hcounts hscore
  refine isData_metrics fun v hv => isData_of_num? ?_
  revert v
  simp only [List.forall_mem_cons]
  exact ⟨hcounts.1, hcounts.2.1, hscore.1, hcounts.2.2.1, hcounts.2.2.2.1, hcounts.2.2.2.2.1, hscore.2.1, nofun⟩

theorem AnalyzedFile.IsNumeric.isData {file : AnalyzedFile} (h : file.IsNumeric) : file.IsData := by
  obtain ⟨path, hpath⟩ := h.path
  refine ⟨hpath ▸ .str path, .object (by simp [Fields.keys]) ?_⟩
  simp only [List.forall_mem_cons]
  refine ⟨h.metrics.isData, .list fun v hv => ?_, nofun⟩
  obtain ⟨u, hu, rfl⟩ := List.mem_map.mp hv
  obtain ⟨name, hname⟩ := (h.units u hu).name
  have hlines := (h.units u hu).lines
  refine .object (by simp [Fields.keys]) ?_
  simp only [List.forall_mem_cons] at hlines ⊢
  exact ⟨hname ▸ .str name, .str _, isData_of_num? hlines.1, isData_of_num? hlines.2.1, (h.units u hu).metrics.isData,
    nofun⟩

/-! ## The two reports -/

/-- **A table and the JSON report of the same files have the same records.** The rows of a table show the records of the
JSON report one by one: for every file in order the record of the file, and if functions are included those of its
functions, in the order of their list. Every row has a cell for each of the columns, of which the one for the path is
there for several files only. With a natural number of decimal places there is a table, unless a whole number cannot be
written out, for which JSON is refused as well; and a text in JSON is read back as the report. -/
theorem formats_agree (settings : Settings) (files : List AnalyzedFile) :
    (∀ t, Report.table settings files = .ok t →
      List.Forall₂ t.Shows (Report.entries (Report.jsonValue settings files)) t.rows ∧
      t.columns = (if 1 < files.length then [⟨"File", .left⟩] else []) ++ Report.columns ∧
      t.columns.length = if 1 < files.length then 12 else 11) ∧
    (Report.entries (Report.jsonValue settings files) = files.flatMap fun file =>
      let path? := if 1 < files.length then some file.path else none
      .file path? (Report.jsonAnalysis settings file) ::
        if settings.includeFunctions.truthy then file.analysis.units.map fun u => .function path? u.toValue else []) ∧
    ∀ places : Nat, settings.decimals = .int places → (∀ file ∈ files, file.IsNumeric) →
      ((∃ t, Report.table settings files = .ok t) ∨
        (Report.table settings files = .error (.rejected .unwritable) ∧
          Report.json settings files = .error (.rejected .unwritable))) ∧
      ∀ text, Report.json settings files = .ok text → Json.read text.toList = .ok (Report.jsonValue settings files) := by
  refine ⟨fun t ht => ⟨Report.shows_of_table ht, Report.columns_of_table ht, ?_⟩, ?_, ?_⟩
  · rw [Report.columns_of_table ht]
    split <;> rfl
  · rw [Report.entries_jsonValue]
    refine List.flatMap_congr fun file _ => ?_
    rw [Report.fileEntries_eq, Report.shownPath]
    simp only [decide_eq_true_eq]
  · intro places hdecimals h
    refine ⟨Report.table_or_unwritable hdecimals h, fun text htext => ?_⟩
    rw [Report.json] at htext
    split at htext
    · next hwritable =>
      cases htext
      have hdata := @Report.isData_jsonValue settings files fun file hfile => (h file hfile).isData
      exact Json.read_write (Json.isValue_iff.mpr ⟨hdata, hwritable⟩)
    · cases htext

/-- Two files, the first of them with a function. -/
theorem formats_of_two_files :
    ∃ t, Report.table Settings.default [lambdaFile, emptyFile] = .ok t ∧ t.columns.length = 12 ∧ t.rows.length = 3 ∧
      List.Forall₂ t.Shows (Report.entries (Report.jsonValue Settings.default [lambdaFile, emptyFile])) t.rows := by
  obtain ⟨hagree, hentries, hreports⟩ := formats_agree Settings.default [lambdaFile, emptyFile]
  have hnumeric : ∀ file ∈ [lambdaFile, emptyFile], file.IsNumeric :=
    List.forall_mem_cons.mpr ⟨isNumeric_report _ (List.forall_mem_singleton.mpr ⟨_, rfl⟩),
      List.forall_mem_singleton.mpr isNumeric_emptyFile⟩
  have hwritable : (Report.jsonValue Settings.default [lambdaFile, emptyFile]).isWritable = true := by decide +kernel
  obtain ⟨t, ht⟩ : ∃ t, Report.table Settings.default [lambdaFile, emptyFile] = .ok t := by
    rcases (hreports 2 rfl hnumeric).1 with ht | ⟨-, hjson⟩
    · exact ht
    · rw [Report.json, if_pos hwritable] at hjson
      cases hjson
  obtain ⟨hshows, -, hcolumns⟩ := hagree t ht
  refine ⟨t, ht, hcolumns, ?_, hshows⟩
  rw [← hshows.length_eq, hentries]
  rfl

end CodeMetrics
