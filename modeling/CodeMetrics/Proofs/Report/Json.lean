import CodeMetrics.Proofs.Json.RoundTrip
import CodeMetrics.Report.Table

/-!
# Reports are read back

The JSON text of a report is read as what was reported: one file as its analysis, any other number of files as a list of
paths with analyses, in order. Leaving out the functions empties their lists and changes nothing else.

* `isData_report` — whatever is measured is data
* `json_text_read_back` — the text of a report
-/

namespace CodeMetrics

open Json

/-! ## Analyses are data -/

theorem isData_ofNum (x : Num) : IsData (Value.ofNum x) := by
  cases x with
  | int n => exact .int n
  | float x => exact .float x
  | flag b => exact .bool b

/-- Metrics are data if each of their values is. -/
theorem isData_metrics {m : Metrics Value Value} (h : ∀ v ∈ [m.linesOfCode, m.cyclomaticComplexity, m.maintainabilityIndex,
    m.depthOfInheritance, m.classCount, m.methodCount, m.averageMethodComplexity], IsData v) : IsData m.toValue := by
  refine .object (by simp [Fields.keys]) ?_
  simpa using h

theorem isData_measuredMetrics (m : Metrics Nat Float) : IsData m.report.toValue := by
  refine isData_metrics ?_
  simp only [List.forall_mem_cons]
  exact ⟨.int _, .int _, .float _, .int _, .int _, .int _, .float _, nofun⟩

/-- What is measured is data if the names of its units are. -/
theorem isData_report {a : Measured} (h : ∀ u ∈ a.units, IsData u.name) : IsData a.report.toValue := by
  refine .object (by simp [Fields.keys]) ?_
  simp only [List.forall_mem_cons]
  refine ⟨isData_measuredMetrics a.metrics, .list fun v hv => ?_, nofun⟩
  obtain ⟨_, hmem, rfl⟩ := List.mem_map.mp hv
  obtain ⟨u, hu, rfl⟩ := List.mem_map.mp hmem
  refine .object (by simp [Fields.keys]) ?_
  simp only [List.forall_mem_cons]
  exact ⟨h u hu, .str _, isData_ofNum _, isData_ofNum _, isData_measuredMetrics u.metrics, nofun⟩

/-- An analysed file whose path and analysis are data. -/
structure AnalyzedFile.IsData (file : AnalyzedFile) : Prop where
  path : Json.IsData file.path
  analysis : Json.IsData file.analysis.toValue

/-! ## Reports -/

/-- An analysis as it is reported, with its functions or without them. -/
def Analysis.shown (functions : Bool) (a : Reported) : Value :=
  .object
    [ ("fileMetrics", a.metrics.toValue)
    , ("functions", .list (if functions then a.units.map CodeUnit.toValue else [])) ]

namespace Report

theorem jsonAnalysis_eq (settings : Settings) (file : AnalyzedFile) :
    jsonAnalysis settings file = file.analysis.shown settings.includeFunctions.truthy := by
  unfold jsonAnalysis withFunctions Analysis.shown
  split <;> rfl

theorem isData_shown (functions : Bool) {file : AnalyzedFile} (h : file.IsData) :
    Json.IsData (file.analysis.shown functions) := by
  obtain _ | _ | _ | _ | _ | _ | ⟨-, hfields⟩ := h.analysis
  obtain ⟨hmetrics, hunits, -⟩ := List.forall_mem_cons.mp hfields |>.imp_right List.forall_mem_cons.mp
  refine .object (by simp [Fields.keys]) ?_
  simp only [List.forall_mem_cons]
  refine ⟨hmetrics, ?_, nofun⟩
  cases functions with
  | true => exact hunits
  | false => exact .list nofun

theorem jsonValue_of_length_ne_one {settings : Settings} {files : List AnalyzedFile} (h : files.length ≠ 1) :
    jsonValue settings files = .object [("files", .list (files.map fun file =>
      .object [("path", file.path), ("analysis", file.analysis.shown settings.includeFunctions.truthy)]))] := by
  simp only [← jsonAnalysis_eq]
  match files, h with
  | [], _ => rfl
  | [_], h => exact absurd rfl h
  | _ :: _ :: _, _ => rfl

theorem isData_jsonValue {settings : Settings} {files : List AnalyzedFile} (h : ∀ file ∈ files, file.IsData) :
    Json.IsData (jsonValue settings files) := by
  by_cases hone : files.length = 1
  · obtain ⟨file, rfl⟩ := List.length_eq_one_iff.mp hone
    rw [jsonValue, jsonAnalysis_eq]
    exact isData_shown _ (h file List.mem_cons_self)
  · rw [jsonValue_of_length_ne_one hone]
    refine .object (by simp [Fields.keys]) (List.forall_mem_singleton.mpr (.list fun v hv => ?_))
    obtain ⟨file, hfile, rfl⟩ := List.mem_map.mp hv
    refine .object (by simp [Fields.keys]) ?_
    simp only [List.forall_mem_cons]
    exact ⟨(h file hfile).path, isData_shown _ (h file hfile), nofun⟩

end Report

/-- **The JSON text of a report is read back as the report.** There is such a text exactly if all whole numbers can be
written out. -/
theorem json_text_read_back (settings : Settings) {files : List AnalyzedFile} (h : ∀ file ∈ files, file.IsData) :
    ((∃ text, Format.json.text settings files = .ok text) ↔ (Report.jsonValue settings files).isWritable = true) ∧
    ∀ text, Format.json.text settings files = .ok text →
      (∀ file, files = [file] →
        Json.read text.toList = .ok (file.analysis.shown settings.includeFunctions.truthy)) ∧
      (files.length ≠ 1 →
        Json.read text.toList = .ok (.object [("files", .list (files.map fun file =>
          .object [("path", file.path), ("analysis", file.analysis.shown settings.includeFunctions.truthy)]))])) := by
  have htext : Format.json.text settings files
      = if (Report.jsonValue settings files).isWritable then .ok (Json.write (Report.jsonValue settings files))
        else .error (.rejected .unwritable) := rfl
  rw [htext]
  by_cases hwritable : (Report.jsonValue settings files).isWritable = true
  · rw [if_pos hwritable]
    refine ⟨⟨fun _ => hwritable, fun _ => ⟨_, rfl⟩⟩, ?_⟩
    rintro text hwritten
    cases hwritten
    have hread := read_write (isValue_iff.mpr ⟨Report.isData_jsonValue h, hwritable⟩)
    refine ⟨?_, fun hlength => ?_⟩
    · rintro file rfl
      rwa [Report.jsonValue, Report.jsonAnalysis_eq] at hread ⊢
    · rwa [Report.jsonValue_of_length_ne_one hlength] at hread ⊢
  · rw [if_neg hwritable]
    exact ⟨⟨nofun, fun h => absurd h hwritable⟩, nofun⟩

/-- A file with one function, under names that are not in ASCII. -/
def lambdaFile : AnalyzedFile :=
  ⟨.str "\u03bb.json", Measured.report ⟨Metrics.none, [⟨.str "\u03bb", .arrow, .int 1, .int 2, Metrics.none⟩]⟩⟩

/-- Such a file is read back, with its function and its names. -/
theorem lambdaFile_read_back :
    (∀ file ∈ [lambdaFile], file.IsData) ∧
    ∃ text, Format.json.text Settings.default [lambdaFile] = .ok text ∧
      Json.read text.toList = .ok (lambdaFile.analysis.shown true) := by
  have hdata : ∀ file ∈ [lambdaFile], file.IsData :=
    List.forall_mem_singleton.mpr ⟨.str _, isData_report (List.forall_mem_singleton.mpr (.str _))⟩
  obtain ⟨hexists, hread⟩ := json_text_read_back Settings.default hdata
  obtain ⟨text, htext⟩ := hexists.mpr (by decide +kernel)
  exact ⟨hdata, text, htext, (hread text htext).1 lambdaFile rfl⟩

end CodeMetrics
