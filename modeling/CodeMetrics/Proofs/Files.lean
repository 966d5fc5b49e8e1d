import CodeMetrics.Files
import CodeMetrics.Proofs.Loading.Malformed

/-!
# How the analysis of a file ends

A file is reported as a problem if it cannot be opened, holds no JSON or holds no tree; the analysis is then empty unless
problems are to be passed on. Bytes that are no text, and whole numbers with too many digits, are not among these
problems: they are rejected as values, and whoever asked for the analysis has to deal with that. What is left is analysed
as the document in the file.

* `readDocument_rejected_iff` — which files are rejected
* `analysis_of_file` — the three ways in which an analysis can end
-/

namespace CodeMetrics

open Outcome

/-- A file is not there to be read, or its content is no tree. -/
inductive Error.IsLoadProblem : Error → Prop
  | fileAccess (path reason : String) : IsLoadProblem (.problem (.fileAccess path reason))
  | treeFormat (reason : TreeFault) (location : String) : IsLoadProblem (.problem (.treeFormat reason location))

/-- A file is rejected before there is a document to speak of. -/
inductive RejectedFile (look : String → Entry) (path : String) : Rejection → Prop
  | embeddedNull (hpath : Text.hasNull (Text.normalPath path) = true) : RejectedFile look path .embeddedNull
  | undecodable {bytes : List Nat} {e : Text.Utf8Error} (hpath : Text.hasNull (Text.normalPath path) = false)
      (hfile : look (Text.normalPath path) = .file bytes) (htext : Text.decodeUtf8 bytes = .error e) :
      RejectedFile look path (.undecodable e)
  | integerTooLong {bytes : List Nat} {text : List Char} {f : Json.Failure} {digits : Nat}
      (hpath : Text.hasNull (Text.normalPath path) = false) (hfile : look (Text.normalPath path) = .file bytes)
      (htext : Text.decodeUtf8 bytes = .ok text) (hread : Json.read (Text.newlines text) = .error f)
      (hfault : f.fault = .integerTooLong digits) : RejectedFile look path (.integerTooLong digits)

/-! ## Reading -/

section Reading

variable {look : String → Entry} {path : String}

theorem Entry.bytes_eq_ok {entry : Entry} {bytes : List Nat} : entry.bytes = .ok bytes ↔ entry = .file bytes := by
  cases entry <;> simp [Entry.bytes]

/-- A text that is no JSON is a problem, unless a whole number in it has too many digits. -/
theorem documentOf_cases (path : String) (text : List Char) :
    (∃ document, Json.read text = .ok document ∧ documentOf path text = .ok document) ∨
    ∃ f, Json.read text = .error f ∧
      ((∃ digits, f.fault = .integerTooLong digits ∧ documentOf path text = .error (.rejected (.integerTooLong digits))) ∨
        ((∀ digits, f.fault ≠ .integerTooLong digits) ∧
          documentOf path text = .error (.problem (.treeFormat (.invalidJson f.fault (f.line text)) path)))) := by
  unfold documentOf
  cases Json.read text with
  | ok document => exact .inl ⟨document, rfl, rfl⟩
  | error f =>
    refine .inr ⟨f, rfl, ?_⟩
    dsimp only
    split
    · next digits hfault => exact .inl ⟨digits, hfault, rfl⟩
    · next hfault => exact .inr ⟨hfault, rfl⟩

/-- How the reading of a file ends: with a document, with a problem, or with a rejection of which there is a reason. -/
theorem readDocument_cases (look : String → Entry) (path : String) :
    (∃ document, readDocument look path = .ok document ∧ document.hasDistinctKeys) ∨
    (∃ e, readDocument look path = .error e ∧ e.IsLoadProblem) ∨
    ∃ r, readDocument look path = .error (.rejected r) ∧ RejectedFile look path r := by
  unfold readDocument
  dsimp only
  cases hpath : Text.hasNull (Text.normalPath path) with
  | true => exact .inr (.inr ⟨_, rfl, .embeddedNull hpath⟩)
  | false =>
    rw [if_neg Bool.false_ne_true]
    cases hbytes : (look (Text.normalPath path)).bytes with
    | error fault => exact .inr (.inl ⟨_, rfl, .fileAccess _ _⟩)
    | ok bytes =>
      have hfile := Entry.bytes_eq_ok.mp hbytes
      dsimp only
      cases htext : Text.decodeUtf8 bytes with
      | error e => exact .inr (.inr ⟨_, rfl, .undecodable hpath hfile htext⟩)
      | ok text =>
        rcases documentOf_cases (Text.normalPath path) (Text.newlines text) with
          ⟨document, hread, hdocument⟩ | ⟨f, hread, ⟨digits, hfault, hdocument⟩ | ⟨-, hdocument⟩⟩
        · exact .inl ⟨document, hdocument, Json.read_hasDistinctKeys hread⟩
        · exact .inr (.inr ⟨_, hdocument, .integerTooLong hpath hfile htext hread hfault⟩)
        · exact .inr (.inl ⟨_, hdocument, .treeFormat _ _⟩)

/-- What is rejected is rejected for its own reason. -/
theorem RejectedFile.readDocument_eq {r : Rejection} (h : RejectedFile look path r) :
    readDocument look path = .error (.rejected r) := by
  unfold readDocument
  cases h with
  | embeddedNull hpath => rw [if_pos hpath]
  | undecodable hpath hfile htext =>
    simp only [hpath, hfile, Entry.bytes, htext, Bool.false_eq_true, if_false]
  | integerTooLong hpath hfile htext hread hfault =>
    simp only [hpath, hfile, Entry.bytes, htext, documentOf, hread, hfault, Bool.false_eq_true, if_false]

/-- **A file is rejected exactly if** its path has a null character, its bytes are no text, or the text fails as JSON over
a whole number with too many digits. -/
theorem readDocument_rejected_iff {r : Rejection} :
    readDocument look path = .error (.rejected r) ↔ RejectedFile look path r := by
  refine ⟨fun h => ?_, RejectedFile.readDocument_eq⟩
  rcases readDocument_cases look path with ⟨document, hdocument, -⟩ | ⟨e, he, hproblem⟩ | ⟨r', hr', hrejected⟩
  · cases h.symm.trans hdocument
  · cases h.symm.trans he
    cases hproblem
  · cases h.symm.trans hr'
    exact hrejected

end Reading

/-! ## Analysing -/

section Analysing

variable {σ : Type} [Scalar σ] {look : String → Entry} {path : String}

theorem loadFile_of_error {e : Error} (h : readDocument look path = .error e) :
    Node.loadFile look path = ⟨[], .error e⟩ := by
  rw [Node.loadFile, h]
  rfl

theorem loadFile_of_document {document : Value} (h : readDocument look path = .ok document) :
    Node.loadFile look path = Node.load document := by
  rw [Node.loadFile, h]
  rfl

/-- A problem is noted, and the analysis is then empty; or it is passed on. -/
theorem analyzePath_of_problem {p : Problem} (h : Node.loadFile look path = ⟨[], .error (.problem p)⟩)
    (settings : Settings) :
    (analyzePath look path settings false : Traced (Analysis Nat σ Num))
        = ⟨[⟨.error, "qualytics.api", "Failed to load " ++ path ++ ": " ++ p.message⟩], .ok Analysis.empty⟩ ∧
      (analyzePath look path settings true : Traced (Analysis Nat σ Num)) = ⟨[], .error (.problem p)⟩ := by
  unfold analyzePath
  rw [h]
  exact ⟨rfl, rfl⟩

theorem analyzePath_of_rejection {r : Rejection} (h : Node.loadFile look path = ⟨[], .error (.rejected r)⟩)
    (settings : Settings) (strict : Bool) :
    (analyzePath look path settings strict : Traced (Analysis Nat σ Num)) = ⟨[], .error (.rejected r)⟩ := by
  unfold analyzePath
  rw [h]
  rfl

theorem analyzePath_of_document {document : Value} {root : Node} (h : readDocument look path = .ok document)
    (hload : (Node.load document).outcome = .ok root) (settings : Settings) (strict : Bool) :
    (analyzePath look path settings strict : Traced (Analysis Nat σ Num)) = analyzeDocument document settings := by
  unfold analyzePath
  rw [loadFile_of_document h]
  dsimp only
  rw [hload]
  rfl

/-- **The analysis of a file ends in one of three ways.** A file that is rejected ends it with that rejection, whether
problems are passed on or not. Any other file that fails to load is a problem of access or of format: it is noted once
and the analysis is empty, or it is passed on. All other files are analysed as the document in them. -/
theorem analysis_of_file (look : String → Entry) (path : String) (settings : Settings) :
    let analyzed := fun strict => (analyzePath look path settings strict : Traced (Analysis Nat σ Num))
    (∃ r, RejectedFile look path r ∧ (Node.loadFile look path).outcome = .error (.rejected r) ∧
      ∀ strict, analyzed strict = ⟨[], .error (.rejected r)⟩) ∨
    ((∀ r, ¬RejectedFile look path r) ∧
      ((∃ p, (Error.problem p).IsLoadProblem ∧ (Node.loadFile look path).outcome = .error (.problem p) ∧
        analyzed false
          = ⟨[⟨.error, "qualytics.api", "Failed to load " ++ path ++ ": " ++ p.message⟩], .ok Analysis.empty⟩ ∧
        analyzed true = ⟨[], .error (.problem p)⟩) ∨
      ∃ document root, readDocument look path = .ok document ∧ (Node.load document).outcome = .ok root ∧
        ∀ strict, analyzed strict = analyzeDocument document settings)) := by
  intro analyzed
  rcases readDocument_cases look path with ⟨document, hread, hkeys⟩ | ⟨e, hread, hproblem⟩ | ⟨r, hread, hrejected⟩
  · have hnot : ∀ r, ¬RejectedFile look path r := by
      intro r hr
      cases hread.symm.trans hr.readDocument_eq
    refine .inr ⟨hnot, ?_⟩
    cases hload : (Node.load document).outcome with
    | ok root => exact .inr ⟨document, root, hread, hload, analyzePath_of_document hread hload settings⟩
    | error e =>
      obtain ⟨hmalformed, hloaded⟩ := Node.load_of_error hkeys hload
      cases hmalformed with
      | treeFormat reason location =>
        rw [← loadFile_of_document hread] at hloaded
        exact .inl ⟨_, .treeFormat reason location, by rw [hloaded], analyzePath_of_problem hloaded settings⟩
  · have hnot : ∀ r, ¬RejectedFile look path r := by
      intro r hr
      cases hread.symm.trans hr.readDocument_eq
      cases hproblem
    have hloaded := loadFile_of_error hread
    refine .inr ⟨hnot, .inl ?_⟩
    cases hproblem with
    | fileAccess name reason =>
      exact ⟨_, .fileAccess name reason, by rw [hloaded], analyzePath_of_problem hloaded settings⟩
    | treeFormat reason location =>
      exact ⟨_, .treeFormat reason location, by rw [hloaded], analyzePath_of_problem hloaded settings⟩
  · have hloaded := loadFile_of_error hread
    exact .inl ⟨r, hrejected, by rw [hloaded], analyzePath_of_rejection hloaded settings⟩

end Analysing

/-- A file of one byte that starts no character ends an analysis, although problems are not passed on. -/
theorem undecodable_file_ends_analysis :
    (analyzePath (fun _ => .file [0xff]) "doc.json" Settings.default false : Traced Measured).outcome
      = .error (.rejected (.undecodable ⟨0, 1, 0xff, .start⟩)) := by
  have hrejected : RejectedFile (fun _ => .file [0xff]) "doc.json" (.undecodable ⟨0, 1, 0xff, .start⟩) :=
    .undecodable (by decide) rfl rfl
  rw [analyzePath_of_rejection (loadFile_of_error hrejected.readDocument_eq)]

end CodeMetrics
