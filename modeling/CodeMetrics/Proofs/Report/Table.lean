import CodeMetrics.Proofs.Loading.Reading
import CodeMetrics.Proofs.Report.Json
import CodeMetrics.Proofs.Text.Markup
import CodeMetrics.Report.Table

/-!
# When a report can be written

The settings that are accepted hold a number of decimal places between nought and ten, but not every such number is a whole
one. With a whole number every table can be drawn: the texts of numbers hold no markup, names are escaped, and the colours
of scores can be read. With any other number the first score of a table is refused. JSON has no use for decimal places.

* `Drawable` — cells that can be drawn: escaped texts, numbers, coloured numbers
* `exists_render` — a table of such cells can be drawn
* `exists_fileRows`, `fileRows_rejected` — the rows of a file have such cells exactly if the decimal places are a whole number
* `report_text_of_settings` — which settings give a text in which format
-/

namespace CodeMetrics

open Number Text Markup Outcome

/-! ## Texts of numbers -/

/-- A text that stands for itself in markup, whatever is around it. -/
def IsPlainText (cs : List Char) : Prop := ∀ c ∈ cs, c ≠ '\\' ∧ c ≠ '['

instance (cs : List Char) : Decidable (IsPlainText cs) := inferInstanceAs (Decidable (∀ c ∈ cs, c ≠ '\\' ∧ c ≠ '['))

theorem isPlainText_append {cs ds : List Char} : IsPlainText (cs ++ ds) ↔ IsPlainText cs ∧ IsPlainText ds :=
  List.forall_mem_append

theorem isPlainText_cons {c : Char} {cs : List Char} :
    IsPlainText (c :: cs) ↔ (c ≠ '\\' ∧ c ≠ '[') ∧ IsPlainText cs := List.forall_mem_cons

theorem IsPlainText.of_subset {cs ds : List Char} (h : IsPlainText ds) (hsub : cs ⊆ ds) : IsPlainText cs :=
  fun c hc => h c (hsub hc)

theorem isPlainText_replicate (n : Nat) : IsPlainText (List.replicate n '0') := by
  intro c hc
  rw [List.eq_of_mem_replicate hc]
  decide

theorem isPlainText_toDigits (n : Nat) : IsPlainText (Nat.toDigits 10 n) := by
  intro c hc
  have hdigit := Nat.isDigit_of_mem_toDigits (by decide) (by decide) hc
  constructor <;> rintro rfl <;> exact absurd hdigit (by decide)

theorem isPlainText_padLeft (width : Nat) {digits : List Char} (h : IsPlainText digits) :
    IsPlainText (padLeft width digits) :=
  isPlainText_append.mpr ⟨isPlainText_replicate _, h⟩

theorem isPlainText_positional (style : Style) {digits : List Char} (h : IsPlainText digits) (n : Int) :
    IsPlainText (style.positional digits n) := by
  unfold Style.positional
  split
  · simp only [isPlainText_cons, isPlainText_append]
    exact ⟨by decide, by decide, isPlainText_replicate _, h⟩
  · split
    · simp only [isPlainText_append]
      refine ⟨⟨h, isPlainText_replicate _⟩, ?_⟩
      split <;> decide
    · simp only [isPlainText_cons, isPlainText_append]
      exact ⟨h.of_subset (List.take_subset _ _), by decide, h.of_subset (List.drop_subset _ _)⟩

theorem isPlainText_exponential (style : Style) {digits : List Char} (h : IsPlainText digits) (n : Int) :
    IsPlainText (style.exponential digits n) := by
  unfold Style.exponential
  simp only [isPlainText_cons, isPlainText_append]
  refine ⟨?_, by decide, by split <;> decide, isPlainText_padLeft _ (isPlainText_toDigits _)⟩
  split
  · decide
  · exact h
  · rw [isPlainText_cons] at h
    simp only [isPlainText_cons]
    exact ⟨h.1, by decide, h.2⟩

theorem isPlainText_signed (negative : Bool) {text : String} (h : IsPlainText text.toList) :
    IsPlainText (signed negative text).toList := by
  unfold signed
  split
  · rw [String.toList_append]
    exact isPlainText_append.mpr ⟨by decide, h⟩
  · exact h

theorem isPlainText_intText (n : Int) : IsPlainText (intText n).toList := by
  have hnat : IsPlainText (natText n.natAbs).toList := by
    rw [natText, String.toList_ofList]
    exact isPlainText_toDigits _
  unfold intText
  split
  · rw [String.toList_append]
    exact isPlainText_append.mpr ⟨by decide, hnat⟩
  · exact hnat

theorem isPlainText_report (x : Float) : IsPlainText (Style.report.text x).toList := by
  unfold Style.text
  split
  · decide
  · exact isPlainText_signed _ (by decide)
  · split
    · exact isPlainText_signed _ (by decide)
    · refine isPlainText_signed _ ?_
      rw [String.toList_ofList, Style.decimal]
      split
      · exact isPlainText_positional _ (isPlainText_toDigits _) _
      · exact isPlainText_exponential _ (isPlainText_toDigits _) _

/-- The text of a number holds no markup. -/
theorem isPlainText_text (x : Num) : IsPlainText x.text.toList := by
  cases x with
  | int n => exact isPlainText_intText n
  | float x => exact isPlainText_report x
  | flag b => cases b <;> decide

theorem isPlainText_fixed (places : Nat) (x : Float) : IsPlainText (fixed places x).toList := by
  have hdigits : ∀ m q, IsPlainText (padLeft (places + 1) (Nat.toDigits 10 (roundPlaces places m q))) :=
    fun m q => isPlainText_padLeft _ (isPlainText_toDigits _)
  unfold fixed
  split
  · decide
  · exact isPlainText_signed _ (by decide)
  · next m q _ =>
    refine isPlainText_signed _ ?_
    rw [String.toList_ofList]
    split
    · exact (hdigits m q).of_subset (List.take_subset _ _)
    · simp only [isPlainText_cons, isPlainText_append]
      exact ⟨(hdigits m q).of_subset (List.take_subset _ _), by decide, (hdigits m q).of_subset (List.drop_subset _ _)⟩

theorem text_of_num? {v : Value} {x : Num} (h : v.num? = some x) : v.text = x.text := by
  cases v <;> cases h <;> rfl

/-! ## Cells that can be drawn -/

namespace Table

/-- A styled text whose styles can be read. -/
def IsReadable (t : Styled) : Prop := ∀ s ∈ t.stretches, s.check = .ok ()

/-- A cell whose markup can be interpreted, with styles that can be read. -/
def Drawable (cell : String) : Prop := ∃ t, interpret cell = .ok t ∧ IsReadable t

theorem drawable_escape (text : String) : Drawable (escape text) := by
  obtain ⟨shown, hshown⟩ := interpret_escape text
  exact ⟨_, hshown, by simp [IsReadable]⟩

theorem drawable_of_isPlainText {text : String} (h : IsPlainText text.toList) : Drawable text := by
  have hpieces : pieces text.toList = text.toList.map .char := by
    simpa using (Reads.nil.append h).pieces_eq
  have hliteral : ∀ piece ∈ text.toList.map Piece.char, piece.IsLiteral := by
    intro piece hp
    obtain ⟨c, -, rfl⟩ := List.mem_map.mp hp
    trivial
  rw [Drawable, interpret, items, hpieces, interpretItems_of_isText _ (isText_of_mem_itemsFrom hliteral),
    Progress.putAll_eq]
  exact ⟨_, congrArg Except.ok (Progress.styled_of_none rfl rfl), by simp [IsReadable]⟩

theorem drawable_coloured {colour text : String} (hcolour : IsStyleName colour) (hclosing : IsTag ('/' :: colour.toList))
    (hcheck : ∀ stop, Stretch.check ⟨0, stop, Text.words (colour.toList ++ [' '])⟩ = .ok ())
    (h : IsPlainText text.toList) : Drawable ("[" ++ colour ++ "]" ++ text ++ "[/" ++ colour ++ "]") := by
  have hchars : ("[" ++ colour ++ "]" ++ text ++ "[/" ++ colour ++ "]").toList
      = bracketed colour.toList ++ (text.toList ++ (bracketed ('/' :: colour.toList) ++ [])) := by
    simp [bracketed]
  have hrun := hcolour.interpretItems_tagged h []
  rw [Progress.putAll_eq] at hrun
  obtain ⟨shown, stop, hstyled⟩ : ∃ shown stop, interpret ("[" ++ colour ++ "]" ++ text ++ "[/" ++ colour ++ "]")
      = .ok ⟨shown, [⟨0, stop, Text.words (colour.toList ++ [' '])⟩]⟩ := by
    rw [interpret, items, hchars, (reads_tagged hcolour.isTag hclosing h .nil).pieces_eq, hrun]
    exact ⟨_, _, congrArg Except.ok (Progress.styled_of_one rfl rfl)⟩
  refine ⟨_, hstyled, fun s hs => ?_⟩
  rw [List.mem_singleton.mp hs]
  exact hcheck _

theorem Drawable.cellText {cell : String} (h : Drawable cell) (limit : Nat) :
    ∃ t, Table.cellText limit cell = .ok t ∧ IsReadable t := by
  obtain ⟨t, ht, hreadable⟩ := h
  unfold Table.cellText
  split
  · exact ⟨_, rfl, by simp [IsReadable]⟩
  · exact ⟨t, by rw [ht]; rfl, hreadable⟩

/-! ## Drawing -/

theorem exists_cellLines {cell : Styled} (h : IsReadable cell) (justify : Justify) (width : Nat) :
    ∃ lines, cellLines justify width cell = .ok lines := by
  unfold cellLines
  split
  · exact ⟨_, rfl⟩
  · dsimp only
    rw [Styled.check_rows h]
    exact ⟨_, rfl⟩

theorem exists_drawRow {cells : List Styled} (h : ∀ cell ∈ cells, IsReadable cell) (bar : Char) (low : Bool)
    (layout : List (Justify × Nat)) : ∃ lines, drawRow bar low layout cells = .ok lines := by
  rw [drawRow, exists_bind_eq_ok]
  refine (exists_mapM_eq_ok ?_).imp fun drawn hdrawn => ⟨hdrawn, _, rfl⟩
  rintro ⟨⟨justify, width⟩, cell⟩ hmem
  exact exists_bind_eq_ok.mpr
    ((exists_cellLines (h cell (List.of_mem_zip hmem).2) justify width).imp fun lines hlines => ⟨hlines, _, rfl⟩)

theorem getD_of_forall {α : Type} {p : α → Prop} {l : List α} {fallback : α} (h : ∀ a ∈ l, p a) (hfallback : p fallback)
    (i : Nat) : p (l.getD i fallback) := by
  rw [List.getD_eq_getElem?_getD]
  cases hi : l[i]? with
  | none => exact hfallback
  | some a => exact h a (List.mem_of_getElem? hi)

/-- A table can be drawn if each of its cells can. -/
theorem exists_render {t : Table} (h : ∀ row ∈ t.rows, ∀ cell ∈ row, Drawable cell) (console : Nat) :
    ∃ text, t.render console = .ok text := by
  have hcell : ∀ row ∈ t.rows, ∀ i, Drawable (row.getD i "") := by
    intro row hrow
    exact getD_of_forall (h row hrow) (drawable_of_isPlainText (by decide))
  rw [render, exists_bind_eq_ok]
  refine (exists_mapM_of_forall (p := fun cells => ∀ cell ∈ cells, IsReadable cell) ?_).imp fun columns hcolumns =>
    ⟨hcolumns.1, ?_⟩
  · rintro ⟨_, i⟩ -
    exact exists_mapM_of_forall fun row hrow => (hcell row hrow i).cellText _
  rw [exists_bind_eq_ok]
  refine (exists_drawRow (by simp [IsReadable]) _ _ _).imp fun head hhead => ⟨hhead, ?_⟩
  rw [exists_bind_eq_ok]
  refine (exists_mapM_eq_ok fun i _ => exists_drawRow (fun cell hcell => ?_) _ _ _).imp fun body hbody =>
    ⟨hbody, _, rfl⟩
  obtain ⟨cells, hcells, rfl⟩ := List.mem_map.mp hcell
  exact getD_of_forall (hcolumns.2 cells hcells) (by simp [IsReadable]) i

end Table

/-! ## Rows of a report -/

namespace Report

open Table

theorem isStyleName_colour (score : Num) :
    IsStyleName (colour score) ∧ IsTag ('/' :: (colour score).toList) ∧
    ∀ stop, Stretch.check ⟨0, stop, Text.words ((colour score).toList ++ [' '])⟩ = .ok () := by
  have hcheck : ∀ style stop, Stretch.check ⟨0, 0, style⟩ = .ok () → Stretch.check ⟨0, stop, style⟩ = .ok () :=
    fun _ _ h => h
  have hgreen : IsStyleName "green" := ⟨by rfl, ⟨by decide, by decide⟩, by decide, by decide, by decide⟩
  have hyellow : IsStyleName "yellow" := ⟨by rfl, ⟨by decide, by decide⟩, by decide, by decide, by decide⟩
  have hred : IsStyleName "red" := ⟨by rfl, ⟨by decide, by decide⟩, by decide, by decide, by decide⟩
  unfold colour
  split
  · exact ⟨hgreen, ⟨by decide, by decide⟩, fun _ => hcheck _ _ (by rfl)⟩
  · split
    · exact ⟨hyellow, ⟨by decide, by decide⟩, fun _ => hcheck _ _ (by rfl)⟩
    · exact ⟨hred, ⟨by decide, by decide⟩, fun _ => hcheck _ _ (by rfl)⟩

theorem exists_plainCell {v : Value} (hnum : v.num?.isSome = true) (hwritable : v.isWritable = true) :
    ∃ cell, plainCell v = .ok cell ∧ IsPlainText cell.toList := by
  obtain ⟨x, hx⟩ := Option.isSome_iff_exists.mp hnum
  exact ⟨v.text, by rw [plainCell, if_pos hwritable], text_of_num? hx ▸ isPlainText_text x⟩

/-- A score has a text if the decimal places are a natural number. -/
theorem exists_scoreText {settings : Settings} {places : Nat} (hdecimals : settings.decimals = .int places) {score : Value}
    {x : Num} (hnum : score.num? = some x) (hdouble : x.toFloat?.isSome = true) :
    ∃ text, scoreText settings score = .ok text ∧ IsPlainText text.toList := by
  obtain ⟨d, hd⟩ := Option.isSome_iff_exists.mp hdouble
  refine ⟨fixed places d, ?_, isPlainText_fixed _ _⟩
  simp only [scoreText, hnum, hdecimals, if_neg (Int.not_lt.mpr (Int.natCast_nonneg places)), hd, Int.toNat_natCast]

/-- Any other decimal places are refused. -/
theorem scoreText_rejected {settings : Settings} (hdecimals : ¬∃ places : Nat, settings.decimals = .int places)
    {score : Value} {x : Num} (hnum : score.num? = some x) : ∃ r, scoreText settings score = .error (.rejected r) := by
  cases hd : settings.decimals with
  | int places =>
    have hnegative : places < 0 := by
      refine Int.not_le.mp fun hle => hdecimals ⟨places.toNat, ?_⟩
      rw [hd, Int.toNat_of_nonneg hle]
    exact ⟨.missingPrecision, by simp only [scoreText, hnum, hd, if_pos hnegative]⟩
  | float y => exact ⟨notDecimal (.float y) score.kindName, by simp only [scoreText, hnum, hd]⟩
  | flag b => exact ⟨notDecimal (.flag b) score.kindName, by simp only [scoreText, hnum, hd]⟩

end Report

/-! ## Reports of numbers -/

/-- Metrics of numbers, with scores that doubles can hold. -/
structure Metrics.IsNumeric (m : Metrics Value Value) : Prop where
  counts : ∀ v ∈ [m.linesOfCode, m.cyclomaticComplexity, m.depthOfInheritance, m.classCount, m.methodCount],
    v.num?.isSome = true
  scores : ∀ v ∈ [m.maintainabilityIndex, m.averageMethodComplexity], ∃ x, v.num? = some x ∧ x.toFloat?.isSome = true

/-- A unit with a text for a name, and with numbers. -/
structure CodeUnit.IsNumeric (u : CodeUnit Value Value Value) : Prop where
  name : ∃ s, u.name = .str s
  lines : ∀ v ∈ [u.startLine, u.endLine], v.num?.isSome = true
  metrics : u.metrics.IsNumeric

/-- An analysed file with texts for names, and with numbers. -/
structure AnalyzedFile.IsNumeric (file : AnalyzedFile) : Prop where
  path : ∃ s, file.path = .str s
  metrics : file.analysis.metrics.IsNumeric
  units : ∀ u ∈ file.analysis.units, u.IsNumeric

theorem isNumeric_measuredMetrics (m : Metrics Nat Float) : m.report.IsNumeric := by
  constructor
  · simp only [List.forall_mem_cons]
    exact ⟨rfl, rfl, rfl, rfl, rfl, nofun⟩
  · simp only [List.forall_mem_cons]
    exact ⟨⟨_, rfl, rfl⟩, ⟨_, rfl, rfl⟩, nofun⟩

/-- What is measured are numbers, so that only the names of units have to be texts. -/
theorem isNumeric_report (path : String) {a : Measured} (h : ∀ u ∈ a.units, ∃ s, u.name = .str s) :
    AnalyzedFile.IsNumeric ⟨.str path, a.report⟩ := by
  refine ⟨⟨path, rfl⟩, isNumeric_measuredMetrics _, fun v hv => ?_⟩
  obtain ⟨u, hu, rfl⟩ := List.mem_map.mp hv
  refine ⟨h u hu, ?_, isNumeric_measuredMetrics _⟩
  have hline : ∀ x : Num, (Value.ofNum x).num?.isSome = true := by
    intro x
    cases x <;> rfl
  simp only [List.forall_mem_cons]
  exact ⟨hline _, hline _, nofun⟩

namespace Report

open Table

theorem exists_nameCell {v : Value} (h : ∃ s, v = .str s) : ∃ cell, nameCell v = .ok cell ∧ Drawable cell := by
  obtain ⟨s, rfl⟩ := h
  exact ⟨_, rfl, drawable_escape s⟩

theorem exists_maintainabilityCell {settings : Settings} {score : Value} {x : Num} {text : String}
    (hnum : score.num? = some x) (htext : scoreText settings score = .ok text) (hplain : IsPlainText text.toList) :
    ∃ cell, maintainabilityCell settings score = .ok cell ∧ Drawable cell := by
  obtain ⟨hname, hclosing, hcheck⟩ := isStyleName_colour x
  refine ⟨_, ?_, drawable_coloured hname hclosing hcheck hplain⟩
  rw [maintainabilityCell, hnum, htext]
  rfl

theorem isWritable_counts {m : Metrics Value Value} (h : m.toValue.isWritable = true) :
    ∀ v ∈ [m.linesOfCode, m.cyclomaticComplexity, m.depthOfInheritance, m.classCount, m.methodCount],
      v.isWritable = true := by
  simp only [Metrics.toValue, Value.isWritable, Value.haveWritable, Bool.and_eq_true, Bool.and_true] at h
  simp [h]

theorem isWritable_unit {u : CodeUnit Value Value Value} (h : u.toValue.isWritable = true) :
    u.startLine.isWritable = true ∧ u.endLine.isWritable = true ∧ u.metrics.toValue.isWritable = true := by
  simp only [CodeUnit.toValue, Value.isWritable, Value.haveWritable, Bool.and_eq_true, Bool.and_true] at h
  exact ⟨h.2.2.1, h.2.2.2⟩

theorem isWritable_analysis {a : Reported} (h : a.toValue.isWritable = true) :
    a.metrics.toValue.isWritable = true ∧ ∀ u ∈ a.units, u.toValue.isWritable = true := by
  simp only [Analysis.toValue, Value.isWritable, Value.haveWritable, Bool.and_eq_true, Bool.and_true,
    Json.areWritable_iff, List.forall_mem_map] at h
  exact h

/-- If a report can be written out, each of its analyses can. -/
theorem isWritable_jsonAnalysis {settings : Settings} {files : List AnalyzedFile}
    (h : (jsonValue settings files).isWritable = true) : ∀ file ∈ files, (jsonAnalysis settings file).isWritable = true := by
  unfold jsonValue at h
  split at h
  · simpa using h
  · simp only [Value.isWritable, Value.haveWritable, Bool.and_true, Json.areWritable_iff, List.forall_mem_map,
      Bool.and_eq_true] at h
    exact fun file hfile => (h file hfile).2

section Rows

variable {settings : Settings}

theorem exists_countCell {m : Metrics Value Value} (h : m.IsNumeric) (hwritable : m.toValue.isWritable = true) :
    ∀ v ∈ [m.linesOfCode, m.cyclomaticComplexity, m.depthOfInheritance, m.classCount, m.methodCount],
      ∃ cell, plainCell v = .ok cell ∧ Drawable cell := by
  intro v hv
  obtain ⟨cell, hcell, hplain⟩ := exists_plainCell (h.counts v hv) (isWritable_counts hwritable v hv)
  exact ⟨cell, hcell, drawable_of_isPlainText hplain⟩

theorem exists_scoreCells {places : Nat} (hdecimals : settings.decimals = .int places) {m : Metrics Value Value}
    (h : m.IsNumeric) :
    (∃ cell, maintainabilityCell settings m.maintainabilityIndex = .ok cell ∧ Drawable cell) ∧
    ∃ cell, scoreText settings m.averageMethodComplexity = .ok cell ∧ Drawable cell := by
  obtain ⟨x, hx, hxd⟩ := h.scores _ List.mem_cons_self
  obtain ⟨y, hy, hyd⟩ := h.scores m.averageMethodComplexity (by simp)
  obtain ⟨text, htext, hplain⟩ := exists_scoreText hdecimals hx hxd
  obtain ⟨average, haverage, hplain'⟩ := exists_scoreText hdecimals hy hyd
  exact ⟨exists_maintainabilityCell hx htext hplain, average, haverage, drawable_of_isPlainText hplain'⟩

theorem exists_fileRow {places : Nat} (hdecimals : settings.decimals = .int places) {file : AnalyzedFile}
    (h : file.IsNumeric) (hwritable : file.analysis.metrics.toValue.isWritable = true) :
    ∃ row, fileRow settings file = .ok row ∧ ∀ cell ∈ row, Drawable cell := by
  obtain ⟨name, hname, dname⟩ := exists_nameCell h.path
  have hcount := exists_countCell h.metrics hwritable
  obtain ⟨lines, hlines, dlines⟩ := hcount file.analysis.metrics.linesOfCode (by simp)
  obtain ⟨complexity, hcomplexity, dcomplexity⟩ := hcount file.analysis.metrics.cyclomaticComplexity (by simp)
  obtain ⟨classes, hclasses, dclasses⟩ := hcount file.analysis.metrics.classCount (by simp)
  obtain ⟨methods, hmethods, dmethods⟩ := hcount file.analysis.metrics.methodCount (by simp)
  obtain ⟨depth, hdepth, ddepth⟩ := hcount file.analysis.metrics.depthOfInheritance (by simp)
  obtain ⟨⟨score, hscore, dscore⟩, average, haverage, daverage⟩ := exists_scoreCells hdecimals h.metrics
  have hword : ∀ word ∈ ["file", "-"], Drawable word := by
    intro word hw
    refine drawable_of_isPlainText ?_
    revert word
    decide
  refine ⟨["file", name, "-", "-", lines, complexity, score, classes, methods, average, depth], ?_, ?_⟩
  · simp only [fileRow, hname, hlines, hcomplexity, hclasses, hmethods, hdepth, hscore, haverage]
    rfl
  · simp only [List.forall_mem_cons, List.not_mem_nil, false_imp_iff, implies_true, and_true] at hword ⊢
    exact ⟨hword.1, dname, hword.2, hword.2, dlines, dcomplexity, dscore, dclasses, dmethods, daverage, ddepth⟩

/-- With other decimal places the row of a file is refused. -/
theorem fileRow_rejected (hdecimals : ¬∃ places : Nat, settings.decimals = .int places) {file : AnalyzedFile}
    (h : file.IsNumeric) (hwritable : file.analysis.metrics.toValue.isWritable = true) :
    ∃ r, fileRow settings file = .error (.rejected r) := by
  obtain ⟨name, hname, -⟩ := exists_nameCell h.path
  have hcount := exists_countCell h.metrics hwritable
  obtain ⟨lines, hlines, -⟩ := hcount file.analysis.metrics.linesOfCode (by simp)
  obtain ⟨complexity, hcomplexity, -⟩ := hcount file.analysis.metrics.cyclomaticComplexity (by simp)
  obtain ⟨x, hx, -⟩ := h.metrics.scores file.analysis.metrics.maintainabilityIndex (by simp)
  obtain ⟨r, hr⟩ := scoreText_rejected hdecimals hx
  refine ⟨r, ?_⟩
  have hscore : maintainabilityCell settings file.analysis.metrics.maintainabilityIndex = .error (.rejected r) := by
    simp only [maintainabilityCell, hx, hr]
    rfl
  simp only [fileRow, hname, hlines, hcomplexity, hscore]
  rfl

theorem exists_functionRow {places : Nat} (hdecimals : settings.decimals = .int places) {u : CodeUnit Value Value Value}
    (h : u.IsNumeric) (hwritable : u.toValue.isWritable = true) :
    ∃ row, functionRow settings u = .ok row ∧ ∀ cell ∈ row, Drawable cell := by
  obtain ⟨hfirst, hlast, hmetrics⟩ := isWritable_unit hwritable
  obtain ⟨name, hname, dname⟩ := exists_nameCell h.name
  obtain ⟨first, hfirst, pfirst⟩ := exists_plainCell (h.lines u.startLine (by simp)) hfirst
  obtain ⟨last, hlast, plast⟩ := exists_plainCell (h.lines u.endLine (by simp)) hlast
  have hcount := exists_countCell h.metrics hmetrics
  obtain ⟨lines, hlines, dlines⟩ := hcount u.metrics.linesOfCode (by simp)
  obtain ⟨complexity, hcomplexity, dcomplexity⟩ := hcount u.metrics.cyclomaticComplexity (by simp)
  obtain ⟨methods, hmethods, dmethods⟩ := hcount u.metrics.methodCount (by simp)
  obtain ⟨⟨score, hscore, dscore⟩, average, haverage, daverage⟩ := exists_scoreCells hdecimals h.metrics
  have hword : ∀ word ∈ ["function", "-"], Drawable word := by
    intro word hw
    refine drawable_of_isPlainText ?_
    revert word
    decide
  have hkind : Drawable u.kind.text := by
    refine drawable_of_isPlainText ?_
    cases u.kind <;> decide
  have hspan : Drawable (first ++ "-" ++ last) := by
    refine drawable_of_isPlainText ?_
    rw [String.toList_append, String.toList_append]
    exact isPlainText_append.mpr ⟨isPlainText_append.mpr ⟨pfirst, by decide⟩, plast⟩
  refine ⟨["function", name, u.kind.text, first ++ "-" ++ last, lines, complexity, score, "-", methods, average, "-"],
    ?_, ?_⟩
  · simp only [functionRow, hname, hfirst, hlast, hlines, hcomplexity, hmethods, hscore, haverage]
    rfl
  · simp only [List.forall_mem_cons, List.not_mem_nil, false_imp_iff, implies_true, and_true] at hword ⊢
    exact ⟨hword.1, dname, hkind, hspan, dlines, dcomplexity, dscore, hword.2, dmethods, daverage, hword.2⟩

theorem isWritable_withFunctions {a : Reported} (h : (withFunctions settings a).toValue.isWritable = true) :
    a.metrics.toValue.isWritable = true ∧
      (settings.includeFunctions.truthy = true → ∀ u ∈ a.units, u.toValue.isWritable = true) := by
  unfold withFunctions at h
  split at h
  · exact ⟨(isWritable_analysis h).1, fun _ => (isWritable_analysis h).2⟩
  · next hfalse => exact ⟨(isWritable_analysis h).1, fun htrue => absurd htrue hfalse⟩

theorem fileRows_eq (several : Bool) (file : AnalyzedFile) :
    fileRows settings several file =
      (if several then (nameCell file.path).map ([·]) else .ok []) >>= fun lead =>
        fileRow settings file >>= fun first =>
          (if settings.includeFunctions.truthy then file.analysis.units.mapM (functionRow settings) else .ok []) >>=
            fun others => .ok ((first :: others).map (lead ++ ·)) := by
  unfold fileRows
  cases several <;> cases settings.includeFunctions.truthy <;> rfl

/-- The rows of a file can be made and drawn if the decimal places are a natural number. -/
theorem exists_fileRows {places : Nat} (hdecimals : settings.decimals = .int places) {file : AnalyzedFile}
    (h : file.IsNumeric) (hwritable : (jsonAnalysis settings file).isWritable = true) (several : Bool) :
    ∃ rows, fileRows settings several file = .ok rows ∧ ∀ row ∈ rows, ∀ cell ∈ row, Drawable cell := by
  obtain ⟨hmetrics, hunits⟩ := isWritable_withFunctions hwritable
  obtain ⟨lead, hlead, dlead⟩ : ∃ lead, (if several then (nameCell file.path).map ([·]) else .ok []) = .ok lead ∧
      ∀ cell ∈ lead, Drawable cell := by
    obtain ⟨name, hname, dname⟩ := exists_nameCell h.path
    cases several with
    | false => exact ⟨[], rfl, by simp⟩
    | true => exact ⟨[name], by rw [hname]; rfl, by simpa using dname⟩
  obtain ⟨first, hfirst, dfirst⟩ := exists_fileRow hdecimals h hmetrics
  obtain ⟨others, hothers, dothers⟩ :
      ∃ others, (if settings.includeFunctions.truthy then file.analysis.units.mapM (functionRow settings) else .ok [])
        = .ok others ∧ ∀ row ∈ others, ∀ cell ∈ row, Drawable cell := by
    by_cases hfunctions : settings.includeFunctions.truthy
    · rw [if_pos hfunctions]
      exact exists_mapM_of_forall fun u hu => exists_functionRow hdecimals (h.units u hu) (hunits hfunctions u hu)
    · rw [if_neg hfunctions]
      exact ⟨[], rfl, by simp⟩
  refine ⟨(first :: others).map (lead ++ ·), ?_, ?_⟩
  · rw [fileRows_eq, hlead, hfirst, hothers]
    rfl
  · rw [List.forall_mem_map, List.forall_mem_cons]
    refine ⟨List.forall_mem_append.mpr ⟨dlead, dfirst⟩, fun row hrow => ?_⟩
    exact List.forall_mem_append.mpr ⟨dlead, dothers row hrow⟩

theorem fileRows_rejected (hdecimals : ¬∃ places : Nat, settings.decimals = .int places) {file : AnalyzedFile}
    (h : file.IsNumeric) (hwritable : (jsonAnalysis settings file).isWritable = true) (several : Bool) :
    ∃ r, fileRows settings several file = .error (.rejected r) := by
  obtain ⟨r, hr⟩ := fileRow_rejected hdecimals h (isWritable_withFunctions hwritable).1
  obtain ⟨name, hname, -⟩ := exists_nameCell h.path
  refine ⟨r, ?_⟩
  rw [fileRows_eq, hname, hr]
  cases several <;> rfl

/-! ## Reports -/

/-- With a natural number of decimal places a report can be drawn. -/
theorem exists_table {places : Nat} (hdecimals : settings.decimals = .int places) {files : List AnalyzedFile}
    (h : ∀ file ∈ files, file.IsNumeric) (hwritable : (jsonValue settings files).isWritable = true) :
    ∃ t, table settings files = .ok t ∧ ∀ console, ∃ text, t.render console = .ok text := by
  obtain ⟨rows, hrows, drows⟩ := exists_mapM_of_forall (p := fun rows => ∀ row ∈ rows, ∀ cell ∈ row, Drawable cell)
    fun file hfile => exists_fileRows hdecimals (h file hfile) (isWritable_jsonAnalysis hwritable file hfile)
      (decide (1 < files.length))
  have htable : table settings files = .ok ⟨"Code Quality Metrics",
      (if decide (1 < files.length) then [⟨"File", .left⟩] else []) ++ columns, rows.flatten⟩ := by
    rw [table, hrows]
    rfl
  refine ⟨_, htable, fun console => exists_render (fun row hrow => ?_) console⟩
  obtain ⟨fileRows, hmem, hrow⟩ := List.mem_flatten.mp hrow
  exact drows fileRows hmem row hrow

/-- A report without files has no use for decimal places. -/
theorem exists_empty_table (settings : Settings) :
    ∃ t, table settings [] = .ok t ∧ ∀ console, ∃ text, t.render console = .ok text :=
  ⟨_, rfl, fun console => exists_render (by simp) console⟩

theorem table_rejected (hdecimals : ¬∃ places : Nat, settings.decimals = .int places) {files : List AnalyzedFile}
    (hne : files ≠ []) (h : ∀ file ∈ files, file.IsNumeric) (hwritable : (jsonValue settings files).isWritable = true) :
    ∃ r, table settings files = .error (.rejected r) := by
  obtain ⟨file, rest, rfl⟩ := List.exists_cons_of_ne_nil hne
  obtain ⟨r, hr⟩ := fileRows_rejected hdecimals (h file List.mem_cons_self)
    (isWritable_jsonAnalysis hwritable file List.mem_cons_self) (decide (1 < (file :: rest).length))
  refine ⟨r, ?_⟩
  rw [table, List.mapM_cons, hr]
  rfl

end Rows

end Report

/-- Decimal places that are accepted are no fewer than none. -/
theorem Settings.decimals_nonneg {given : List (String × Value)} {settings : Settings} (h : of given = .ok settings)
    {n : Int} (hn : settings.decimals = .int n) : 0 ≤ n := by
  rw [of] at h
  split at h
  · cases h
  · obtain ⟨workers, -, h⟩ := bind_eq_ok.mp h
    obtain ⟨policy, -, h⟩ := bind_eq_ok.mp h
    obtain ⟨verbosity, -, h⟩ := bind_eq_ok.mp h
    obtain ⟨decimals, hdecimals, h⟩ := bind_eq_ok.mp h
    cases h
    subst hn
    rw [checkDecimals] at hdecimals
    split at hdecimals
    · cases hdecimals
    · split at hdecimals
      · next hrange =>
        cases hdecimals
        have hle : (Num.int 0).le (.int n) = true := (Bool.and_eq_true _ _ ▸ hrange).1
        simp only [Num.le, Num.lt_int, Num.same, Num.exact, Exact.same, Bool.or_eq_true, decide_eq_true_eq,
          Exact.finite.injEq, Rat.intCast_inj] at hle
        omega
      · cases hdecimals

/-- **When settings that are accepted give a text.** As JSON every report has a text of which all whole numbers can be
written out. As a table such a report has one exactly if there is no file in it or the decimal places are a whole number;
otherwise they are refused. -/
theorem report_text_of_settings {given : List (String × Value)} {settings : Settings}
    (hsettings : Settings.of given = .ok settings) {files : List AnalyzedFile} (h : ∀ file ∈ files, file.IsNumeric) :
    ((∃ text, Format.json.text settings files = .ok text) ↔ (Report.jsonValue settings files).isWritable = true) ∧
    ((Report.jsonValue settings files).isWritable = true →
      ((∃ text, Format.table.text settings files = .ok text) ↔ files = [] ∨ ∃ n, settings.decimals = .int n) ∧
      ((∀ text, Format.table.text settings files ≠ .ok text) →
        ∃ r, Format.table.text settings files = .error (.rejected r))) := by
  have hjson : (∃ text, Format.json.text settings files = .ok text) ↔
      (Report.jsonValue settings files).isWritable = true := by
    by_cases hwritable : (Report.jsonValue settings files).isWritable = true
    · simp [Format.text, Report.json, hwritable]
    · simp [Format.text, Report.json, hwritable]
  refine ⟨hjson, fun hwritable => ?_⟩
  by_cases hempty : files = []
  · subst hempty
    obtain ⟨t, htable, hrender⟩ := Report.exists_empty_table settings
    obtain ⟨text, htext⟩ := hrender pageWidth
    have hok : Format.table.text settings [] = .ok text := by
      rw [Format.text, htable]
      exact htext
    exact ⟨⟨fun _ => .inl rfl, fun _ => ⟨text, hok⟩⟩, fun hno => absurd hok (hno text)⟩
  by_cases hdecimals : ∃ n, settings.decimals = .int n
  · obtain ⟨n, hn⟩ := hdecimals
    obtain ⟨places, rfl⟩ := Int.eq_ofNat_of_zero_le (Settings.decimals_nonneg hsettings hn)
    obtain ⟨t, htable, hrender⟩ := Report.exists_table hn h hwritable
    obtain ⟨text, htext⟩ := hrender pageWidth
    have hok : Format.table.text settings files = .ok text := by
      rw [Format.text, htable]
      exact htext
    exact ⟨⟨fun _ => .inr ⟨_, hn⟩, fun _ => ⟨text, hok⟩⟩, fun hno => absurd hok (hno text)⟩
  · have hno : ¬∃ places : Nat, settings.decimals = .int places := fun ⟨places, hp⟩ => hdecimals ⟨places, hp⟩
    obtain ⟨r, hr⟩ := Report.table_rejected hno hempty h hwritable
    have hrejected : Format.table.text settings files = .error (.rejected r) := by
      rw [Format.text, hr]
      rfl
    refine ⟨⟨?_, ?_⟩, fun _ => ⟨r, hrejected⟩⟩
    · rintro ⟨text, htext⟩
      rw [hrejected] at htext
      cases htext
    · rintro (h | h)
      · exact absurd h hempty
      · exact absurd h hdecimals

/-- A file without anything in it. -/
def emptyFile : AnalyzedFile := ⟨.str "a.json", Measured.report Analysis.empty⟩

theorem isNumeric_emptyFile : emptyFile.IsNumeric :=
  ⟨⟨_, rfl⟩, ⟨by decide, fun v hv => ⟨.float 0.0, by revert v; decide, rfl⟩⟩, nofun⟩

theorem isWritable_emptyFile (settings : Settings) : (Report.jsonValue settings [emptyFile]).isWritable = true := by
  have hall : Report.withFunctions settings emptyFile.analysis = emptyFile.analysis := by
    unfold Report.withFunctions
    split <;> rfl
  rw [Report.jsonValue, Report.jsonAnalysis, hall]
  decide +kernel

def settingsWith (decimals : Num) : Settings := { Settings.default with decimals }

/-- Three decimal places are accepted and can be used for a file with a function. -/
theorem text_of_three_decimals :
    Settings.of [("decimals", .int 3)] = .ok (settingsWith (.int 3)) ∧
    lambdaFile.IsNumeric ∧
    (∃ text, Format.json.text (settingsWith (.int 3)) [lambdaFile] = .ok text) ∧
    ∃ text, Format.table.text (settingsWith (.int 3)) [lambdaFile] = .ok text := by
  have hsettings : Settings.of [("decimals", .int 3)] = .ok (settingsWith (.int 3)) := by rfl
  have hnumeric : lambdaFile.IsNumeric := isNumeric_report _ (List.forall_mem_singleton.mpr ⟨_, rfl⟩)
  have hwritable : (Report.jsonValue (settingsWith (.int 3)) [lambdaFile]).isWritable = true := by decide +kernel
  obtain ⟨hjson, htable⟩ := report_text_of_settings hsettings (List.forall_mem_singleton.mpr hnumeric)
  exact ⟨hsettings, hnumeric, hjson.mpr hwritable, (htable hwritable).1.mpr (.inr ⟨3, rfl⟩)⟩

/-- A truth value and a fraction are accepted as decimal places as well, but no table can be made with them. -/
theorem accepted_decimals_refused :
    (Settings.of [("decimals", .bool true)] = .ok (settingsWith (.flag true)) ∧
      ∃ r, Format.table.text (settingsWith (.flag true)) [emptyFile] = .error (.rejected r)) ∧
    (Settings.of [("decimals", .float 2.5)] = .ok (settingsWith (.float 2.5)) ∧
      ∃ r, Format.table.text (settingsWith (.float 2.5)) [emptyFile] = .error (.rejected r)) := by
  have hrefused : ∀ decimals : Num, (∀ n, decimals ≠ .int n) →
      ∃ r, Format.table.text (settingsWith decimals) [emptyFile] = .error (.rejected r) := by
    intro decimals hdecimals
    obtain ⟨r, hr⟩ := @Report.table_rejected (settingsWith decimals) (fun ⟨n, hn⟩ => hdecimals n hn) [emptyFile]
      (by simp) (by simpa using isNumeric_emptyFile) (isWritable_emptyFile _)
    refine ⟨r, ?_⟩
    rw [Format.text, hr]
    rfl
  refine ⟨⟨?_, hrefused _ nofun⟩, ?_, hrefused _ nofun⟩
  · rfl
  · rfl

end CodeMetrics
