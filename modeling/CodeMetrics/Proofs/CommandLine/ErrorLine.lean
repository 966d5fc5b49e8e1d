import CodeMetrics.Proofs.CommandLine.Output
import CodeMetrics.Proofs.Text.Markup

/-!
# The line that reports an error

A run that fails shows the text of its error behind the word `Error:`. The text is taken for markup, so what is shown of it
is the text itself exactly if it holds no tags, no protected brackets, no codes of emoji and no characters on which a
console acts. Blanks aside, that is so of texts of any length; a text whose lines have room on the console is shown to the
last character.

* `interpretItems_headline` — the text of an error behind its headline
* `isUnmarked_of_inked` — a text that is shown with all its ink has no markup in it
* `errorText_of_isUnmarked` — a text without markup is shown with all its ink
* `errorText_of_room` — which texts are shown as they are
* `error_line_of_run` — the same of a run
-/

namespace CodeMetrics.CommandLine

open Text Markup

/-- A text in which nothing has a meaning of its own: no tag, no protected bracket and no code of an emoji. -/
def IsUnmarked (message : String) : Prop := isLiteral message.toList = true ∧ Emoji.occurs message.toList = false

/-! ## Behind the headline -/

/-- What has been interpreted when the text of the error starts. -/
def headline : Progress := ⟨":rorrE".toList, 6, [], [⟨0, 6, ["red".toList]⟩]⟩

theorem isStyleName_red : IsStyleName "red" :=
  ⟨by rfl, ⟨by decide, by decide⟩, by decide, by decide, by decide⟩

theorem interpretItems_headline (message : String) :
    interpretItems .start (items ("[red]Error:[/red] " ++ message).toList)
      = interpretItems headline (itemsFrom [' '] (pieces message.toList)) := by
  have hword : ∀ c ∈ "Error:".toList, c ≠ '\\' ∧ c ≠ '[' := by decide
  have hblank : Reads (' ' :: message.toList) (.char ' ' :: pieces message.toList) :=
    .char (noTag_of_ne (by decide) (by decide) _) (reads_pieces message.toList)
  have hread := reads_tagged isStyleName_red.isTag ⟨by decide, by decide⟩ hword hblank
  have hpieces : pieces ("[red]Error:[/red] " ++ message).toList
      = .tag 0 "red".toList :: ("Error:".toList.map .char
        ++ .tag 0 ('/' :: "red".toList) :: .char ' ' :: pieces message.toList) := by
    rw [String.toList_append]
    exact hread.pieces_eq
  have hblankItems : itemsFrom [] (.char ' ' :: pieces message.toList) = itemsFrom [' '] (pieces message.toList) :=
    @itemsFrom_chars [' '] (by decide) [] _
  rw [items, hpieces, isStyleName_red.interpretItems_tagged hword, hblankItems, Emoji.replace_of_not_occurs (by decide)]
  rfl

/-! ## The rows that are shown -/

/-- What a console of a width shows of a styled text. -/
def rowsText (columns : Nat) (t : Styled) : String :=
  String.join ((t.rows .fold columns (·.crop .fold columns)).map fun r =>
    String.ofList (fit columns r.segments).flatten ++ "\n")

theorem errorText_eq (columns : Nat) (message : String) :
    errorText columns message =
      (interpretItems headline (itemsFrom [' '] (pieces message.toList))).mapError Error.ofMarkup >>= fun p =>
        if columns = 0 then .ok ""
        else ((p.styled.highlighted.rows .fold columns (·.crop .fold columns)).forM StyledRow.check).mapError
          Error.ofMarkup >>= fun _ => .ok (rowsText columns p.styled.highlighted) := by
  rw [errorText, interpret, interpretItems_headline]
  cases interpretItems headline (itemsFrom [' '] (pieces message.toList)) <;> rfl

theorem toList_rowsText (columns : Nat) (t : Styled) :
    (rowsText columns t).toList
      = (t.rows .fold columns (·.crop .fold columns)).flatMap fun r => (fit columns r.segments).flatten ++ ['\n'] := by
  rw [rowsText, String.toList_join, List.flatMap_map]
  simp

/-- The ends of the rows are blanks. -/
theorem inked_rowsText_eq (columns : Nat) (t : Styled) :
    inked (rowsText columns t).toList
      = inked ((t.rows .fold columns (·.crop .fold columns)).flatMap fun r => (fit columns r.segments).flatten) := by
  rw [toList_rowsText]
  exact inked_flatMap_congr fun r _ => by simp [show isSpace '\n' = true from rfl]

theorem text_highlighted (t : Styled) : t.highlighted.text = t.text := by
  unfold Styled.highlighted
  split <;> rfl

/-- A line that is shown has no ink but that of the text that is interpreted. -/
theorem exists_of_errorText {columns : Nat} {message line : String} (h : errorText columns message = .ok line) :
    ∃ p, interpretItems headline (itemsFrom [' '] (pieces message.toList)) = .ok p ∧
      (inked line.toList).Sublist (inked p.styled.text) := by
  rw [errorText_eq] at h
  cases hp : interpretItems headline (itemsFrom [' '] (pieces message.toList)) with
  | error e =>
    rw [hp] at h
    cases h
  | ok p =>
    refine ⟨p, rfl, ?_⟩
    rw [hp] at h
    replace h : (if columns = 0 then .ok ""
      else (Except.mapError Error.ofMarkup
        ((p.styled.highlighted.rows .fold columns (·.crop .fold columns)).forM StyledRow.check) >>= fun _ =>
          .ok (rowsText columns p.styled.highlighted)) : Except Error String) = .ok line := h
    split at h
    · cases h
      exact List.nil_sublist _
    · cases hcheck : (p.styled.highlighted.rows .fold columns (·.crop .fold columns)).forM StyledRow.check with
      | error e =>
        rw [hcheck] at h
        cases h
      | ok _ =>
        rw [hcheck] at h
        cases h
        rw [inked_rowsText_eq, ← text_highlighted p.styled]
        exact inked_shownRows_sublist columns _

theorem highlighted_of_unreached {t : Styled} (h : Unreached t.text) : t.highlighted = t := by
  have hany : t.text.any isReaching = false := by
    rw [List.any_eq_false]
    intro c hc
    simp [h c hc]
  simp [Styled.highlighted, hany]

theorem inked_rowsText {columns : Nat} (hcolumns : 2 ≤ columns) {t : Styled} (h : Unreached t.text) :
    inked (rowsText columns t.highlighted).toList = inked t.text := by
  rw [highlighted_of_unreached h, inked_rowsText_eq, inked_shownRows hcolumns h]

theorem check_highlighted {t : Styled} (h : ∀ s ∈ t.stretches, s.check = .ok ()) :
    ∀ s ∈ t.highlighted.stretches, s.check = .ok () := by
  unfold Styled.highlighted
  split
  · refine List.forall_mem_append.mpr ⟨fun s hs => ?_, h⟩
    obtain ⟨⟨start, stop⟩, -, rfl⟩ := List.mem_map.mp hs
    rfl
  · exact h

theorem errorText_of_styled {columns : Nat} (hcolumns : 0 < columns) {message : String} {p : Progress}
    (h : interpretItems headline (itemsFrom [' '] (pieces message.toList)) = .ok p)
    (hstyles : ∀ s ∈ p.styled.stretches, s.check = .ok ()) :
    errorText columns message = .ok (rowsText columns p.styled.highlighted) := by
  rw [errorText_eq, h]
  show (if columns = 0 then _ else Except.mapError _ (List.forM _ _) >>= _) = _
  rw [if_neg (Nat.ne_of_gt hcolumns), Styled.check_rows (check_highlighted hstyles)]
  rfl

/-- What is left of the markup is shown as it is, if its lines have room on the console. -/
theorem rowsText_of_room {columns : Nat} {t : Styled} (hsome : t.text ≠ []) (htab : '\t' ∉ t.text)
    (hroom : ∀ line ∈ t.text.splitOn '\n', room line ≤ columns) :
    rowsText columns t.highlighted = String.ofList t.text ++ "\n" := by
  have hrows := @shownRows_of_room columns t.highlighted (by rwa [text_highlighted]) (by rwa [text_highlighted])
  rw [text_highlighted] at hrows
  refine String.toList_inj.mp ?_
  have hends := @flatMap_newline ((t.highlighted.rows .fold columns (·.crop .fold columns)).map
    fun r => (fit columns r.segments).flatten) fun hnil => hsome (by rw [← hrows, hnil]; rfl)
  rw [List.flatMap_map, hrows] at hends
  rw [toList_rowsText, String.toList_append, String.toList_ofList, hends]
  rfl

/-! ## Texts without markup -/

theorem check_red : Stretch.check ⟨0, 6, ["red".toList]⟩ = .ok () := by rfl

/-- An unmarked text is read as it stands, and only the headline has a style. -/
theorem exists_errorText {columns : Nat} (hcolumns : 0 < columns) {message : String} (h : IsUnmarked message) :
    ∃ t : Styled, t.text = ("Error: " ++ message).toList.filter (!isConsoleControl ·) ∧
      errorText columns message = .ok (rowsText columns t.highlighted) := by
  obtain ⟨hliteral, hemoji⟩ := h
  have hblank : Emoji.replace (' ' :: message.toList) = ' ' :: message.toList :=
    Emoji.replace_of_not_occurs (by rw [Emoji.occurs_cons (by decide), hemoji])
  have hrun : interpretItems headline (itemsFrom [' '] (pieces message.toList))
      = .ok (headline.putAll (' ' :: message.toList)) := by
    rw [(reads_of_isLiteral hliteral).pieces_eq, itemsFrom_of_isLiteral hliteral]
    show Except.ok (headline.putAll (Emoji.replace (' ' :: message.toList))) = _
    rw [hblank]
  have hword : "Error:".toList.filter (!isConsoleControl ·) = headline.shown.reverse := by decide
  have hstyled : (headline.putAll (' ' :: message.toList)).styled
      = ⟨("Error: " ++ message).toList.filter (!isConsoleControl ·), [⟨0, 6, ["red".toList]⟩]⟩ := by
    have hsplit : ("Error: " ++ message).toList = "Error:".toList ++ ' ' :: message.toList := by
      rw [String.toList_append]
      rfl
    rw [Progress.putAll_eq, Progress.styled_of_one rfl rfl, hsplit, List.filter_append, hword, List.reverse_append,
      List.reverse_reverse]
  refine ⟨_, congrArg Styled.text hstyled, errorText_of_styled hcolumns hrun ?_⟩
  rw [hstyled]
  intro s hs
  rw [List.mem_singleton.mp hs]
  exact check_red

theorem count_colons_inked (cs : List Char) : (inked cs).count ':' = cs.count ':' := List.count_filter (by decide)

/-- A text that holds all the ink of the message is made of no emoji, since each of them would cost colons. -/
theorem not_occurs_of_inked_sublist {message : List Char}
    (h : (inked message).Sublist (shownInk ((itemsFrom [' '] (pieces message)).flatMap Item.shown))) :
    ∀ item ∈ itemsFrom [' '] (pieces message), Emoji.occurs item.chars = false := by
  obtain ⟨hle, hnone⟩ := count_shown (itemsFrom [' '] (pieces message))
  have hmessage := h.count_le ':'
  have hshown := (shownInk_sublist_inked ((itemsFrom [' '] (pieces message)).flatMap Item.shown)).count_le ':'
  have hvisible := (reads_pieces message).visible_sublist.count_le ':'
  have hchars : ((itemsFrom [' '] (pieces message)).flatMap Item.chars).count ':'
      = (visible (pieces message)).count ':' := by
    rw [chars_itemsFrom]
    rfl
  rw [count_colons_inked] at hmessage hshown
  exact hnone (by omega)

/-- A text of which all ink is shown is unmarked: emoji cost colons, and tags, backslashes that protect and characters on
which a console acts cost ink. -/
theorem isUnmarked_of_inked {columns : Nat} {message line : String} (hline : errorText columns message = .ok line)
    (hinked : inked line.toList = inked ("Error: " ++ message).toList) :
    IsUnmarked message ∧ ∀ c ∈ message.toList, isShowable c = true := by
  obtain ⟨p, hp, hsublist⟩ := exists_of_errorText hline
  have htext : p.styled.text = "Error:".toList ++
      ((itemsFrom [' '] (pieces message.toList)).flatMap Item.shown).filter (!isConsoleControl ·) :=
    shown_interpretItems hp
  have hmessage : inked ("Error: " ++ message).toList = inked "Error:".toList ++ inked message.toList := by
    rw [String.toList_append, inked_append]
    rfl
  rw [hinked, htext, hmessage, inked_append, List.append_sublist_append_left] at hsublist
  have hnone := not_occurs_of_inked_sublist hsublist
  have hread := reads_pieces message.toList
  have hlength : (inked message.toList).length ≤ (shownInk (visible (pieces message.toList))).length := by
    have := hsublist.length_le
    rwa [shown_of_not_occurs hnone, chars_itemsFrom] at this
  obtain ⟨hle, hall⟩ := isLiteral_of_shownInk hread
  obtain ⟨hliteral, hshowable⟩ := hall (Nat.le_antisymm hle hlength)
  rw [(reads_of_isLiteral hliteral).pieces_eq, itemsFrom_of_isLiteral hliteral] at hnone
  have hemoji := hnone _ (List.mem_singleton_self _)
  exact ⟨⟨hliteral, (Emoji.occurs_cons (by decide) _).symm.trans hemoji⟩, hshowable⟩

/-- All the ink of an unmarked text is shown, if the console has room for a character. -/
theorem errorText_of_isUnmarked {columns : Nat} (hcolumns : 2 ≤ columns) {message : String} (h : IsUnmarked message)
    (hshowable : ∀ c ∈ message.toList, isShowable c = true) (hunreached : Unreached message.toList) :
    ∃ line, errorText columns message = .ok line ∧ inked line.toList = inked ("Error: " ++ message).toList := by
  obtain ⟨t, htext, hline⟩ := exists_errorText (Nat.lt_of_lt_of_le (by decide) hcolumns) h
  have hwhole : Unreached ("Error: " ++ message).toList := by
    rw [String.toList_append]
    exact Unreached.append (by decide) hunreached
  have hshown : Unreached t.text := htext ▸ hwhole.of_subset (List.filter_subset_self _)
  refine ⟨_, hline, ?_⟩
  rw [inked_rowsText hcolumns hshown, htext]
  refine shownInk_of_isShowable ?_
  rw [String.toList_append, List.forall_mem_append]
  exact ⟨by decide, hshowable⟩

/-- An unmarked text that has room on the console is shown as it is. -/
theorem errorText_of_room {columns : Nat} {message : String} (h : IsUnmarked message)
    (hcontrol : ∀ c ∈ message.toList, isConsoleControl c = false ∧ c ≠ '\t')
    (hroom : ∀ line ∈ ("Error: " ++ message).toList.splitOn '\n', room line ≤ columns) :
    errorText columns message = .ok ("Error: " ++ message ++ "\n") := by
  have htext : ("Error: " ++ message).toList = 'E' :: ("rror: ".toList ++ message.toList) := by
    rw [String.toList_append]
    rfl
  have hcolumns : 0 < columns := pos_of_room (by rw [htext]; exact List.cons_ne_nil 'E' _) hroom
  obtain ⟨t, hshown, hline⟩ := exists_errorText hcolumns h
  have hwhole : t.text = ("Error: " ++ message).toList := by
    rw [hshown, List.filter_eq_self, String.toList_append, List.forall_mem_append]
    exact ⟨by decide, fun c hc => by simp [(hcontrol c hc).1]⟩
  have htab : '\t' ∉ t.text := by
    rw [hwhole, String.toList_append, List.mem_append]
    rintro (h | h)
    · exact absurd h (by decide)
    · exact (hcontrol _ h).2 rfl
  have hsome : t.text ≠ [] := by
    rw [hwhole, htext]
    exact List.cons_ne_nil 'E' _
  rw [hline, rowsText_of_room hsome htab (hwhole ▸ hroom), hwhole, String.ofList_toList]

/-! ## Runs -/

/-- The exit code of a run that an error ends, if the error is not passed on. -/
def exitCode? : Error → Option Nat
  | .problem _ => some 1
  | .rejected _ => some 2
  | _ => none

theorem endWith_eq {e : Error} {exit : Nat} (h : exitCode? e = some exit) (columns : Nat) :
    endWith columns e = failed columns exit e.message := by
  cases e with
  | problem p => cases h; rfl
  | rejected r => cases h; rfl
  | _ => cases h

theorem run_of_error {s : Surroundings} {args : List String} {r : Request} {e : Error} {exit : Nat}
    (hcommand : command? s.look args = some (.analyze r)) (herror : (report s r).1 = .error e)
    (hexit : exitCode? e = some exit) : run s args = failed s.columns exit e.message (report s r).2 := by
  rw [run_analyze hcommand, herror, ← endWith_eq hexit]

/-- The error line of a run: what is printed on the error stream behind the records of the run, which ends with the exit
code of the error. -/
def ShowsError (run : Run) (exit : Nat) (line : String) : Prop :=
  run.printed = [(.errors, .text line)] ∧ run.exit = .ok exit

theorem showsError_failed_iff {columns exit : Nat} {message line : String} {logging : Logging} :
    ShowsError (failed columns exit message logging) exit line ↔ errorText columns message = .ok line := by
  unfold failed ShowsError
  cases errorText columns message <;> simp

/-- **A run that fails shows the text of its error as it is, unless the text is marked.** Nothing is put on the output
stream, and the run ends with the exit code of the error or fails to show it. All of the text that is no blank is shown
only if the text is unmarked and holds no characters on which a console acts. On every console on which each character has
room, all of such a text is shown that is no blank, if no character reaches over to its neighbours. If its lines have room,
it is shown as it is. -/
theorem error_line_of_run {s : Surroundings} {args : List String} {r : Request} {e : Error} {exit : Nat}
    (hcommand : command? s.look args = some (.analyze r)) (herror : (report s r).1 = .error e)
    (hexit : exitCode? e = some exit) :
    ((run s args).on .output = [] ∧
      ((∃ line, ShowsError (run s args) exit line) ∨ (run s args).printed = [] ∧ ∃ e', (run s args).exit = .error e')) ∧
    (∀ line, ShowsError (run s args) exit line → inked line.toList = inked ("Error: " ++ e.message).toList →
      IsUnmarked e.message ∧ ∀ c ∈ e.message.toList, isShowable c = true) ∧
    (IsUnmarked e.message → (∀ c ∈ e.message.toList, isShowable c = true) → Unreached e.message.toList → 2 ≤ s.columns →
      ∃ line, ShowsError (run s args) exit line ∧ inked line.toList = inked ("Error: " ++ e.message).toList) ∧
    (IsUnmarked e.message → (∀ c ∈ e.message.toList, isConsoleControl c = false ∧ c ≠ '\t') →
      (∀ line ∈ ("Error: " ++ e.message).toList.splitOn '\n', room line ≤ s.columns) →
      ShowsError (run s args) exit ("Error: " ++ e.message ++ "\n")) := by
  have hrun := run_of_error hcommand herror hexit
  refine ⟨⟨(ended_of_error hcommand herror).1, ?_⟩, ?_, ?_, ?_⟩
  · rw [hrun]
    cases htext : errorText s.columns e.message with
    | ok line => exact .inl ⟨line, showsError_failed_iff.mpr htext⟩
    | error e' =>
      refine .inr ?_
      rw [failed, htext]
      exact ⟨rfl, e', rfl⟩
  · intro line hline hinked
    rw [hrun, showsError_failed_iff] at hline
    exact isUnmarked_of_inked hline hinked
  · intro hunmarked hshowable hunreached hcolumns
    obtain ⟨line, hline, hinked⟩ := errorText_of_isUnmarked hcolumns hunmarked hshowable hunreached
    exact ⟨line, hrun ▸ showsError_failed_iff.mpr hline, hinked⟩
  · intro hunmarked hcontrol hroom
    rw [hrun, showsError_failed_iff]
    exact errorText_of_room hunmarked hcontrol hroom

/-- A place with a file that holds a tree. -/
def oneFile : Surroundings :=
  { look := fun path =>
      if path = "a.json" then .file (Text.encodeUtf8 "\x7b\"type\": \"Program\"\x7d") else .absent
    home := some "/home", work := "/work", environment := [], columns := 80, time := "" }

def requestAs (format : String) : Request :=
  { paths := ["a.json"], format := format, noFunctions := false, workers := none, config := none
    verbose := false, quiet := false, logFile := none }

/-- An unknown format with an unmarked name is reported as it is. -/
theorem unknown_format_is_shown :
    command? oneFile.look ["analyze", "-f", "xml", "a.json"] = some (.analyze (requestAs "xml")) ∧
    (report oneFile (requestAs "xml")).1 = .error (.rejected (.unknownFormat "xml")) ∧
    IsUnmarked "Unknown format 'xml' (expected one of: json, table)" ∧
    ShowsError (run oneFile ["analyze", "-f", "xml", "a.json"]) 2
      "Error: Unknown format 'xml' (expected one of: json, table)\n" := by
  have hargs : command? oneFile.look ["analyze", "-f", "xml", "a.json"] = some (.analyze (requestAs "xml")) := by cbv
  have herror : (report oneFile (requestAs "xml")).1 = .error (.rejected (.unknownFormat "xml")) := by rfl
  have hunmarked : IsUnmarked "Unknown format 'xml' (expected one of: json, table)" := ⟨by decide +kernel, by decide +kernel⟩
  exact ⟨hargs, herror, hunmarked,
    (error_line_of_run hargs herror rfl).2.2.2 hunmarked (by decide +kernel) (by decide +kernel)⟩

/-! ## Texts with markup -/

/-- A tag that opens is left out of the text. -/
theorem errorText_of_bold :
    errorText 80 "Unknown format '[bold]' (expected one of: json, table)"
      = .ok "Error: Unknown format '' (expected one of: json, table)\n" := by
  let message := "Unknown format '[bold]' (expected one of: json, table)"
  have hrun : (interpretItems headline (itemsFrom [' '] (pieces message.toList))).map
      (fun p => (p.shown.reverse, p.count, p.pending, p.ended))
        = .ok ("Error: Unknown format '' (expected one of: json, table)".toList, 55, [⟨"bold", [], 23⟩],
          [⟨0, 6, ["red".toList]⟩]) := by decide +kernel
  cases hp : interpretItems headline (itemsFrom [' '] (pieces message.toList)) with
  | error e =>
    rw [hp] at hrun
    cases hrun
  | ok p =>
    rw [hp] at hrun
    simp only [Except.map, Except.ok.injEq, Prod.mk.injEq] at hrun
    obtain ⟨htext, hcount, hpending, hended⟩ := hrun
    have hstyles : ∀ s ∈ p.styled.stretches, s.check = .ok () := by
      intro s hs
      simp only [Progress.styled, hpending, hended, hcount, List.mem_mergeSort, List.reverse_singleton, List.map_singleton,
        List.mem_append, List.mem_singleton] at hs
      rcases hs with rfl | rfl
      · decide +kernel
      · exact check_red
    have htext : p.styled.text = "Error: Unknown format '' (expected one of: json, table)".toList := htext
    rw [errorText_of_styled (by decide) hp hstyles, rowsText_of_room, htext]
    · rfl
    · rw [htext]
      decide
    · rw [htext]
      decide +kernel
    · rw [htext]
      decide +kernel

/-- A tag that closes nothing leaves nothing to be shown. -/
theorem errorText_of_closed_bold :
    errorText 80 "Unknown format '[/bold]' (expected one of: json, table)" = .error .markup := by
  have hrun : (interpretItems headline
      (itemsFrom [' '] (pieces "Unknown format '[/bold]' (expected one of: json, table)".toList))).map (·.count)
        = .error .malformed := by decide +kernel
  rw [errorText_eq]
  cases hp : interpretItems headline
      (itemsFrom [' '] (pieces "Unknown format '[/bold]' (expected one of: json, table)".toList)) with
  | error e =>
    rw [hp] at hrun
    cases hrun
    rfl
  | ok p =>
    rw [hp] at hrun
    cases hrun

/-- The name of a format that looks like a tag is left out of the line that reports it, and one that looks like a closing
tag ends the run without any line. -/
theorem format_name_taken_for_markup :
    (command? oneFile.look ["analyze", "-f", "[bold]", "a.json"] = some (.analyze (requestAs "[bold]")) ∧
      (report oneFile (requestAs "[bold]")).1 = .error (.rejected (.unknownFormat "[bold]")) ∧
      ShowsError (run oneFile ["analyze", "-f", "[bold]", "a.json"]) 2
        "Error: Unknown format '' (expected one of: json, table)\n") ∧
    (command? oneFile.look ["analyze", "-f", "[/bold]", "a.json"] = some (.analyze (requestAs "[/bold]")) ∧
      (report oneFile (requestAs "[/bold]")).1 = .error (.rejected (.unknownFormat "[/bold]")) ∧
      (run oneFile ["analyze", "-f", "[/bold]", "a.json"]).printed = [] ∧
      (run oneFile ["analyze", "-f", "[/bold]", "a.json"]).exit = .error .markup) := by
  have hopen : command? oneFile.look ["analyze", "-f", "[bold]", "a.json"] = some (.analyze (requestAs "[bold]")) := by
    cbv
  have hclose : command? oneFile.look ["analyze", "-f", "[/bold]", "a.json"] = some (.analyze (requestAs "[/bold]")) := by
    cbv
  refine ⟨⟨hopen, rfl, ?_⟩, hclose, rfl, ?_⟩
  · rw [run_of_error hopen rfl rfl, showsError_failed_iff]
    exact errorText_of_bold
  · have hfailed : failed 80 2 "Unknown format '[/bold]' (expected one of: json, table)"
        (report oneFile (requestAs "[/bold]")).2 = ⟨(report oneFile (requestAs "[/bold]")).2, [], .error .markup⟩ := by
      rw [failed, errorText_of_closed_bold]
    rw [run_of_error hclose rfl rfl]
    exact ⟨congrArg Run.printed hfailed, congrArg Run.exit hfailed⟩

end CodeMetrics.CommandLine
