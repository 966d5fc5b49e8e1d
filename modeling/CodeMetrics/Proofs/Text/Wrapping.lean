import CodeMetrics.Text.Highlight
import Mathlib

/-!
# What wrapping keeps

A text that is broken into rows loses blanks at most: what is written in ink is on the rows, in its order. That holds of
texts in which no character reaches over to its neighbours, whatever their length; a text whose lines have room enough
is shown as it is, whatever its characters.

* `width_of_unreached` — where no character reaches over, columns add up
* `Fills.place` — filling a line with one more chunk; `Fills.chunks` — with all of them
* `inked_shownRows` — the rows hold all that is no blank
* `inked_shownRows_sublist` — no ink is added, whatever the characters are
* `shownRows_of_room` — lines with room enough are shown as they are
-/

namespace CodeMetrics.Text

/-- A property of all characters of a text is decided along the text, and not by trying every character there is. -/
instance (priority := 2000) decidableForallMem {p : Char → Prop} [DecidablePred p] (cs : List Char) :
    Decidable (∀ c ∈ cs, p c) :=
  List.decidableBAll p cs

/-! ## Ink and blanks -/

/-- The characters of a text that are no blanks. -/
def inked (cs : List Char) : List Char := cs.filter (!isSpace ·)

@[simp] theorem inked_nil : inked [] = [] := rfl

@[simp] theorem inked_cons (c : Char) (cs : List Char) :
    inked (c :: cs) = if isSpace c then inked cs else c :: inked cs := by
  by_cases h : isSpace c <;> simp [inked, h]

@[simp] theorem inked_append (cs ds : List Char) : inked (cs ++ ds) = inked cs ++ inked ds := List.filter_append ..

theorem inked_eq_nil {cs : List Char} (h : ∀ c ∈ cs, isSpace c = true) : inked cs = [] := by
  rw [inked, List.filter_eq_nil_iff]
  intro c hc
  simp [h c hc]

theorem trimEnd_cons (p : Char → Bool) (c : Char) (cs : List Char) :
    trimEnd p (c :: cs) = if (trimEnd p cs).isEmpty ∧ p c then [] else c :: trimEnd p cs := by
  simp only [trimEnd, List.reverse_cons, List.dropWhile_append, List.isEmpty_reverse]
  by_cases hempty : (cs.reverse.dropWhile p).isEmpty
  · by_cases hc : p c <;> simp_all
  · simp [hempty]

theorem trimEnd_eq_nil {cs : List Char} (h : ∀ c ∈ cs, isSpace c = true) : trimEnd isSpace cs = [] := by
  rw [trimEnd, List.dropWhile_eq_nil_iff.mpr (by simpa using h)]
  rfl

theorem trimEnd_append_isPrefix (p : Char → Bool) (cs ds : List Char) :
    trimEnd p (cs ++ ds) <+: cs ++ trimEnd p ds := by
  rw [trimEnd, List.reverse_append, List.dropWhile_append]
  split
  · exact (List.rdropWhile_prefix p cs).trans (List.prefix_append cs _)
  · rw [List.reverse_append, List.reverse_reverse]
    exact List.prefix_refl _

theorem trimEnd_isPrefix (cs : List Char) : trimEnd isSpace cs <+: cs := List.rdropWhile_prefix isSpace cs

/-- A text is what is left of it without the blanks at its end, and these blanks. -/
theorem exists_trimEnd_append (cs : List Char) :
    ∃ blanks, cs = trimEnd isSpace cs ++ blanks ∧ ∀ c ∈ blanks, isSpace c = true := by
  refine ⟨cs.rtakeWhile isSpace, List.rdropWhile_append_rtakeWhile.symm, fun c hc => ?_⟩
  exact List.mem_rtakeWhile_imp hc

/-! ## Columns -/

/-- The columns of the characters of a text, each taken by itself. -/
def columns (cs : List Char) : Nat := (cs.map charWidth).sum

@[simp] theorem columns_nil : columns [] = 0 := rfl

@[simp] theorem columns_cons (c : Char) (cs : List Char) : columns (c :: cs) = charWidth c + columns cs := by
  simp [columns]

@[simp] theorem columns_append (cs ds : List Char) : columns (cs ++ ds) = columns cs + columns ds := by
  simp [columns]

theorem columns_le_of_prefix {cs ds : List Char} (h : cs <+: ds) : columns cs ≤ columns ds := by
  obtain ⟨rest, rfl⟩ := h
  simp

/-- No character of a text reaches over to its neighbours. -/
def Unreached (cs : List Char) : Prop := ∀ c ∈ cs, isReaching c = false

instance (cs : List Char) : Decidable (Unreached cs) := inferInstanceAs (Decidable (∀ c ∈ cs, isReaching c = false))

theorem Unreached.append {cs ds : List Char} (hc : Unreached cs) (hd : Unreached ds) : Unreached (cs ++ ds) :=
  List.forall_mem_append.mpr ⟨hc, hd⟩

theorem Unreached.of_subset {cs ds : List Char} (h : Unreached ds) (hsub : cs ⊆ ds) : Unreached cs :=
  fun c hc => h c (hsub hc)

theorem ne_of_not_isReaching {c : Char} (h : isReaching c = false) : c ≠ joiner ∧ c ≠ selector := by
  simpa [isReaching] using h

theorem widthFrom_of_unreached {cs : List Char} (h : Unreached cs) (last : Option Char) :
    widthFrom last cs = columns cs := by
  induction cs generalizing last with
  | nil => rfl
  | cons c rest ih =>
    obtain ⟨hc, hrest⟩ := List.forall_mem_cons.mp h
    obtain ⟨hjoiner, hselector⟩ := ne_of_not_isReaching hc
    unfold widthFrom
    rw [if_neg hjoiner, if_neg hselector]
    by_cases hzero : charWidth c = 0
    · simp [hzero, ih hrest]
    · simp [hzero, ih hrest]

/-- Where no character reaches over, columns add up. -/
theorem width_of_unreached {cs : List Char} (h : Unreached cs) : width cs = columns cs := widthFrom_of_unreached h none

/-! ## Clusters -/

/-- A cluster of characters that are measured one by one. -/
structure Cluster.IsSimple (k : Cluster) : Prop where
  ne_nil : k.chars ≠ []
  width_eq : k.width = columns k.chars
  width_le : k.width ≤ 2

theorem Cluster.IsSimple.extend {k : Cluster} (h : k.IsSimple) {c : Char} (hc : charWidth c = 0) :
    (k.extend [c] 0).IsSimple :=
  ⟨by simp [Cluster.extend], by simp [Cluster.extend, h.width_eq, hc], by simpa [Cluster.extend] using h.width_le⟩

theorem Cluster.isSimple_singleton (c : Char) : Cluster.IsSimple ⟨[c], charWidth c⟩ :=
  ⟨by simp, by simp, charWidth_le c⟩

theorem isSimple_clustersFrom {cs : List Char} (h : Unreached cs) {current : Cluster} (hcurrent : current.IsSimple)
    (last : Option Char) : ∀ k ∈ clustersFrom current last cs, k.IsSimple := by
  induction cs generalizing current last with
  | nil => simpa [clustersFrom] using hcurrent
  | cons c rest ih =>
    obtain ⟨hc, hrest⟩ := List.forall_mem_cons.mp h
    obtain ⟨hjoiner, hselector⟩ := ne_of_not_isReaching hc
    unfold clustersFrom
    rw [if_neg hjoiner, if_neg hselector]
    split
    · next hzero => exact ih hrest (hcurrent.extend hzero) last
    · exact List.forall_mem_cons.mpr ⟨hcurrent, ih hrest (Cluster.isSimple_singleton c) (some c)⟩

theorem clusters_cons_of_unreached {c : Char} {cs : List Char} (h : isReaching c = false) :
    ∃ last, clusters (c :: cs) = clustersFrom ⟨[c], charWidth c⟩ last cs := by
  obtain ⟨hjoiner, hselector⟩ := ne_of_not_isReaching h
  unfold clusters
  by_cases hzero : charWidth c = 0
  · exact ⟨none, by simp [hzero]⟩
  · exact ⟨some c, by simp [hjoiner, hselector, hzero]⟩

theorem isSimple_clusters {cs : List Char} (h : Unreached cs) : ∀ k ∈ clusters cs, k.IsSimple := by
  cases cs with
  | nil => simp [clusters]
  | cons c rest =>
    obtain ⟨hc, hrest⟩ := List.forall_mem_cons.mp h
    obtain ⟨last, hclusters⟩ := @clusters_cons_of_unreached c rest hc
    rw [hclusters]
    exact isSimple_clustersFrom hrest (Cluster.isSimple_singleton c) last

/-! ## Words that are too wide -/

/-- Chopping loses nothing of a word that takes columns, and its parts are narrow enough. -/
theorem chopFrom_spec {limit : Nat} (hlimit : 2 ≤ limit) {ks : List Cluster} (hks : ∀ k ∈ ks, k.IsSimple)
    {current : List Cluster} {taken : Nat} (htaken : taken = columns (current.reverse.flatMap Cluster.chars))
    (hfits : taken ≤ limit) (hsome : 0 < taken + columns (ks.flatMap Cluster.chars)) :
    (chopFrom limit current taken ks).flatten
      = current.reverse.flatMap Cluster.chars ++ ks.flatMap Cluster.chars ∧
    ∀ part ∈ chopFrom limit current taken ks, columns part ≤ limit := by
  induction ks generalizing current taken with
  | nil =>
    have hne : taken ≠ 0 := by simpa using Nat.ne_of_gt hsome
    rw [chopFrom, if_neg hne]
    simp [← htaken, hfits]
  | cons k rest ih =>
    obtain ⟨hk, hrest⟩ := List.forall_mem_cons.mp hks
    have hwidth := hk.width_eq
    rw [chopFrom]
    by_cases hwide : limit < taken + k.width
    · rw [if_pos hwide]
      have hk2 := hk.width_le
      obtain ⟨hflatten, hparts⟩ := @ih hrest [k] k.width (by simp [hwidth]) (by omega) (by omega)
      refine ⟨by simp [hflatten], List.forall_mem_cons.mpr ⟨htaken ▸ hfits, hparts⟩⟩
    · rw [if_neg hwide]
      have htotal : taken + k.width = columns ((k :: current).reverse.flatMap Cluster.chars) := by
        simp [htaken, hwidth]
      obtain ⟨hflatten, hparts⟩ := ih hrest htotal (by omega) (by simp at hsome; omega)
      refine ⟨by simpa using hflatten, hparts⟩

theorem chop_spec {limit : Nat} (hlimit : 2 ≤ limit) {word : List Char} (h : Unreached word) (hsome : 0 < columns word) :
    (chop limit word).flatten = word ∧ ∀ part ∈ chop limit word, columns part ≤ limit := by
  have hspec := @chopFrom_spec limit hlimit (clusters word) (isSimple_clusters h) [] 0 rfl (by omega)
    (by simpa [clusters_chars] using hsome)
  simpa [chop, clusters_chars] using hspec

/-! ## Filling lines -/

theorem flatten_newLine (f : Filling) (chunk : List Char) :
    (f.newLine chunk).lines.flatten = f.lines.flatten ++ chunk := by
  unfold Filling.newLine
  split
  · next hempty =>
    simp only [Bool.and_eq_true, List.isEmpty_iff] at hempty
    simp [Filling.lines, hempty]
  · simp [Filling.lines]

theorem flatten_newLines (f : Filling) (parts : List (List Char)) :
    (parts.foldl Filling.newLine f).lines.flatten = f.lines.flatten ++ parts.flatten := by
  induction parts generalizing f with
  | nil => simp
  | cons part parts ih => rw [List.foldl_cons, ih, flatten_newLine, List.flatten_cons, List.append_assoc]

/-- The lines on the way hold a text, and each of them fits but for the blanks at its end. -/
structure Fills (limit : Nat) (f : Filling) (text : List Char) : Prop where
  columns_eq : f.columns = columns f.current
  flatten_eq : f.lines.flatten = text
  fits : ∀ line ∈ f.lines, columns (trimEnd isSpace line) ≤ limit

theorem fills_empty (limit : Nat) : Fills limit .empty [] :=
  ⟨rfl, rfl, by simp [Filling.lines, Filling.empty, trimEnd]⟩

namespace Fills

variable {limit : Nat} {f : Filling} {text chunk : List Char}

theorem newLine (h : Fills limit f text) (hchunk : Unreached chunk) (hfits : columns (trimEnd isSpace chunk) ≤ limit) :
    Fills limit (f.newLine chunk) (text ++ chunk) := by
  have hflatten : (f.newLine chunk).lines.flatten = text ++ chunk := by rw [flatten_newLine, h.flatten_eq]
  have hlines := h.fits
  refine ⟨?_, hflatten, fun line hline => ?_⟩
  · unfold Filling.newLine
    split <;> exact width_of_unreached hchunk
  · unfold Filling.newLine at hline
    split at hline <;>
      simp only [Filling.lines, List.reverse_cons, List.mem_append, List.mem_singleton] at hline hlines
    · rcases hline with hline | rfl
      · cases hline
      · exact hfits
    · rcases hline with (hline | rfl) | rfl
      · exact hlines line (.inl hline)
      · exact hlines _ (.inr rfl)
      · exact hfits

theorem newLines {parts : List (List Char)} (h : Fills limit f text) (hparts : ∀ part ∈ parts, Unreached part)
    (hfits : ∀ part ∈ parts, columns part ≤ limit) :
    Fills limit (parts.foldl Filling.newLine f) (text ++ parts.flatten) := by
  induction parts generalizing f text with
  | nil => simpa using h
  | cons part parts ih =>
    obtain ⟨hpart, hrest⟩ := List.forall_mem_cons.mp hparts
    obtain ⟨hfit, hfits⟩ := List.forall_mem_cons.mp hfits
    have htrimmed := columns_le_of_prefix (trimEnd_isPrefix part)
    have hstep := h.newLine hpart (Nat.le_trans htrimmed hfit)
    simpa using ih hstep hrest hfits

/-- One more chunk goes on the line if its word fits, else on new lines. -/
theorem place (h : Fills limit f text) (hlimit : 2 ≤ limit) (hchunk : Unreached chunk) :
    Fills limit (place .fold limit f chunk) (text ++ chunk) := by
  have htrim : Unreached (trimEnd isSpace chunk) := hchunk.of_subset (trimEnd_isPrefix chunk).subset
  unfold Text.place
  simp only [width_of_unreached htrim, width_of_unreached hchunk, and_true]
  by_cases hfits : f.columns + columns (trimEnd isSpace chunk) ≤ limit
  · rw [if_pos hfits]
    have hflatten := h.flatten_eq
    have hlines := h.fits
    simp only [Filling.lines, List.reverse_cons, List.mem_append, List.mem_singleton] at hflatten hlines
    refine ⟨by simp [h.columns_eq], ?_, fun line hline => ?_⟩
    · simp [Filling.lines, ← hflatten]
    · simp only [Filling.lines, List.reverse_cons, List.mem_append, List.mem_singleton] at hline
      rcases hline with hline | rfl
      · exact hlines line (.inl hline)
      · have hle := columns_le_of_prefix (trimEnd_append_isPrefix isSpace f.current chunk)
        rw [columns_append, ← h.columns_eq] at hle
        exact Nat.le_trans hle hfits
  · rw [if_neg hfits]
    by_cases hwide : limit < columns (trimEnd isSpace chunk)
    · rw [if_pos hwide]
      have hsome : 0 < columns chunk := by
        have := columns_le_of_prefix (trimEnd_isPrefix chunk)
        omega
      obtain ⟨hflatten, hparts⟩ := chop_spec hlimit hchunk hsome
      have hunreached : ∀ part ∈ chop limit chunk, Unreached part := by
        intro part hpart c hc
        refine hchunk c ?_
        rw [← hflatten]
        exact List.mem_flatten_of_mem hpart hc
      simpa [hflatten] using h.newLines hunreached hparts
    · rw [if_neg hwide]
      exact h.newLine hchunk (by omega)

theorem chunks {found : List (List Char)} (h : Fills limit f text) (hlimit : 2 ≤ limit)
    (hfound : ∀ chunk ∈ found, Unreached chunk) :
    Fills limit (found.foldl (Text.place .fold limit) f) (text ++ found.flatten) := by
  induction found generalizing f text with
  | nil => simpa using h
  | cons chunk found ih =>
    obtain ⟨hchunk, hrest⟩ := List.forall_mem_cons.mp hfound
    simpa using ih (h.place hlimit hchunk) hrest

end Fills

/-- The chunks of a line make it up, unless it is blank and has none. -/
theorem chunksFrom_spec (current : List Char) (started closed : Bool) (cs : List Char) :
    (chunksFrom current started closed cs ≠ [] →
      (chunksFrom current started closed cs).flatten = current.reverse ++ cs) ∧
    (chunksFrom current started closed cs = [] → started = false ∧ ∀ c ∈ cs, isSpace c = true) := by
  induction cs generalizing current started closed with
  | nil => cases started <;> simp [chunksFrom]
  | cons c rest ih =>
    unfold chunksFrom
    by_cases hspace : isSpace c
    · rw [if_pos hspace]
      obtain ⟨hsome, hnone⟩ := ih (c :: current) started started
      refine ⟨fun h => by simpa using hsome h, fun h => ?_⟩
      obtain ⟨hstarted, hrest⟩ := hnone h
      exact ⟨hstarted, List.forall_mem_cons.mpr ⟨hspace, hrest⟩⟩
    · rw [if_neg hspace]
      cases closed with
      | true =>
        obtain ⟨hsome, hnone⟩ := ih [c] true false
        have hne : chunksFrom [c] true false rest ≠ [] := fun h => by simpa using (hnone h).1
        simp [hsome hne]
      | false =>
        obtain ⟨hsome, hnone⟩ := ih (c :: current) true false
        have hne : chunksFrom (c :: current) true false rest ≠ [] := fun h => by simpa using (hnone h).1
        simp [hsome hne, hne]

/-- The parts into which a line is broken. -/
def parts (limit : Nat) (line : List Char) : List (List Char) :=
  match chunks line with
  | [] => [line]
  | found => (found.foldl (place .fold limit) .empty).lines

theorem parts_spec {limit : Nat} (hlimit : 2 ≤ limit) {line : List Char} (h : Unreached line) :
    (parts limit line).flatten = line ∧ ∀ part ∈ parts limit line, columns (trimEnd isSpace part) ≤ limit := by
  obtain ⟨hsome, hnone⟩ := chunksFrom_spec [] false false line
  unfold parts
  split
  · next hempty =>
    have hblank := (hnone hempty).2
    simp [trimEnd_eq_nil hblank]
  · next hne =>
    have hflatten : (chunks line).flatten = line := hsome hne
    have hchunks : ∀ chunk ∈ chunks line, Unreached chunk := by
      intro chunk hchunk c hc
      refine h c ?_
      rw [← hflatten]
      exact List.mem_flatten_of_mem hchunk hc
    have hfills := (fills_empty limit).chunks hlimit hchunks
    rw [List.nil_append, hflatten] at hfills
    exact ⟨hfills.flatten_eq, hfills.fits⟩

/-! ## Tabs -/

theorem mem_widened_tabPieces {column : Nat} {part cs : List Char} {c : Char}
    (h : c ∈ widened (tabPieces column part cs)) : c ∈ part ∨ c ∈ cs ∨ c = ' ' := by
  induction cs generalizing column part with
  | nil => exact .inl (by simpa [tabPieces, widened] using h)
  | cons d rest ih =>
    unfold tabPieces at h
    split at h
    · next hd =>
      simp only [widened, List.flatMap_cons, List.mem_append, List.mem_reverse, List.mem_cons,
        List.mem_replicate] at h
      rcases h with (h | ⟨-, h⟩) | h
      · exact h.elim (fun h => .inr (.inr h)) .inl
      · exact .inr (.inr h)
      · rcases ih h with h | h | h
        · cases h
        · exact .inr (.inl (List.mem_cons_of_mem d h))
        · exact .inr (.inr h)
    · rcases ih h with h | h | h
      · rcases List.mem_cons.mp h with rfl | h
        · exact .inr (.inl List.mem_cons_self)
        · exact .inl h
      · exact .inr (.inl (List.mem_cons_of_mem d h))
      · exact .inr (.inr h)

theorem inked_widened_tabPieces (column : Nat) (part cs : List Char) :
    inked (widened (tabPieces column part cs)) = inked (part.reverse ++ cs) := by
  induction cs generalizing column part with
  | nil => simp [tabPieces, widened]
  | cons c rest ih =>
    unfold tabPieces
    split
    · next hc =>
      subst hc
      have hfill : ∀ n : Nat, inked (List.replicate n ' ') = [] := by
        intro n
        exact inked_eq_nil fun c hc => by rw [List.eq_of_mem_replicate hc]; rfl
      have hrest := fun column => ih column []
      simp only [widened] at hrest
      simp [widened, hrest, hfill, show isSpace ' ' = true from rfl, show isSpace '\t' = true from rfl]
    · simp [ih]

theorem tabPieces_of_no_tab {column : Nat} {part cs : List Char} (h : '\t' ∉ cs) :
    tabPieces column part cs = [(part.reverse ++ cs, 0)] := by
  induction cs generalizing column part with
  | nil => simp [tabPieces]
  | cons c rest ih =>
    simp only [List.mem_cons, not_or] at h
    rw [tabPieces, if_neg (Ne.symm h.1), ih h.2]
    simp

/-! ## Rows -/

/-- Only blanks at the end of a line are dropped. -/
theorem exists_dropExcess (limit : Nat) (line : List Char) :
    ∃ kept dropped, line = trimEnd isSpace line ++ kept ++ dropped ∧
      dropExcess limit line = trimEnd isSpace line ++ kept ∧ ∀ c ∈ kept ++ dropped, isSpace c = true := by
  obtain ⟨blanks, hline, hblanks⟩ := exists_trimEnd_append line
  have hlength : (trimEnd isSpace line).length
      ≤ line.length - min (line.length - (trimEnd isSpace line).length) (line.length - limit) := by
    have := (trimEnd_isPrefix line).length_le
    omega
  obtain ⟨n, hn⟩ := Nat.exists_eq_add_of_le hlength
  refine ⟨blanks.take n, blanks.drop n, ?_, ?_, ?_⟩
  · rw [List.append_assoc, List.take_append_drop]
    exact hline
  · rw [dropExcess, hn]
    nth_rewrite 2 [hline]
    rw [List.take_append, List.take_of_length_le (by omega), Nat.add_sub_cancel_left]
  · rw [List.take_append_drop]
    exact hblanks

theorem inked_dropExcess (limit : Nat) (line : List Char) : inked (dropExcess limit line) = inked line := by
  obtain ⟨kept, dropped, hline, hkept, hblank⟩ := exists_dropExcess limit line
  obtain ⟨hk, hd⟩ := List.forall_mem_append.mp hblank
  rw [hkept]
  nth_rewrite 2 [hline]
  simp [inked_eq_nil hk, inked_eq_nil hd]

theorem columns_trimEnd_dropExcess (limit : Nat) (line : List Char) :
    columns (trimEnd isSpace (dropExcess limit line)) ≤ columns (trimEnd isSpace line) := by
  obtain ⟨kept, dropped, -, hkept, hblank⟩ := exists_dropExcess limit line
  have hnil := trimEnd_eq_nil (List.forall_mem_append.mp hblank).1
  have hprefix := trimEnd_append_isPrefix isSpace (trimEnd isSpace line) kept
  rw [hnil, List.append_nil, ← hkept] at hprefix
  exact columns_le_of_prefix hprefix

/-! ## Cutting rows -/

theorem mem_cut {n : Nat} {ks : List Cluster} {c : Char} (h : c ∈ cut n ks) : c ∈ ks.flatMap Cluster.chars ∨ c = ' ' := by
  fun_induction cut n ks with
  | case1 => cases h
  | case2 => cases h
  | case3 n k rest hk ih =>
    rw [List.flatMap_cons, List.mem_append]
    rcases List.mem_append.mp h with h | h
    · exact .inl (.inl h)
    · exact (ih h).imp_left .inr
  | case4 => exact .inr (List.mem_singleton.mp h)

theorem isSpace_of_mem_cut {n : Nat} {ks : List Cluster} (h : ∀ c ∈ ks.flatMap Cluster.chars, isSpace c = true) :
    ∀ c ∈ cut n ks, isSpace c = true := by
  intro c hc
  rcases mem_cut hc with hc | rfl
  · exact h c hc
  · rfl

theorem columns_cut_le {n : Nat} {ks : List Cluster} (h : ∀ k ∈ ks, k.IsSimple) : columns (cut n ks) ≤ n := by
  fun_induction cut n ks with
  | case1 => simp
  | case2 => simp
  | case3 n k rest hk ih =>
    obtain ⟨hsimple, hrest⟩ := List.forall_mem_cons.mp h
    have := ih hrest
    rw [columns_append, ← hsimple.width_eq]
    omega
  | case4 n k rest hk => simp [show charWidth ' ' = 1 from rfl]

theorem length_cut_le {n : Nat} {ks : List Cluster} (h : ∀ k ∈ ks, k.IsSimple) :
    (cut n ks).length ≤ (ks.flatMap Cluster.chars).length := by
  fun_induction cut n ks with
  | case1 => simp
  | case2 => simp
  | case3 n k rest hk ih =>
    obtain ⟨-, hrest⟩ := List.forall_mem_cons.mp h
    have := ih hrest
    simp only [List.length_append, List.flatMap_cons]
    omega
  | case4 n k rest hk =>
    have := List.length_pos_of_ne_nil (h k List.mem_cons_self).ne_nil
    simp only [List.length_append, List.flatMap_cons, List.length_cons, List.length_nil]
    omega

theorem cut_nil (n : Nat) : cut n [] = [] := by
  cases n <;> rfl

theorem inked_cut_of_blank {n : Nat} {current : Cluster} {last : Option Char} {cs : List Char} (h : Unreached cs)
    (hblank : ∀ c ∈ cs, isSpace c = true) (hwidth : current.width ≤ n + 1) :
    inked (cut (n + 1) (clustersFrom current last cs)) = inked current.chars := by
  induction cs generalizing current last with
  | nil => simp [clustersFrom, cut, hwidth, cut_nil]
  | cons c rest ih =>
    obtain ⟨hc, hrest⟩ := List.forall_mem_cons.mp h
    obtain ⟨hspace, hblanks⟩ := List.forall_mem_cons.mp hblank
    obtain ⟨hjoiner, hselector⟩ := ne_of_not_isReaching hc
    unfold clustersFrom
    rw [if_neg hjoiner, if_neg hselector]
    by_cases hzero : charWidth c = 0
    · rw [if_pos hzero, ih hrest hblanks (by simpa [Cluster.extend] using hwidth)]
      simp [Cluster.extend, hspace]
    · have hcut : inked (cut (n + 1 - current.width) (clustersFrom ⟨[c], charWidth c⟩ (some c) rest)) = [] := by
        refine inked_eq_nil (isSpace_of_mem_cut ?_)
        rw [clustersFrom_chars]
        exact hblank
      rw [if_neg hzero, cut, if_pos hwidth, inked_append, hcut, List.append_nil]

/-- If all but the blanks at the end fits, only blanks are cut off. -/
theorem inked_cut_clustersFrom {n : Nat} {current : Cluster} {last : Option Char} {cs : List Char} (h : Unreached cs)
    (hfits : current.width + columns (trimEnd isSpace cs) ≤ n + 1) :
    inked (cut (n + 1) (clustersFrom current last cs)) = inked (current.chars ++ cs) := by
  have hwidth : current.width ≤ n + 1 := by omega
  induction cs generalizing current last n with
  | nil => simp [clustersFrom, cut, hwidth, cut_nil]
  | cons c rest ih =>
    by_cases hblank : (trimEnd isSpace rest).isEmpty = true ∧ isSpace c = true
    · have hall : ∀ d ∈ c :: rest, isSpace d = true := by
        obtain ⟨blanks, hsplit, hblanks⟩ := exists_trimEnd_append rest
        rw [List.isEmpty_iff.mp hblank.1, List.nil_append] at hsplit
        exact List.forall_mem_cons.mpr ⟨hblank.2, hsplit ▸ hblanks⟩
      rw [inked_cut_of_blank h hall hwidth, inked_append, inked_eq_nil hall, List.append_nil]
    · obtain ⟨hc, hrest⟩ := List.forall_mem_cons.mp h
      obtain ⟨hjoiner, hselector⟩ := ne_of_not_isReaching hc
      rw [trimEnd_cons, if_neg hblank, columns_cons] at hfits
      unfold clustersFrom
      rw [if_neg hjoiner, if_neg hselector]
      by_cases hzero : charWidth c = 0
      · rw [if_pos hzero, ih hrest (by simp only [Cluster.extend]; omega) (by simpa [Cluster.extend] using hwidth)]
        simp [Cluster.extend]
      · rw [if_neg hzero, cut, if_pos hwidth]
        obtain ⟨m, hm⟩ : ∃ m, n + 1 - current.width = m + 1 := ⟨n - current.width, by omega⟩
        rw [hm, inked_append, ih hrest (by simp only; omega) (by simp only; omega)]
        simp

theorem unreached_crop {limit : Nat} {line : List Char} (h : Unreached line) : Unreached (crop .fold limit line) := by
  rw [crop]
  split
  · exact h
  · intro c hc
    rcases mem_cut hc with hc | rfl
    · exact h c (clusters_chars line ▸ hc)
    · rfl

/-- A row that fits but for the blanks at its end is cut to the limit without losing anything else. -/
theorem crop_spec {limit : Nat} (hlimit : 2 ≤ limit) {line : List Char} (h : Unreached line)
    (hfits : columns (trimEnd isSpace line) ≤ limit) :
    inked (crop .fold limit line) = inked line ∧ columns (crop .fold limit line) ≤ limit ∧
      (crop .fold limit line).length ≤ line.length := by
  rw [crop, width_of_unreached h]
  by_cases hwide : columns line ≤ limit
  · rw [if_pos hwide]
    exact ⟨rfl, hwide, Nat.le_refl _⟩
  · rw [if_neg hwide]
    refine ⟨?_, columns_cut_le (isSimple_clusters h), ?_⟩
    · cases line with
      | nil => simp at hwide
      | cons c rest =>
        obtain ⟨hc, hrest⟩ := List.forall_mem_cons.mp h
        obtain ⟨last, hclusters⟩ := @clusters_cons_of_unreached c rest hc
        obtain ⟨n, rfl⟩ : ∃ n, limit = n + 1 := ⟨limit - 1, by omega⟩
        rw [hclusters]
        refine inked_cut_clustersFrom hrest ?_
        have hc2 := charWidth_le c
        rw [trimEnd_cons] at hfits
        split at hfits
        · next hblank =>
          rw [List.isEmpty_iff.mp hblank.1, columns_nil]
          simp only
          omega
        · exact hfits
    · have hlength := @length_cut_le limit (clusters line) (isSimple_clusters h)
      rwa [clusters_chars] at hlength

/-! ## Rows of a line -/

/-- What a row of a broken line is like: it knows where its characters come from, and only blanks at its end may be too
much for it. -/
structure Row.IsBroken (limit : Nat) (row : Row) : Prop where
  length_eq : row.places.length = row.chars.length
  fits : columns (Text.trimEnd isSpace row.chars) ≤ limit
  unreached : Unreached row.chars

theorem inked_rowsOf (limit : Nat) (places : List Nat) (parts : List (List Char)) :
    inked ((rowsOf limit places parts).flatMap Row.chars) = inked parts.flatten := by
  induction parts generalizing places with
  | nil => rfl
  | cons part rest ih => simp [rowsOf, inked_dropExcess, ih]

theorem isBroken_of_mem_rowsOf {limit : Nat} {parts : List (List Char)} {places : List Nat}
    (hlength : places.length = parts.flatten.length) (hparts : ∀ part ∈ parts, Unreached part)
    (hfits : ∀ part ∈ parts, columns (trimEnd isSpace part) ≤ limit) :
    ∀ row ∈ rowsOf limit places parts, row.IsBroken limit := by
  induction parts generalizing places with
  | nil => simp [rowsOf]
  | cons part rest ih =>
    obtain ⟨hpart, hrest⟩ := List.forall_mem_cons.mp hparts
    obtain ⟨hfit, hfits⟩ := List.forall_mem_cons.mp hfits
    rw [List.flatten_cons, List.length_append] at hlength
    have hrows := @ih (places.drop part.length) (by rw [List.length_drop, hlength, Nat.add_sub_cancel_left]) hrest hfits
    obtain ⟨kept, dropped, hline, hkept, -⟩ := exists_dropExcess limit part
    have hprefix : dropExcess limit part <+: part := ⟨dropped, by rw [hkept]; exact hline.symm⟩
    have hle := hprefix.length_le
    refine List.forall_mem_cons.mpr ⟨⟨?_, ?_, ?_⟩, hrows⟩
    · simp only [List.length_take]
      omega
    · exact Nat.le_trans (columns_trimEnd_dropExcess limit part) hfit
    · exact hpart.of_subset hprefix.subset

theorem lineRows_eq (limit position : Nat) (line : List Char) :
    lineRows .fold limit position line
      = rowsOf limit (sources position (tabPieces 0 [] line)) (parts limit (widened (tabPieces 0 [] line))) := rfl

theorem lineRows_spec {limit : Nat} (hlimit : 2 ≤ limit) (position : Nat) {line : List Char} (h : Unreached line) :
    inked ((lineRows .fold limit position line).flatMap Row.chars) = inked line ∧
    ∀ row ∈ lineRows .fold limit position line, row.IsBroken limit := by
  have hwidened : Unreached (widened (tabPieces 0 [] line)) := by
    intro c hc
    rcases mem_widened_tabPieces hc with hc | hc | rfl
    · cases hc
    · exact h c hc
    · rfl
  obtain ⟨hflatten, hfits⟩ := parts_spec hlimit hwidened
  have hparts : ∀ part ∈ parts limit (widened (tabPieces 0 [] line)), Unreached part := by
    intro part hpart c hc
    refine hwidened c ?_
    rw [← hflatten]
    exact List.mem_flatten_of_mem hpart hc
  rw [lineRows_eq]
  have hlength := length_sources position (tabPieces 0 [] line)
  refine ⟨?_, isBroken_of_mem_rowsOf (hlength.trans (congrArg List.length hflatten.symm)) hparts hfits⟩
  rw [inked_rowsOf, hflatten, inked_widened_tabPieces]
  rfl

theorem rowsFrom_spec {limit : Nat} (hlimit : 2 ≤ limit) (position : Nat) {lines : List (List Char)}
    (h : ∀ line ∈ lines, Unreached line) :
    inked ((rowsFrom .fold limit position lines).flatMap Row.chars) = inked lines.flatten ∧
    ∀ row ∈ rowsFrom .fold limit position lines, row.IsBroken limit := by
  induction lines generalizing position with
  | nil => simp [rowsFrom]
  | cons line rest ih =>
    obtain ⟨hline, hrest⟩ := List.forall_mem_cons.mp h
    obtain ⟨hfirst, hfirstRows⟩ := lineRows_spec hlimit position hline
    obtain ⟨hothers, hotherRows⟩ := ih (position + line.length + 1) hrest
    rw [rowsFrom]
    exact ⟨by simp [hfirst, hothers], List.forall_mem_append.mpr ⟨hfirstRows, hotherRows⟩⟩

theorem inked_intercalate_newline (lines : List (List Char)) : inked (['\n'].intercalate lines) = inked lines.flatten := by
  induction lines with
  | nil => rfl
  | cons line rest ih =>
    cases rest with
    | nil => simp [List.intercalate_singleton]
    | cons next rest =>
      rw [List.intercalate_cons_cons, inked_append, inked_append, ih]
      simp [show isSpace '\n' = true from rfl]

/-- Lines that all end in a line feed, and lines that are joined by it. -/
theorem flatMap_newline {lines : List (List Char)} (h : lines ≠ []) :
    lines.flatMap (· ++ ['\n']) = ['\n'].intercalate lines ++ ['\n'] := by
  induction lines with
  | nil => exact absurd rfl h
  | cons line rest ih =>
    cases rest with
    | nil => simp
    | cons next rest =>
      rw [List.flatMap_cons, ih (List.cons_ne_nil next rest), List.intercalate_cons_cons]
      simp

theorem mem_intercalate_newline {lines : List (List Char)} {line : List Char} {c : Char} (hline : line ∈ lines)
    (hc : c ∈ line) : c ∈ ['\n'].intercalate lines := by
  induction lines with
  | nil => cases hline
  | cons first rest ih =>
    cases rest with
    | nil => simpa [List.intercalate_singleton, List.mem_singleton.mp hline] using hc
    | cons next rest =>
      rw [List.intercalate_cons_cons, List.mem_append, List.mem_append]
      rcases List.mem_cons.mp hline with rfl | hline
      · exact .inl (.inl hc)
      · exact .inr (ih hline)

/-- The rows of a text hold all of it that is no blank. -/
theorem rows_spec {limit : Nat} (hlimit : 2 ≤ limit) {text : List Char} (h : Unreached text) :
    inked ((rows .fold limit text).flatMap Row.chars) = inked text ∧
    ∀ row ∈ rows .fold limit text, row.IsBroken limit := by
  have hjoined := @List.intercalate_splitOn _ text _ _ '\n'
  have hlines : ∀ line ∈ text.splitOn '\n', Unreached line := by
    intro line hline c hc
    refine h c ?_
    rw [← hjoined]
    exact mem_intercalate_newline hline hc
  obtain ⟨hinked, hrows⟩ := rowsFrom_spec hlimit 0 hlines
  refine ⟨?_, hrows⟩
  rw [rows, hinked, ← inked_intercalate_newline, hjoined]

/-! ## Segments -/

theorem flatten_segmentsFrom (stretches : List Stretch) (part : List Char) (before : Nat) (rest : List (Char × Nat)) :
    (segmentsFrom stretches part before rest).flatten = part.reverse ++ rest.map (·.1) := by
  induction rest generalizing part before with
  | nil => simp [segmentsFrom]
  | cons next rest ih =>
    unfold segmentsFrom
    split <;> simp [ih]

/-- Wherever it is divided, a row is made up of its segments. -/
theorem StyledRow.flatten_segments {r : StyledRow} (h : r.row.places.length = r.row.chars.length) :
    r.segments.flatten = r.row.chars := by
  have hchars : (r.row.chars.zip r.row.places).map (·.1) = r.row.chars := List.map_fst_zip h.ge
  unfold segments
  split
  · next hnil =>
    rw [← hchars, hnil]
    rfl
  · next c place rest hcons =>
    rw [flatten_segmentsFrom, ← hchars, hcons]
    rfl

/-- Segments that have room one by one fit, so nothing of them is cut off. -/
theorem flatten_fit {limit : Nat} {segments : List (List Char)} {measure : List Char → Nat} (hnil : measure [] = 0)
    (happend : ∀ cs ds, measure (cs ++ ds) = measure cs + measure ds)
    (h : ∀ segment ∈ segments, width segment ≤ measure segment) (hlimit : measure segments.flatten ≤ limit) :
    (fit limit segments).flatten = segments.flatten := by
  have hwidth : ∀ (segments : List (List Char)) (acc : Nat), (∀ segment ∈ segments, width segment ≤ measure segment) →
      segments.foldl (fun acc segment => acc + width segment) acc ≤ acc + measure segments.flatten := by
    intro segments
    induction segments with
    | nil => simp [hnil]
    | cons segment rest ih =>
      intro acc h
      obtain ⟨hsegment, hrest⟩ := List.forall_mem_cons.mp h
      have := ih (acc + width segment) hrest
      rw [List.foldl_cons, List.flatten_cons, happend]
      omega
  have := hwidth segments 0 h
  rw [fit, if_pos (by rw [segmentsWidth]; omega)]

theorem Styled.row_onRow (t : Styled) (whole : Bool) (row : Row) : (t.onRow whole row).row = row := by
  unfold Styled.onRow
  repeat' split
  all_goals rfl

theorem inked_flatMap_congr {α : Type} {f g : α → List Char} {xs : List α}
    (h : ∀ x ∈ xs, inked (f x) = inked (g x)) : inked (xs.flatMap f) = inked (xs.flatMap g) := by
  induction xs with
  | nil => rfl
  | cons x xs ih =>
    obtain ⟨hx, hxs⟩ := List.forall_mem_cons.mp h
    simp [hx, ih hxs]

theorem inked_shownRow {limit : Nat} (hlimit : 2 ≤ limit) {row : Row} (h : row.IsBroken limit) (t : Styled)
    (whole : Bool) :
    inked (fit limit (t.onRow whole (row.crop .fold limit)).segments).flatten = inked row.chars := by
  obtain ⟨hinked, hcolumns, hlength⟩ := crop_spec hlimit h.unreached h.fits
  have hrow := t.row_onRow whole (row.crop .fold limit)
  have hplaces : (row.crop .fold limit).places.length = (row.crop .fold limit).chars.length := by
    have := h.length_eq
    simp only [Row.crop, List.length_take]
    omega
  have hflatten := StyledRow.flatten_segments (hrow.symm ▸ hplaces)
  rw [hrow] at hflatten
  have hsegments : ∀ segment ∈ (t.onRow whole (row.crop .fold limit)).segments, width segment ≤ columns segment := by
    intro segment hsegment
    refine (width_of_unreached fun c hc => ?_).le
    have hmem := List.mem_flatten_of_mem hsegment hc
    rw [hflatten] at hmem
    exact unreached_crop h.unreached c hmem
  rw [flatten_fit columns_nil columns_append hsegments (hflatten ▸ hcolumns), hflatten]
  exact hinked

/-- **The rows of a text hold all of it that is no blank**, if no character reaches over to its neighbours. -/
theorem inked_shownRows {limit : Nat} (hlimit : 2 ≤ limit) {t : Styled} (h : Unreached t.text) :
    inked ((t.rows .fold limit (·.crop .fold limit)).flatMap fun r => (fit limit r.segments).flatten)
      = inked t.text := by
  obtain ⟨hinked, hrows⟩ := rows_spec hlimit h
  rw [Styled.rows, List.flatMap_map, ← hinked]
  exact inked_flatMap_congr fun row hrow => inked_shownRow hlimit (hrows row hrow) t _

/-! ## No ink is added

Whatever the characters are, and however narrow the console is. -/

theorem chopFrom_sublist (limit : Nat) (current : List Cluster) (taken : Nat) (ks : List Cluster) :
    (chopFrom limit current taken ks).flatten.Sublist ((current.reverse ++ ks).flatMap Cluster.chars) := by
  fun_induction chopFrom limit current taken ks with
  | case1 current => exact List.nil_sublist _
  | case2 current taken _ => simp
  | case3 current taken k rest _ ih =>
    rw [List.flatten_cons, List.flatMap_append]
    exact (List.Sublist.refl _).append ih
  | case4 current taken k rest _ ih => simpa using ih

theorem chop_sublist (limit : Nat) (word : List Char) : (chop limit word).flatten.Sublist word := by
  simpa [chop, clusters_chars] using chopFrom_sublist limit [] 0 (clusters word)

theorem place_sublist (limit : Nat) (f : Filling) (chunk : List Char) :
    (place .fold limit f chunk).lines.flatten.Sublist (f.lines.flatten ++ chunk) := by
  unfold place
  dsimp only
  split
  · simp [Filling.lines]
  · split
    · rw [flatten_newLines]
      exact (List.Sublist.refl _).append (chop_sublist limit chunk)
    · rw [flatten_newLine]

theorem places_sublist (limit : Nat) (f : Filling) (found : List (List Char)) :
    (found.foldl (place .fold limit) f).lines.flatten.Sublist (f.lines.flatten ++ found.flatten) := by
  induction found generalizing f with
  | nil => simp
  | cons chunk found ih =>
    rw [List.foldl_cons, List.flatten_cons, ← List.append_assoc]
    exact (ih _).trans ((place_sublist limit f chunk).append (List.Sublist.refl _))

theorem parts_sublist (limit : Nat) (line : List Char) : (parts limit line).flatten.Sublist line := by
  unfold parts
  split
  · simp
  · next hne =>
    have hflatten : (chunks line).flatten = line := (chunksFrom_spec [] false false line).1 hne
    simpa [Filling.lines, Filling.empty, hflatten] using places_sublist limit .empty (chunks line)

theorem inked_rowsFrom_sublist (limit position : Nat) (lines : List (List Char)) :
    (inked ((rowsFrom .fold limit position lines).flatMap Row.chars)).Sublist (inked lines.flatten) := by
  induction lines generalizing position with
  | nil => exact List.Sublist.refl _
  | cons line rest ih =>
    have hline : (inked (parts limit (widened (tabPieces 0 [] line))).flatten).Sublist (inked line) := by
      rw [show inked line = inked (widened (tabPieces 0 [] line)) from (inked_widened_tabPieces 0 [] line).symm]
      exact (parts_sublist limit _).filter _
    rw [rowsFrom, List.flatMap_append, inked_append, List.flatten_cons, inked_append, lineRows_eq, inked_rowsOf]
    exact hline.append (ih _)

theorem inked_rows_sublist (limit : Nat) (text : List Char) :
    (inked ((rows .fold limit text).flatMap Row.chars)).Sublist (inked text) := by
  have hjoined := @List.intercalate_splitOn _ text _ _ '\n'
  have hrows := inked_rowsFrom_sublist limit 0 (text.splitOn '\n')
  rwa [← inked_intercalate_newline, hjoined] at hrows

theorem inked_cut_sublist (n : Nat) (ks : List Cluster) :
    (inked (cut n ks)).Sublist (inked (ks.flatMap Cluster.chars)) := by
  fun_induction cut n ks with
  | case1 => exact List.nil_sublist _
  | case2 => exact List.nil_sublist _
  | case3 n k rest _ ih =>
    rw [inked_append, List.flatMap_cons, inked_append]
    exact (List.Sublist.refl _).append ih
  | case4 n k rest _ => exact List.nil_sublist _

theorem inked_crop_sublist (limit : Nat) (line : List Char) : (inked (crop .fold limit line)).Sublist (inked line) := by
  rw [crop]
  split
  · exact List.Sublist.refl _
  · simpa only [clusters_chars] using inked_cut_sublist limit (clusters line)

theorem StyledRow.segments_sublist (r : StyledRow) : r.segments.flatten.Sublist r.row.chars := by
  have hzip : ((r.row.chars.zip r.row.places).map (·.1)).Sublist r.row.chars := by
    rw [List.zip_eq_zip_take_min, List.map_fst_zip (by simp)]
    exact List.take_sublist _ _
  unfold segments
  split
  · exact List.nil_sublist _
  · next c place rest hcons =>
    rw [flatten_segmentsFrom]
    rw [hcons] at hzip
    simpa using hzip

theorem inked_firstColumns_sublist (limit : Nat) (segments : List (List Char)) :
    (inked (firstColumns limit segments).flatten).Sublist (inked segments.flatten) := by
  induction segments generalizing limit with
  | nil => exact List.Sublist.refl _
  | cons segment rest ih =>
    rw [firstColumns, List.flatten_cons, inked_append]
    split
    · rw [List.flatten_cons, inked_append]
      exact (List.Sublist.refl _).append (ih _)
    · split
      · simp
      · have hcut := inked_cut_sublist limit (clusters segment)
        rw [clusters_chars] at hcut
        simpa using hcut.trans (List.sublist_append_left _ (inked rest.flatten))

theorem inked_fit_sublist (limit : Nat) (segments : List (List Char)) :
    (inked (fit limit segments).flatten).Sublist (inked segments.flatten) := by
  rw [fit]
  split
  · exact List.Sublist.refl _
  · exact inked_firstColumns_sublist limit segments

theorem inked_shownRow_sublist (limit : Nat) (t : Styled) (whole : Bool) (row : Row) :
    (inked (fit limit (t.onRow whole (row.crop .fold limit)).segments).flatten).Sublist (inked row.chars) := by
  have hsegments := (t.onRow whole (row.crop .fold limit)).segments_sublist.filter (!isSpace ·)
  rw [t.row_onRow] at hsegments
  exact ((inked_fit_sublist limit _).trans hsegments).trans (inked_crop_sublist limit row.chars)

/-- **No ink is on the rows that is not in the text.** -/
theorem inked_shownRows_sublist (limit : Nat) (t : Styled) :
    (inked ((t.rows .fold limit (·.crop .fold limit)).flatMap fun r => (fit limit r.segments).flatten)).Sublist
      (inked t.text) := by
  have hrows : ∀ (whole : Bool) (rows : List Row),
      (inked (rows.flatMap fun row => (fit limit (t.onRow whole (row.crop .fold limit)).segments).flatten)).Sublist
        (inked (rows.flatMap Row.chars)) := by
    intro whole rows
    induction rows with
    | nil => exact List.Sublist.refl _
    | cons row rows ih =>
      rw [List.flatMap_cons, List.flatMap_cons, inked_append, inked_append]
      exact (inked_shownRow_sublist limit t whole row).append ih
  rw [Styled.rows, List.flatMap_map]
  exact (hrows _ _).trans (inked_rows_sublist limit t.text)

/-! ## Styles on rows -/

theorem forM_eq_ok {α ε : Type} {f : α → Except ε Unit} {xs : List α} (h : ∀ x ∈ xs, f x = .ok ()) :
    xs.forM f = .ok () := by
  induction xs with
  | nil => rfl
  | cons x xs ih =>
    obtain ⟨hx, hxs⟩ := List.forall_mem_cons.mp h
    show (f x >>= fun _ => xs.forM f) = .ok ()
    rw [hx]
    exact ih hxs

/-- A row has no styles but those of the text. -/
theorem Styled.style_of_mem_onRow {t : Styled} {whole : Bool} {row : Row} {s : Stretch}
    (h : s ∈ (t.onRow whole row).stretches) : ∃ original ∈ t.stretches, s.style = original.style := by
  unfold Styled.onRow at h
  split at h
  · split at h
    · exact ⟨s, h, rfl⟩
    · obtain ⟨original, hmem, rfl⟩ := List.mem_map.mp h
      exact ⟨original, List.mem_of_mem_filter hmem, rfl⟩
  · obtain ⟨original, hmem, rfl⟩ := List.mem_map.mp (List.mem_of_mem_filter h)
    exact ⟨original, hmem, rfl⟩

/-- If the styles of a text can be read, they can be read on all rows of it. -/
theorem Styled.check_rows {t : Styled} (h : ∀ s ∈ t.stretches, s.check = .ok ()) (overflow : Overflow) (limit : Nat)
    (shorten : Row → Row) : (t.rows overflow limit shorten).forM StyledRow.check = .ok () := by
  refine forM_eq_ok fun r hr => forM_eq_ok fun s hs => ?_
  obtain ⟨row, -, rfl⟩ := List.mem_map.mp hr
  obtain ⟨original, hmem, hstyle⟩ := Styled.style_of_mem_onRow hs
  have hcheck := h original hmem
  rwa [Stretch.check, ← hstyle] at hcheck

/-! ## Lines with room enough -/

/-- The room that a text takes at most, every character with a column at least. -/
def room (cs : List Char) : Nat := (cs.map fun c => max 1 (charWidth c)).sum

theorem room_append (cs ds : List Char) : room (cs ++ ds) = room cs + room ds := by
  simp [room]

theorem length_le_room (cs : List Char) : cs.length ≤ room cs := by
  induction cs with
  | nil => simp
  | cons c cs ih =>
    simp only [room, List.map_cons, List.sum_cons, List.length_cons] at *
    omega

theorem widthFrom_le_room (last : Option Char) (cs : List Char) : widthFrom last cs ≤ room cs := by
  have hcons : ∀ c cs, room (c :: cs) = max 1 (charWidth c) + room cs := by simp [room]
  fun_induction widthFrom last cs with
  | case1 => simp
  | case2 => simp
  | case3 last d rest ih =>
    rw [hcons, hcons]
    omega
  | case4 last rest _ ih =>
    have hone : widening last ≤ 1 := by
      unfold widening
      repeat' split
      all_goals decide
    rw [hcons]
    omega
  | case5 last c rest _ _ _ ih =>
    rw [hcons]
    omega
  | case6 last c rest _ _ _ ih =>
    rw [hcons]
    omega

/-- Lines with any ink need some room. -/
theorem pos_of_room {limit : Nat} {text : List Char} (hink : inked text ≠ [])
    (h : ∀ line ∈ text.splitOn '\n', room line ≤ limit) : 0 < limit := by
  refine Nat.pos_of_ne_zero fun hzero => hink ?_
  have hempty : (text.splitOn '\n').flatten = [] := by
    refine List.flatten_eq_nil_iff.mpr fun line hline => List.length_eq_zero_iff.mp ?_
    have := h line hline
    have := length_le_room line
    omega
  have hjoined := inked_intercalate_newline (text.splitOn '\n')
  rwa [hempty, List.intercalate_splitOn] at hjoined

theorem width_le_room (cs : List Char) : width cs ≤ room cs := widthFrom_le_room none cs

/-- With room enough, all chunks go on the line that is being filled. -/
theorem place_of_room {limit : Nat} {found : List (List Char)} {current : List Char} {taken : Nat}
    (h : taken + room found.flatten ≤ limit) :
    ∃ taken', found.foldl (place .fold limit) ⟨[], current, taken⟩ = ⟨[], current ++ found.flatten, taken'⟩ := by
  induction found generalizing current taken with
  | nil => exact ⟨taken, by simp⟩
  | cons chunk rest ih =>
    rw [List.flatten_cons, room_append] at h
    have hchunk := width_le_room chunk
    have hword : width (trimEnd isSpace chunk) ≤ room chunk := by
      obtain ⟨blanks, hsplit, -⟩ := exists_trimEnd_append chunk
      have hroom := congrArg room hsplit
      rw [room_append] at hroom
      have := width_le_room (trimEnd isSpace chunk)
      omega
    obtain ⟨taken', hfold⟩ := @ih (current ++ chunk) (taken + width chunk) (by omega)
    refine ⟨taken', ?_⟩
    rw [List.foldl_cons, place, if_pos (by simp only; omega), hfold]
    simp

theorem parts_of_room {limit : Nat} {line : List Char} (h : room line ≤ limit) : parts limit line = [line] := by
  unfold parts
  split
  · rfl
  · next hne =>
    have hflatten : (chunks line).flatten = line := (chunksFrom_spec [] false false line).1 hne
    obtain ⟨taken, hfold⟩ := @place_of_room limit (chunks line) [] 0 (by rw [hflatten]; omega)
    rw [Filling.empty, hfold, hflatten]
    rfl

theorem lineRows_of_room {limit position : Nat} {line : List Char} (h : room line ≤ limit) (htab : '\t' ∉ line) :
    lineRows .fold limit position line = [⟨line, (List.range line.length).map (position + ·)⟩] := by
  have hlength := length_le_room line
  have hdrop : dropExcess limit line = line := by
    rw [dropExcess, Nat.sub_eq_zero_of_le (Nat.le_trans hlength h)]
    simp
  have htabs : tabPieces 0 [] line = [(line, 0)] := tabPieces_of_no_tab htab
  have hwidened : widened [(line, 0)] = line := by simp [widened]
  rw [lineRows_eq, htabs, hwidened, parts_of_room h]
  simp only [rowsOf, hdrop, sources, List.append_nil, List.replicate_zero]
  rw [List.take_of_length_le (by simp)]

/-- A line with room enough is one row, and is shown as it is. -/
theorem shownRow_of_room {limit position : Nat} {line : List Char} (h : room line ≤ limit) (t : Styled) (whole : Bool) :
    (fit limit (t.onRow whole
      (Row.crop .fold limit ⟨line, (List.range line.length).map (position + ·)⟩)).segments).flatten = line := by
  have hcrop : Row.crop .fold limit ⟨line, (List.range line.length).map (position + ·)⟩
      = ⟨line, (List.range line.length).map (position + ·)⟩ := by
    have hwidth := width_le_room line
    simp only [Row.crop, crop, if_pos (Nat.le_trans hwidth h)]
    rw [List.take_of_length_le (by simp)]
  have hrow := t.row_onRow whole ⟨line, (List.range line.length).map (position + ·)⟩
  have hflatten := @StyledRow.flatten_segments
    (t.onRow whole ⟨line, (List.range line.length).map (position + ·)⟩) (by simp [hrow])
  rw [hrow] at hflatten
  rw [hcrop, flatten_fit rfl room_append (fun segment _ => width_le_room segment) (hflatten ▸ h), hflatten]

theorem rowsFrom_of_room {limit position : Nat} {lines : List (List Char)} (h : ∀ line ∈ lines, room line ≤ limit)
    (htab : ∀ line ∈ lines, '\t' ∉ line) (t : Styled) (whole : Bool) :
    (rowsFrom .fold limit position lines).map
      (fun row => (fit limit (t.onRow whole (row.crop .fold limit)).segments).flatten) = lines := by
  induction lines generalizing position with
  | nil => rfl
  | cons line rest ih =>
    obtain ⟨hline, hrest⟩ := List.forall_mem_cons.mp h
    obtain ⟨hlineTab, hrestTab⟩ := List.forall_mem_cons.mp htab
    rw [rowsFrom, lineRows_of_room hline hlineTab, List.map_append, ih hrest hrestTab, List.map_singleton,
      shownRow_of_room hline, List.singleton_append]

/-- **Lines with room enough are shown as they are.** -/
theorem shownRows_of_room {limit : Nat} {t : Styled} (h : ∀ line ∈ t.text.splitOn '\n', room line ≤ limit)
    (htab : '\t' ∉ t.text) :
    ['\n'].intercalate ((t.rows .fold limit (·.crop .fold limit)).map fun r => (fit limit r.segments).flatten)
      = t.text := by
  have hjoined := @List.intercalate_splitOn _ t.text _ _ '\n'
  have hlines : ∀ line ∈ t.text.splitOn '\n', '\t' ∉ line := by
    intro line hline hmem
    refine htab ?_
    rw [← hjoined]
    exact mem_intercalate_newline hline hmem
  rw [Styled.rows, List.map_map, rows]
  exact (congrArg (['\n'].intercalate ·) (rowsFrom_of_room h hlines t _)).trans hjoined

end CodeMetrics.Text
