import CodeMetrics.Proofs.Json.Numerals
import CodeMetrics.Proofs.Loading.Reading

/-!
# What is written is read back

The text of a value is read as that value, with its keys in order. A string is read by its code units, of which a character
beyond the first plane has two; a number is read as in `Proofs.Json.Numerals`; lists and objects are read item by item, each
behind the blanks of its line. The fuel of the reader is twice the length of the text: a character leads at most two steps
further.

* `string_stringText` — strings
* `read_write` — whole texts
-/

namespace CodeMetrics.Json

/-! ## Strings -/

/-- The code units of a character. -/
def codeUnits (c : Char) : List Nat :=
  if c.toNat < 0x10000 then [c.toNat]
  else [0xd800 + (c.toNat - 0x10000) / 0x400, 0xdc00 + (c.toNat - 0x10000) % 0x400]

/-- No character is a surrogate. -/
theorem toNat_cases (c : Char) : c.toNat < 0xd800 ∨ (0xdfff < c.toNat ∧ c.toNat < 0x110000) := c.valid

theorem hexValue?_hexDigit {d : Nat} (h : d < 16) : hexValue? (Text.hexDigit d) = some d := by
  have hall : ∀ e < 16, hexValue? (Text.hexDigit e) = some e := by decide
  exact hall d h

theorem hex4?_hex {n : Nat} (h : n < 0x10000) : hex4? (Text.hexDigit (n / 16 / 16 / 16 % 16))
    (Text.hexDigit (n / 16 / 16 % 16)) (Text.hexDigit (n / 16 % 16)) (Text.hexDigit (n % 16)) = some n := by
  have hlt : ∀ k, k % 16 < 16 := fun k => Nat.mod_lt k (by decide)
  unfold hex4?
  rw [hexValue?_hexDigit (hlt _), hexValue?_hexDigit (hlt _), hexValue?_hexDigit (hlt _), hexValue?_hexDigit (hlt _)]
  exact congrArg some (by omega)

section Strings

variable {opening tail : List Char}

/-- A code unit is read from its four digits, unless the text ends behind them. -/
theorem stringUnits_unitEscape {n : Nat} (h : n < 0x10000) (htail : tail ≠ []) :
    stringUnits opening (unitEscape n ++ tail) = (stringUnits opening tail).map (prepend n) := by
  have hmore : tail.isEmpty = false := List.isEmpty_eq_false_iff.mpr htail
  have htext : unitEscape n ++ tail = '\\' :: 'u' :: Text.hexDigit (n / 16 / 16 / 16 % 16)
      :: Text.hexDigit (n / 16 / 16 % 16) :: Text.hexDigit (n / 16 % 16) :: Text.hexDigit (n % 16) :: tail := rfl
  rw [htext]
  conv => lhs; unfold stringUnits
  rw [if_neg (by decide), if_pos rfl]
  simp [hex4?_hex h, hmore]

theorem stringUnits_unicodeEscape (c : Char) (htail : tail ≠ []) :
    stringUnits opening (unicodeEscape c ++ tail)
      = (stringUnits opening tail).map fun (units, rest) => (codeUnits c ++ units, rest) := by
  unfold unicodeEscape codeUnits
  dsimp only
  split
  · next hlt =>
    rw [stringUnits_unitEscape hlt htail]
    rfl
  · next hge =>
    have hbound : c.toNat < 0x110000 := by have hcases := toNat_cases c; omega
    rw [List.append_assoc, stringUnits_unitEscape (by omega) (List.append_ne_nil_of_right_ne_nil _ htail),
      stringUnits_unitEscape (by omega) htail]
    cases stringUnits opening tail <;> rfl

/-- A short escape stands for its character. -/
theorem stringUnits_shortEscape {e x : Char} (hu : e ≠ 'u') (h : shortEscape? e = some x) :
    stringUnits opening ('\\' :: e :: tail) = (stringUnits opening tail).map (prepend x.toNat) := by
  conv => lhs; unfold stringUnits
  rw [if_neg (by decide), if_pos rfl]
  split
  · next heq => cases heq
  · next heq => exact absurd (List.cons.inj heq).1 hu
  · next heq => exact absurd (List.cons.inj heq).1 hu
  · next heq =>
    obtain ⟨rfl, rfl⟩ := List.cons.inj heq
    rw [h]

/-- A written character is read as its code units. -/
theorem stringUnits_stringChar (c : Char) (htail : tail ≠ []) :
    stringUnits opening (stringChar c ++ tail)
      = (stringUnits opening tail).map fun (units, rest) => (codeUnits c ++ units, rest) := by
  have hshort : ∀ {e : Char}, e ≠ 'u' → shortEscape? e = some c → c.toNat < 0x10000 →
      stringUnits opening (['\\', e] ++ tail)
        = (stringUnits opening tail).map fun (units, rest) => (codeUnits c ++ units, rest) := by
    intro e hu he hlt
    rw [codeUnits, if_pos hlt]
    exact stringUnits_shortEscape hu he
  unfold stringChar
  split_ifs with hquote hslash hfeed hreturn htab hback hform hplain
  · subst hquote
    exact hshort (by decide) rfl (by decide)
  · subst hslash
    exact hshort (by decide) rfl (by decide)
  · subst hfeed
    exact hshort (by decide) rfl (by decide)
  · subst hreturn
    exact hshort (by decide) rfl (by decide)
  · subst htab
    exact hshort (by decide) rfl (by decide)
  · subst hback
    exact hshort (by decide) rfl (by decide)
  · subst hform
    exact hshort (by decide) rfl (by decide)
  · rw [List.singleton_append, codeUnits, if_pos (by omega)]
    conv => lhs; unfold stringUnits
    rw [if_neg hquote, if_neg hslash, if_neg (by omega)]
    rfl
  · exact stringUnits_unicodeEscape c htail

/-- Up to its closing quote a string is read as its code units. -/
theorem stringUnits_text (cs rest : List Char) :
    stringUnits opening (cs.flatMap stringChar ++ '"' :: rest) = .ok (cs.flatMap codeUnits, rest) := by
  induction cs with
  | nil =>
    show stringUnits opening ('"' :: rest) = _
    unfold stringUnits
    rfl
  | cons c cs ih =>
    rw [List.flatMap_cons, List.append_assoc,
      stringUnits_stringChar c (List.append_ne_nil_of_right_ne_nil _ (List.cons_ne_nil _ _)), ih]
    rfl

theorem joinUnits_cons {n : Nat} (hhigh : isHighSurrogate n = false) (hlow : isLowSurrogate n = false) (units : List Nat) :
    joinUnits (n :: units) = Char.ofNat n :: joinUnits units := by
  cases units with
  | nil => simp [joinUnits, hhigh, hlow]
  | cons m units => simp [joinUnits, hhigh, hlow]

theorem joinUnits_pair {high low : Nat} (hhigh : isHighSurrogate high = true) (hlow : isLowSurrogate low = true)
    (units : List Nat) : joinUnits (high :: low :: units) = joinSurrogates high low :: joinUnits units := by
  rw [joinUnits, if_pos hhigh, if_pos hlow]

/-- Code units are joined to the characters that they come from. -/
theorem joinUnits_codeUnits (cs : List Char) : joinUnits (cs.flatMap codeUnits) = cs := by
  induction cs with
  | nil => rfl
  | cons c cs ih =>
    have hcases := toNat_cases c
    rw [List.flatMap_cons, codeUnits]
    split
    · next hlt =>
      have hhigh : isHighSurrogate c.toNat = false := by
        simp only [isHighSurrogate, Bool.and_eq_false_iff, decide_eq_false_iff_not]
        omega
      have hlow : isLowSurrogate c.toNat = false := by
        simp only [isLowSurrogate, Bool.and_eq_false_iff, decide_eq_false_iff_not]
        omega
      rw [List.singleton_append, joinUnits_cons hhigh hlow, Char.ofNat_toNat, ih]
    · next hge =>
      have hhigh : isHighSurrogate (0xd800 + (c.toNat - 0x10000) / 0x400) = true := by
        simp only [isHighSurrogate, Bool.and_eq_true, decide_eq_true_eq]
        omega
      have hlow : isLowSurrogate (0xdc00 + (c.toNat - 0x10000) % 0x400) = true := by
        simp only [isLowSurrogate, Bool.and_eq_true, decide_eq_true_eq]
        omega
      have hjoined : joinSurrogates (0xd800 + (c.toNat - 0x10000) / 0x400) (0xdc00 + (c.toNat - 0x10000) % 0x400) = c := by
        have hsum : 0x10000 + (0xd800 + (c.toNat - 0x10000) / 0x400 - 0xd800) * 0x400
            + (0xdc00 + (c.toNat - 0x10000) % 0x400 - 0xdc00) = c.toNat := by omega
        rw [joinSurrogates, hsum, Char.ofNat_toNat]
      exact (joinUnits_pair hhigh hlow _).trans (congrArg₂ List.cons hjoined ih)

/-- **A string is read back.** -/
theorem string_stringText (s : String) (rest : List Char) :
    string opening (s.toList.flatMap stringChar ++ '"' :: rest) = .ok (s, rest) := by
  rw [string, stringUnits_text]
  show Except.ok (String.ofList (joinUnits (s.toList.flatMap codeUnits)), rest) = _
  rw [joinUnits_codeUnits, String.ofList_toList]

end Strings

/-! ## Blanks -/

/-- A text starts with something that is no blank, no closing bracket and no mark of the byte order. -/
def Starts (cs : List Char) : Prop := ∃ c rest, cs = c :: rest ∧ isSpace c = false ∧ c ≠ ']' ∧ c ≠ '\ufeff'

theorem isSpace_cases {c : Char} (h : isSpace c = true) : c = ' ' ∨ c = '\t' ∨ c = '\n' ∨ c = '\r' := by
  simpa [isSpace, or_assoc] using h

/-- Whatever can be read starts a value. -/
theorem starts_of_value {fuel : Nat} {cs : List Char} {r : Value × List Char} (h : value fuel cs = .ok r) : Starts cs := by
  have hfails : ∀ c rest, c = ' ' ∨ c = '\t' ∨ c = '\n' ∨ c = '\r' ∨ c = ']' ∨ c = '\ufeff' → cs ≠ c :: rest := by
    rintro c rest hc rfl
    cases fuel with
    | zero =>
      unfold value at h
      cases h
    | succ fuel =>
      unfold value at h
      rcases hc with rfl | rfl | rfl | rfl | rfl | rfl <;> cases h
  cases cs with
  | nil =>
    cases fuel <;> unfold value at h <;> cases h
  | cons c rest =>
    refine ⟨c, rest, rfl, Bool.eq_false_iff.mpr fun hc => ?_, fun hc => ?_, fun hc => ?_⟩
    · rcases isSpace_cases hc with hc | hc | hc | hc
      · exact hfails c rest (.inl hc) rfl
      · exact hfails c rest (.inr (.inl hc)) rfl
      · exact hfails c rest (.inr (.inr (.inl hc))) rfl
      · exact hfails c rest (.inr (.inr (.inr (.inl hc)))) rfl
    · exact hfails c rest (.inr (.inr (.inr (.inr (.inl hc))))) rfl
    · exact hfails c rest (.inr (.inr (.inr (.inr (.inr hc))))) rfl

theorem skipSpace_of_not_space {c : Char} (hc : isSpace c = false) (rest : List Char) :
    skipSpace (c :: rest) = c :: rest :=
  List.dropWhile_cons_of_neg (ne_true_of_eq_false hc)

theorem Starts.skipSpace {cs : List Char} (h : Starts cs) : skipSpace cs = cs := by
  obtain ⟨c, rest, rfl, hc, -, -⟩ := h
  exact skipSpace_of_not_space hc rest

/-- The blanks before a line are passed over. -/
theorem skipSpace_lineBreak (level : Nat) (cs : List Char) : skipSpace (lineBreak level ++ cs) = skipSpace cs :=
  List.dropWhile_append_of_pos fun c hc => by
    rcases List.mem_cons.mp hc with rfl | hc
    · rfl
    · rw [List.eq_of_mem_replicate hc]
      rfl

theorem follows_lineBreak (level : Nat) (cs : List Char) : Follows (lineBreak level ++ cs) := fun c hc => by
  cases Option.some.inj hc
  exact .inr rfl

theorem follows_comma (cs : List Char) : Follows (',' :: cs) := fun c hc => by
  cases Option.some.inj hc
  exact .inl rfl

/-- Behind the last item or member there are only blanks before the closing bracket. -/
theorem skipSpace_closing (outer : Nat) {c : Char} (hc : isSpace c = false) (rest : List Char) :
    skipSpace (lineBreak outer ++ c :: rest) = c :: rest :=
  (skipSpace_lineBreak outer _).trans (skipSpace_of_not_space hc rest)

/-- An item or a member is followed by a comma, the last one by the line of the closing bracket. -/
theorem follows_item {α : Type} {others : List α} {text : List Char} (htext : others = [] → text = []) (outer : Nat)
    (rest : List Char) : Follows ((if others.isEmpty then [] else [',']) ++ text ++ (lineBreak outer ++ rest)) := by
  cases others with
  | nil =>
    rw [htext rfl]
    exact follows_lineBreak outer rest
  | cons _ _ => exact follows_comma _

/-! ## Values -/

/-- A value is read from its text, at every level. -/
def Reads (v : Value) : Prop := ∀ (level fuel : Nat) (rest : List Char), Follows rest →
  2 * (valueText level v).length < fuel → value fuel (valueText level v ++ rest) = .ok (v, rest)

section Reads

variable {level outer fuel : Nat}

/-- The value itself takes one step of the fuel. -/
theorem Reads.of_succ {v : Value} (h : ∀ (level fuel : Nat) (rest : List Char), Follows rest →
    2 * (valueText level v).length ≤ fuel → value (fuel + 1) (valueText level v ++ rest) = .ok (v, rest)) : Reads v := by
  intro level fuel rest hrest hfuel
  obtain ⟨fuel, rfl⟩ : ∃ k, fuel = k + 1 := ⟨fuel - 1, by omega⟩
  exact h level fuel rest hrest (Nat.le_of_lt_succ hfuel)

/-- A value at the head of a line, and what follows it. -/
theorem Reads.skipSpace {v : Value} (h : Reads v) (level : Nat) {more : List Char} (hmore : Follows more) :
    skipSpace (valueText level v ++ more) = valueText level v ++ more :=
  (starts_of_value (h level _ more hmore (Nat.lt_succ_self _))).skipSpace

/-- Items are read one after the other, up to the closing bracket. -/
theorem items_itemsText {vs : List Value} (h : ∀ v ∈ vs, Reads v) (hne : vs ≠ [])
    (hfuel : 2 * (itemsText level vs).length ≤ fuel) (rest : List Char) :
    items fuel (skipSpace (itemsText level vs ++ (lineBreak outer ++ ']' :: rest))) = .ok (vs, rest) := by
  induction vs generalizing fuel with
  | nil => exact absurd rfl hne
  | cons v vs ih =>
    obtain ⟨hv, hvs⟩ := List.forall_mem_cons.mp h
    obtain ⟨more, hmore⟩ : ∃ more, more = (if vs.isEmpty then [] else [',']) ++ itemsText level vs
        ++ (lineBreak outer ++ ']' :: rest) := ⟨_, rfl⟩
    have htext : itemsText level (v :: vs) ++ (lineBreak outer ++ ']' :: rest)
        = lineBreak level ++ (valueText level v ++ more) := by
      rw [hmore, itemsText]
      simp only [List.append_assoc]
    have hfollows : Follows more := hmore ▸ follows_item (fun h => by rw [h, itemsText]) outer _
    have hlength : (itemsText level (v :: vs)).length
        = (lineBreak level).length + (valueText level v).length + (if vs.isEmpty then [] else [',']).length
          + (itemsText level vs).length := by
      rw [itemsText]
      simp only [List.length_append]
    have hbreak : 0 < (lineBreak level).length := Nat.succ_pos _
    obtain ⟨fuel, rfl⟩ : ∃ k, fuel = k + 1 := ⟨fuel - 1, by omega⟩
    have hread := hv level fuel more hfollows (by omega)
    rw [htext, skipSpace_lineBreak, hv.skipSpace level hfollows, items, hread]
    cases vs with
    | nil =>
      have hclose : skipSpace more = ']' :: rest := hmore ▸ skipSpace_closing outer rfl rest
      simp only [Bind.bind, Except.bind, hclose]
      rfl
    | cons w ws =>
      have hcomma : skipSpace more = ',' :: (itemsText level (w :: ws) ++ (lineBreak outer ++ ']' :: rest)) := by
        rw [hmore]
        exact skipSpace_of_not_space rfl _
      have hothers : items fuel (skipSpace (itemsText level (w :: ws) ++ (lineBreak outer ++ ']' :: rest)))
          = .ok (w :: ws, rest) := ih hvs (List.cons_ne_nil w ws) (by omega)
      simp only [Bind.bind, Except.bind, hcomma, hothers]
      rfl

/-- Members are read one after the other, up to the closing brace, and each is new. -/
theorem members_fieldsText {fields : List (String × Value)} (h : ∀ m ∈ fields, Reads m.2) (hne : fields ≠ [])
    {before : List (String × Value)} (hkeys : (Fields.keys (before ++ fields)).Nodup)
    (hfuel : 2 * (fieldsText level fields).length ≤ fuel) (rest : List Char) :
    members fuel before (skipSpace (fieldsText level fields ++ (lineBreak outer ++ '\x7d' :: rest)))
      = .ok (before ++ fields, rest) := by
  induction fields generalizing fuel before with
  | nil => exact absurd rfl hne
  | cons m ms ih =>
    obtain ⟨k, v⟩ := m
    obtain ⟨hv, hms⟩ := List.forall_mem_cons.mp h
    have hv' : Reads v := hv
    obtain ⟨more, hmore⟩ : ∃ more, more = (if ms.isEmpty then [] else [',']) ++ fieldsText level ms
        ++ (lineBreak outer ++ '\x7d' :: rest) := ⟨_, rfl⟩
    have htext : fieldsText level ((k, v) :: ms) ++ (lineBreak outer ++ '\x7d' :: rest)
        = lineBreak level ++ '"' :: (k.toList.flatMap stringChar ++ '"' :: ':' :: ' ' :: (valueText level v ++ more)) := by
      rw [hmore, fieldsText, stringText]
      simp only [List.append_assoc, List.cons_append, List.nil_append]
    have hfollows : Follows more := hmore ▸ follows_item (fun h => by rw [h, fieldsText]) outer _
    have hlength : 2 * (valueText level v).length + 2 * (fieldsText level ms).length + 2 ≤ fuel := by
      refine le_trans ?_ hfuel
      rw [fieldsText]
      simp only [List.length_append, List.length_cons, lineBreak]
      omega
    obtain ⟨fuel, rfl⟩ : ∃ k, fuel = k + 1 := ⟨fuel - 1, by omega⟩
    have hread := hv' level fuel more hfollows (by omega)
    have hstring : ∀ opening, string opening (k.toList.flatMap stringChar ++ '"' :: ':' :: ' ' :: (valueText level v ++ more))
        = .ok (k, ':' :: ' ' :: (valueText level v ++ more)) := fun opening => string_stringText k _
    have hcolon : skipSpace (':' :: ' ' :: (valueText level v ++ more)) = ':' :: ' ' :: (valueText level v ++ more) :=
      skipSpace_of_not_space rfl _
    have hblank : skipSpace (' ' :: (valueText level v ++ more)) = valueText level v ++ more :=
      (List.dropWhile_cons_of_pos rfl).trans (hv'.skipSpace level hfollows)
    -- The key is not among those before, so that the member is written behind them.
    have hkeys' : (Fields.keys (before ++ [(k, v)] ++ ms)).Nodup := by rwa [List.append_assoc]
    have hnew : k ∉ Fields.keys before := by
      rw [Fields.keys, List.map_append, List.nodup_append] at hkeys
      exact fun hmem => hkeys.2.2 k hmem k List.mem_cons_self rfl
    rw [htext, skipSpace_lineBreak, skipSpace_of_not_space rfl, members]
    simp only [Bind.bind, Except.bind, hstring, hcolon, hblank, hread, Fields.insert_of_notMem hnew]
    cases ms with
    | nil =>
      have hclose : skipSpace more = '\x7d' :: rest := hmore ▸ skipSpace_closing outer rfl rest
      rw [hclose]
      rfl
    | cons w ws =>
      have hcomma : skipSpace more = ',' :: (fieldsText level (w :: ws) ++ (lineBreak outer ++ '\x7d' :: rest)) := by
        rw [hmore]
        exact skipSpace_of_not_space rfl _
      rw [hcomma]
      refine (ih hms (List.cons_ne_nil w ws) hkeys' (by omega)).trans ?_
      rw [List.append_assoc]
      rfl

end Reads

/-- A list whose items can be read is not empty. -/
theorem value_list {fuel : Nat} {cs rest : List Char} {vs : List Value}
    (h : items fuel (skipSpace cs) = .ok (vs, rest)) : value (fuel + 1) ('[' :: cs) = .ok (.list vs, rest) := by
  obtain ⟨c, others, hcs, -, hclose, -⟩ : Starts (skipSpace cs) := by
    cases fuel with
    | zero =>
      rw [items] at h
      cases h
    | succ fuel =>
      rw [items] at h
      obtain ⟨_, hfirst, -⟩ := Outcome.bind_eq_ok.mp h
      exact starts_of_value hfirst
  rw [value.eq_def]
  simp only [if_true, show '[' ≠ '"' by decide, if_false]
  split
  · next heq => exact absurd (List.cons.inj (hcs.symm.trans heq)).1 hclose
  · rw [h]
    rfl

/-- Nor is an object whose members can be read. -/
theorem value_object {fuel : Nat} {cs rest : List Char} {fields : List (String × Value)}
    (h : members fuel [] (skipSpace cs) = .ok (fields, rest)) :
    value (fuel + 1) ('\x7b' :: cs) = .ok (.object fields, rest) := by
  obtain ⟨others, hcs⟩ : ∃ others, skipSpace cs = '"' :: others := by
    cases fuel with
    | zero =>
      rw [members] at h
      cases h
    | succ fuel =>
      unfold members at h
      split at h
      · exact ⟨_, by assumption⟩
      · cases h
  rw [value.eq_def]
  simp only [if_true, show '\x7b' ≠ '"' by decide, show '\x7b' ≠ '[' by decide, if_false]
  split
  · next heq => cases hcs.symm.trans heq
  · rw [h]
    rfl

theorem reads_str (s : String) : Reads (.str s) := by
  refine .of_succ fun level fuel rest _ hfuel => ?_
  have htext : valueText level (.str s) ++ rest = '"' :: (s.toList.flatMap stringChar ++ '"' :: rest) := by
    simp [valueText, stringText]
  rw [htext, value.eq_def]
  simp only [if_true, string_stringText]
  rfl

theorem reads_list {vs : List Value} (h : ∀ v ∈ vs, Reads v) : Reads (.list vs) := by
  refine .of_succ fun level fuel rest _ hfuel => ?_
  cases vs with
  | nil =>
    rw [valueText, value.eq_def]
    rfl
  | cons v vs =>
    have htext : valueText level (.list (v :: vs)) ++ rest
        = '[' :: (itemsText (level + 1) (v :: vs) ++ (lineBreak level ++ ']' :: rest)) := by
      simp [valueText]
    have hlength : 2 * (itemsText (level + 1) (v :: vs)).length ≤ fuel := by
      simp only [valueText, List.length_append, List.length_cons] at hfuel
      omega
    rw [htext]
    exact value_list (items_itemsText h (List.cons_ne_nil v vs) hlength rest)

theorem reads_object {fields : List (String × Value)} (hkeys : (Fields.keys fields).Nodup)
    (h : ∀ m ∈ fields, Reads m.2) : Reads (.object fields) := by
  refine .of_succ fun level fuel rest _ hfuel => ?_
  cases fields with
  | nil =>
    rw [valueText, value.eq_def]
    rfl
  | cons m ms =>
    have htext : valueText level (.object (m :: ms)) ++ rest
        = '\x7b' :: (fieldsText (level + 1) (m :: ms) ++ (lineBreak level ++ '\x7d' :: rest)) := by
      simp [valueText]
    have hlength : 2 * (fieldsText (level + 1) (m :: ms)).length ≤ fuel := by
      simp only [valueText, List.length_append, List.length_cons] at hfuel
      omega
    rw [htext]
    exact value_object (members_fieldsText h (List.cons_ne_nil m ms) hkeys hlength rest)

/-- **A value is read back from its text**, whatever follows it. -/
theorem reads_of_isValue {v : Value} (h : IsValue v) : Reads v := by
  induction h with
  | null =>
    refine .of_succ fun level fuel rest _ hfuel => ?_
    rw [valueText, value.eq_def]
    rfl
  | bool b =>
    refine .of_succ fun level fuel rest _ hfuel => ?_
    cases b <;> rw [valueText, value.eq_def] <;> rfl
  | int hn =>
    refine .of_succ fun level fuel rest hrest hfuel => ?_
    rw [valueText]
    exact value_intText fuel hn hrest
  | float x =>
    refine .of_succ fun level fuel rest hrest hfuel => ?_
    rw [valueText]
    exact value_floatText fuel x hrest
  | str s => exact reads_str s
  | list _ ih => exact reads_list ih
  | object hkeys _ ih => exact reads_object hkeys ih

/-- **What is written is read back.** -/
theorem read_write {v : Value} (h : IsValue v) : read (write v).toList = .ok v := by
  have hvalue := reads_of_isValue h 0 (2 * (valueText 0 v).length + 2) [] nofun (by omega)
  rw [List.append_nil] at hvalue
  have hstarts := starts_of_value hvalue
  rw [write, String.toList_ofList]
  unfold read
  split
  · next heq =>
    obtain ⟨c, rest, hcs, -, -, hmark⟩ := hstarts
    exact absurd (List.cons.inj (hcs.symm.trans heq)).1 hmark
  · rw [hstarts.skipSpace, hvalue]
    rfl

/-! ## Data -/

/-- Data of any size: an object has each of its keys once, and there is no moment. -/
inductive IsData : Value → Prop
  | null : IsData .null
  | bool (b : Bool) : IsData (.bool b)
  | int (n : Int) : IsData (.int n)
  | float (x : Float) : IsData (.float x)
  | str (s : String) : IsData (.str s)
  | list {items : List Value} (h : ∀ v ∈ items, IsData v) : IsData (.list items)
  | object {fields : List (String × Value)} (hkeys : (Fields.keys fields).Nodup) (h : ∀ m ∈ fields, IsData m.2) :
      IsData (.object fields)

/-- Only whole numbers of too many digits keep data from being a value of a JSON text. -/
theorem IsData.isValue {v : Value} (h : IsData v) (hwritable : v.isWritable = true) : IsValue v := by
  induction h with
  | null => exact .null
  | bool b => exact .bool b
  | int n =>
    rw [Value.isWritable] at hwritable
    exact .int (of_decide_eq_true hwritable)
  | float x => exact .float x
  | str s => exact .str s
  | list _ ih =>
    rw [Value.isWritable, areWritable_iff] at hwritable
    exact .list fun v hv => ih v hv (hwritable v hv)
  | object hkeys _ ih =>
    rw [Value.isWritable, haveWritable_iff] at hwritable
    exact .object hkeys fun m hm => ih m hm (hwritable m hm)

/-- What is read is data. -/
theorem IsValue.isData {v : Value} (h : IsValue v) : IsData v := by
  induction h with
  | null => exact .null
  | bool b => exact .bool b
  | int _ => exact .int _
  | float x => exact .float x
  | str s => exact .str s
  | list _ ih => exact .list ih
  | object hkeys _ ih => exact .object hkeys ih

/-- The values of JSON texts are the data that can be written out. -/
theorem isValue_iff {v : Value} : IsValue v ↔ IsData v ∧ v.isWritable = true :=
  ⟨fun h => ⟨h.isData, h.isWritable⟩, fun h => h.1.isValue h.2⟩

end CodeMetrics.Json
