import CodeMetrics.Proofs.Text.Emoji
import CodeMetrics.Proofs.Text.Wrapping
import CodeMetrics.Text.Markup

/-!
# What markup shows

A text is read as a row of pieces without losing anything (`Reads`). What is shown of the pieces does not depend on the
styles of the tags: emoji aside, `visible` says what it is, whenever the tags go together at all.

* `interpretItems_of_isText` — protected tags are shown, and no style is left of them
* `shown_interpretItems` — what is shown of any items
* `count_shown` — emoji in the texts are told by the colons that are missing
* `interpret_escape` — an escaped text can always be shown, and has no styles
* `isLiteral_of_shownInk` — a text of which all is shown has neither tags nor protected brackets
-/

namespace CodeMetrics.Text.Markup

/-! ## Tags -/

def isBracket (c : Char) : Bool := c == '[' || c == ']'

theorem takeWhile_drop_find (cs : List Char) :
    (cs.drop (cs.takeWhile fun d => d != ']' && d != '[').length).head? = cs.find? isBracket := by
  induction cs with
  | nil => rfl
  | cons c cs ih =>
    by_cases h : isBracket c
    · have hc : (c != ']' && c != '[') = false := by
        simp only [isBracket, Bool.or_eq_true, beq_iff_eq] at h
        rcases h with rfl | rfl <;> rfl
      simp [hc, h]
    · have hc : (c != ']' && c != '[') = true := by
        simp only [isBracket, Bool.or_eq_true, beq_iff_eq, not_or] at h
        simp [h]
      simpa [hc, h] using ih

/-- Whether a tag stands behind a bracket that opens: it starts as a tag does, and is closed before another bracket. -/
theorem tag?_isSome (c : Char) (cs : List Char) :
    (tag? ('[' :: c :: cs)).isSome = (isTagStart c && decide (cs.find? isBracket = some ']')) := by
  rw [← takeWhile_drop_find, tag?]
  by_cases hc : isTagStart c
  · simp only [hc, if_true, Bool.true_and]
    split
    · next after heq => simp [heq]
    · next hne =>
      cases hrest : cs.drop (cs.takeWhile fun d => d != ']' && d != '[').length with
      | nil => simp
      | cons d after =>
        have hd : d ≠ ']' := fun h => hne after (h ▸ hrest)
        simp [hd]
  · simp [hc]

theorem tag?_eq_none_of_ne {c : Char} (h : c ≠ '[') (cs : List Char) : tag? (c :: cs) = none := by
  unfold tag?
  split
  · next heq => exact absurd (List.cons.inj heq).1 h
  · rfl

/-- What can stand between the brackets of a tag. -/
def IsTag : List Char → Prop
  | [] => False
  | c :: inner => isTagStart c = true ∧ ∀ d ∈ inner, isBracket d = false

/-- A tag is what stands between its brackets. -/
theorem tag?_eq_some {cs body after : List Char} (h : tag? cs = some (body, after)) :
    IsTag body ∧ cs = bracketed body ++ after := by
  unfold tag? at h
  split at h
  · next c rest =>
    split at h
    · next hc =>
      dsimp only at h
      split at h
      · next after' heq =>
        obtain ⟨rfl, rfl⟩ : c :: _ = body ∧ after' = after := by simpa using h
        refine ⟨⟨hc, fun d hd => ?_⟩, ?_⟩
        · have hin := List.mem_takeWhile_imp hd
          simp only [Bool.and_eq_true, bne_iff_ne] at hin
          simp [isBracket, hin]
        · have hsplit := List.take_append_drop (rest.takeWhile fun d => d != ']' && d != '[').length rest
          rw [heq] at hsplit
          rw [List.prefix_iff_eq_take.mp (List.takeWhile_prefix _)]
          simp only [bracketed, List.cons_append, List.append_assoc, List.nil_append]
          rw [hsplit]
      · cases h
    · cases h
  · cases h

theorem IsTag.tag?_eq {body : List Char} (h : IsTag body) (after : List Char) :
    tag? (bracketed body ++ after) = some (body, after) := by
  cases body with
  | nil => cases h
  | cons c inner =>
    obtain ⟨hc, hinner⟩ := h
    have hin : ∀ d ∈ inner, (d != ']' && d != '[') = true := by
      intro d hd
      have := hinner d hd
      simp only [isBracket, Bool.or_eq_false_iff, beq_eq_false_iff_ne] at this
      simp [this]
    have htake : (inner ++ ']' :: after).takeWhile (fun d => d != ']' && d != '[') = inner := by
      rw [List.takeWhile_append_of_pos hin]
      simp
    have hshape : bracketed (c :: inner) ++ after = '[' :: c :: (inner ++ ']' :: after) := by
      simp [bracketed]
    rw [hshape, tag?, if_pos hc]
    dsimp only
    rw [htake, List.drop_left]
    rfl

/-- No tag stands at the head of a text, behind the backslashes there. -/
def NoTag (cs : List Char) : Prop := tag? (cs.dropWhile (· == '\\')) = none

/-! ## Pieces -/

/-- A piece as it stands in the text. -/
def Piece.source : Piece → List Char
  | .char c => [c]
  | .tag backslashes body => List.replicate backslashes '\\' ++ bracketed body

/-- How a text is read as pieces. -/
inductive Reads : List Char → List Piece → Prop where
  | nil : Reads [] []
  | char {c : Char} {rest : List Char} {ps : List Piece} :
    NoTag (c :: rest) → Reads rest ps → Reads (c :: rest) (.char c :: ps)
  | tag {backslashes : Nat} {body after : List Char} {ps : List Piece} :
    IsTag body → Reads after ps →
      Reads (List.replicate backslashes '\\' ++ bracketed body ++ after) (.tag backslashes body :: ps)

theorem drop_length_takeWhile (p : Char → Bool) (cs : List Char) :
    cs.drop (cs.takeWhile p).length = cs.dropWhile p := by
  induction cs with
  | nil => rfl
  | cons c cs ih => by_cases h : p c <;> simp [h, ih]

theorem Reads.of_char {c : Char} {cs : List Char} {ps : List Piece} (h : Reads cs (.char c :: ps)) :
    ∃ rest, cs = c :: rest ∧ NoTag cs ∧ Reads rest ps := by
  cases h with
  | char hno hrest => exact ⟨_, rfl, hno, hrest⟩

theorem Reads.of_tag {backslashes : Nat} {body cs : List Char} {ps : List Piece}
    (h : Reads cs (.tag backslashes body :: ps)) :
    ∃ after, cs = List.replicate backslashes '\\' ++ bracketed body ++ after ∧ Reads after ps := by
  cases h with
  | tag _ hafter => exact ⟨_, rfl, hafter⟩

theorem reads_piecesFrom {fuel : Nat} {cs : List Char} (h : cs.length ≤ fuel) : Reads cs (piecesFrom fuel cs) := by
  induction fuel generalizing cs with
  | zero =>
    rw [List.length_eq_zero_iff.mp (Nat.le_zero.mp h)]
    exact .nil
  | succ fuel ih =>
    cases cs with
    | nil => exact .nil
    | cons c rest =>
      have hwhole := List.takeWhile_append_dropWhile (p := (· == '\\')) (l := c :: rest)
      unfold piecesFrom
      dsimp only
      rw [drop_length_takeWhile]
      cases htag : tag? ((c :: rest).dropWhile (· == '\\')) with
      | none => exact .char htag (ih (by simpa using h))
      | some found =>
        obtain ⟨body, after⟩ := found
        obtain ⟨hbody, hsplit⟩ := tag?_eq_some htag
        have hslashes : (c :: rest).takeWhile (· == '\\')
            = List.replicate ((c :: rest).takeWhile (· == '\\')).length '\\' := by
          refine List.eq_replicate_iff.mpr ⟨rfl, fun d hd => ?_⟩
          simpa using List.mem_takeWhile_imp hd
        rw [hsplit, hslashes, ← List.append_assoc] at hwhole
        have hlength : after.length ≤ fuel := by
          have := congrArg List.length hwhole
          simp only [bracketed, List.length_append, List.length_cons, List.length_nil] at this h
          omega
        have hread : Reads
            (List.replicate ((c :: rest).takeWhile (· == '\\')).length '\\' ++ bracketed body ++ after)
            (.tag ((c :: rest).takeWhile (· == '\\')).length body :: piecesFrom fuel after) :=
          .tag hbody (ih hlength)
        rwa [hwhole] at hread

theorem reads_pieces (cs : List Char) : Reads cs (pieces cs) := reads_piecesFrom (Nat.le_refl _)

theorem dropWhile_replicate_bracketed (n : Nat) (body after : List Char) :
    (List.replicate n '\\' ++ bracketed body ++ after).dropWhile (· == '\\') = bracketed body ++ after := by
  induction n with
  | zero => rfl
  | succ n ih => simpa [List.replicate_succ] using ih

/-- A text is read in one way only. -/
theorem Reads.unique {cs : List Char} {ps qs : List Piece} (hp : Reads cs ps) (hq : Reads cs qs) : ps = qs := by
  induction hp generalizing qs with
  | nil =>
    generalize hcs : ([] : List Char) = cs at hq
    cases hq with
    | nil => rfl
    | char => cases hcs
    | tag => simp [bracketed] at hcs
  | @char c rest ps hno _ ih =>
    generalize hcs : c :: rest = cs at hq
    cases hq with
    | nil => cases hcs
    | char _ hrest =>
      obtain ⟨rfl, rfl⟩ := List.cons.inj hcs
      rw [ih hrest]
    | tag htag _ =>
      rw [hcs, NoTag, dropWhile_replicate_bracketed, htag.tag?_eq] at hno
      cases hno
  | @tag backslashes body after ps htag _ ih =>
    generalize hcs : List.replicate backslashes '\\' ++ bracketed body ++ after = cs at hq
    cases hq with
    | nil => simp [bracketed] at hcs
    | char hno _ =>
      rw [← hcs, NoTag, dropWhile_replicate_bracketed, htag.tag?_eq] at hno
      cases hno
    | @tag backslashes' body' after' ps' htag' hafter' =>
      have hdrop := congrArg (List.dropWhile (· == '\\')) hcs
      rw [dropWhile_replicate_bracketed, dropWhile_replicate_bracketed] at hdrop
      have hfound := htag.tag?_eq after
      rw [hdrop, htag'.tag?_eq] at hfound
      obtain ⟨rfl, rfl⟩ : body' = body ∧ after' = after := by simpa using hfound
      have hlength := congrArg List.length hcs
      simp only [List.length_append, List.length_replicate, Nat.add_right_cancel_iff] at hlength
      rw [hlength, ih hafter']

theorem Reads.pieces_eq {cs : List Char} {ps : List Piece} (h : Reads cs ps) : pieces cs = ps :=
  (reads_pieces cs).unique h

theorem Reads.source_eq {cs : List Char} {ps : List Piece} (h : Reads cs ps) : ps.flatMap Piece.source = cs := by
  induction h with
  | nil => rfl
  | char _ _ ih => simp [Piece.source, ih]
  | tag _ _ ih => simp [Piece.source, ih]

/-- Reading a text as pieces loses nothing. -/
theorem source_pieces (cs : List Char) : (pieces cs).flatMap Piece.source = cs :=
  (reads_pieces cs).source_eq

theorem noTag_of_ne {c : Char} (hslash : c ≠ '\\') (hopen : c ≠ '[') (cs : List Char) : NoTag (c :: cs) := by
  rw [NoTag, List.dropWhile_cons_of_neg (by simpa using hslash)]
  exact tag?_eq_none_of_ne hopen cs

/-- Characters that neither open a tag nor protect one stand for themselves. -/
theorem Reads.append {cs rest : List Char} {ps : List Piece} (h : ∀ c ∈ cs, c ≠ '\\' ∧ c ≠ '[')
    (hrest : Reads rest ps) : Reads (cs ++ rest) (cs.map .char ++ ps) := by
  induction cs with
  | nil => exact hrest
  | cons c cs ih =>
    obtain ⟨hslash, hopen⟩ := h c List.mem_cons_self
    exact .char (noTag_of_ne hslash hopen _) (ih fun d hd => h d (List.mem_cons_of_mem c hd))

/-! ## What is shown -/

/-- What pieces show, if all of it can be shown and none of it is an emoji. -/
def visible : List Piece → List Char
  | [] => []
  | .char '\\' :: .char '[' :: rest => '[' :: visible rest
  | .char c :: rest => c :: visible rest
  | .tag backslashes body :: rest =>
    List.replicate (backslashes / 2) '\\' ++ (if backslashes % 2 = 1 then bracketed body else []) ++ visible rest

/-- A piece that gives no style: a character, or a tag that is protected. -/
def Piece.IsLiteral : Piece → Prop
  | .char _ => True
  | .tag backslashes _ => backslashes % 2 = 1

namespace Progress

theorem putAll_append (p : Progress) (cs ds : List Char) : p.putAll (cs ++ ds) = (p.putAll cs).putAll ds :=
  List.foldl_append

/-- Characters are shown unless a console would act on them; nothing else changes. -/
theorem putAll_eq (p : Progress) (cs : List Char) :
    p.putAll cs =
      { p with shown := (cs.filter (!isConsoleControl ·)).reverse ++ p.shown
               count := p.count + (cs.filter (!isConsoleControl ·)).length } := by
  induction cs generalizing p with
  | nil => rfl
  | cons c cs ih =>
    rw [show p.putAll (c :: cs) = (p.put c).putAll cs from rfl, ih]
    by_cases h : isConsoleControl c
    · simp [put, h]
    · simp only [put, h, Bool.false_eq_true, if_false, Bool.not_false, List.filter_cons_of_pos, List.reverse_cons,
        List.append_assoc, List.singleton_append, List.length_cons, Progress.mk.injEq, true_and, and_true]
      omega

end Progress

/-! ## Items -/

namespace Item

/-- The characters of a text between tags. -/
def chars : Item → List Char
  | text cs => cs
  | tag _ => []

/-- What is shown of an item. -/
def shown : Item → List Char
  | text cs => Emoji.replace cs
  | tag _ => []

def IsText : Item → Prop
  | text _ => True
  | tag _ => False

end Item

/-- The texts between the tags are what the pieces show. -/
theorem chars_itemsFrom (run : List Char) (ps : List Piece) :
    (itemsFrom run ps).flatMap Item.chars = run.reverse ++ visible ps := by
  fun_induction itemsFrom run ps with
  | case1 run => simp [Item.chars, visible]
  | case2 run rest ih => rw [ih, visible]; simp
  | case3 run c rest hne ih =>
    rw [ih, visible]
    · simp
    · exact hne
  | case4 run backslashes body rest ih =>
    rw [visible, List.flatMap_cons, List.flatMap_cons, List.flatMap_cons, ih]
    split <;> simp [Item.chars]

/-- Pieces that give no style leave no tags. -/
theorem isText_of_mem_itemsFrom {run : List Char} {ps : List Piece} (h : ∀ piece ∈ ps, piece.IsLiteral) :
    ∀ item ∈ itemsFrom run ps, item.IsText := by
  fun_induction itemsFrom run ps with
  | case1 run => simp [Item.IsText]
  | case2 run rest ih => exact ih fun piece hp => h piece (by simp [hp])
  | case3 run c rest hne ih => exact ih fun piece hp => h piece (by simp [hp])
  | case4 run backslashes body rest ih =>
    have hodd : backslashes % 2 = 1 := h (.tag backslashes body) List.mem_cons_self
    have hrest := ih fun piece hp => h piece (by simp [hp])
    simpa [hodd, Item.IsText] using hrest

/-- Characters in front of other pieces go on with the text, if none of them protects anything. -/
theorem itemsFrom_chars {cs : List Char} (h : ∀ c ∈ cs, c ≠ '\\') (run : List Char) (rest : List Piece) :
    itemsFrom run (cs.map .char ++ rest) = itemsFrom (cs.reverse ++ run) rest := by
  induction cs generalizing run with
  | nil => rfl
  | cons c cs ih =>
    obtain ⟨hc, hcs⟩ := List.forall_mem_cons.mp h
    rw [List.map_cons, List.cons_append, itemsFrom, ih hcs]
    · simp
    · intro after hafter hslash
      exact absurd hslash hc

/-- A text between two tags. -/
theorem itemsFrom_tagged {name closing text : List Char} (htext : ∀ c ∈ text, c ≠ '\\') (ps : List Piece) :
    itemsFrom [] (.tag 0 name :: (text.map .char ++ .tag 0 closing :: ps))
      = .text [] :: .text [] :: .tag name :: .text text :: .text [] :: .tag closing :: itemsFrom [] ps := by
  rw [itemsFrom, itemsFrom_chars htext, itemsFrom]
  simp

/-- Texts are shown, and leave everything else as it is. -/
theorem interpretItems_of_isText (p : Progress) {items : List Item} (h : ∀ item ∈ items, item.IsText) :
    interpretItems p items = .ok (p.putAll (items.flatMap Item.shown)) := by
  induction items generalizing p with
  | nil => rfl
  | cons item items ih =>
    obtain ⟨hitem, hitems⟩ := List.forall_mem_cons.mp h
    cases item with
    | text cs =>
      rw [interpretItems, ih _ hitems, List.flatMap_cons, Progress.putAll_append]
      rfl
    | tag body => cases hitem

/-- No colons are added, and if none are missing there is no code of an emoji. -/
theorem count_shown (items : List Item) :
    (items.flatMap Item.shown).count ':' ≤ (items.flatMap Item.chars).count ':' ∧
    ((items.flatMap Item.shown).count ':' = (items.flatMap Item.chars).count ':' →
      ∀ item ∈ items, Emoji.occurs item.chars = false) := by
  induction items with
  | nil => simp
  | cons item items ih =>
    have hitem : item.shown.count ':' ≤ item.chars.count ':' ∧
        (item.shown.count ':' = item.chars.count ':' → Emoji.occurs item.chars = false) := by
      cases item with
      | text cs => exact Emoji.count_replace cs
      | tag body => exact ⟨Nat.le_refl _, fun _ => rfl⟩
    rw [List.flatMap_cons, List.flatMap_cons, List.count_append, List.count_append]
    refine ⟨Nat.add_le_add hitem.1 ih.1, fun h => List.forall_mem_cons.mpr ⟨hitem.2 ?_, ih.2 ?_⟩⟩ <;> omega

/-- Texts without codes of emoji are shown as they are. -/
theorem shown_of_not_occurs {items : List Item} (h : ∀ item ∈ items, Emoji.occurs item.chars = false) :
    items.flatMap Item.shown = items.flatMap Item.chars := by
  rw [List.flatMap_def, List.flatMap_def]
  refine congrArg List.flatten (List.map_congr_left fun item hitem => ?_)
  cases item with
  | text cs => exact Emoji.replace_of_not_occurs (h _ hitem)
  | tag body => rfl

/-! ## Tags that open and close -/

theorem takeWhile_of_not_mem {body : List Char} (h : '=' ∉ body) : body.takeWhile (· != '=') = body := by
  rw [List.takeWhile_eq_self_iff]
  intro c hc
  simp only [bne_iff_ne]
  rintro rfl
  exact h hc

/-- A tag that opens waits for its end, under its normal name. -/
theorem Progress.applyTag_open (p : Progress) {body : List Char} {name : String} (hname : normalName body = .ok name)
    (hslash : body.head? ≠ some '/') (hequals : '=' ∉ body) :
    p.applyTag body = .ok { p with pending := ⟨name, [], p.count⟩ :: p.pending } := by
  rw [applyTag, takeWhile_of_not_mem hequals]
  dsimp only
  split
  · next closing =>
    exact absurd rfl hslash
  · rw [hname, List.drop_length]
    rfl

/-- A tag that closes ends the innermost one, if that has its name. -/
theorem Progress.applyTag_close {p : Progress} {closing : List Char} {tag : OpenTag} {pending : List OpenTag}
    (hname : normalName (trimBoth isSpace closing) = .ok tag.name) (hempty : trimBoth isSpace closing ≠ [])
    (hequals : '=' ∉ closing) (hpending : p.pending = tag :: pending) (haction : tag.isAction = false) :
    p.applyTag ('/' :: closing) = .ok { p with pending, ended := tag.stretch p.count :: p.ended } := by
  have hbody : '=' ∉ '/' :: closing := by simpa using hequals
  have hclosable : tag.isClosable = true := by simp [OpenTag.isClosable, haction]
  have hclose : p.closeTag (some tag.name) = .ok { p with pending, ended := tag.stretch p.count :: p.ended } := by
    rw [closeTag, hpending, close]
    simp [hclosable, haction, bind, Except.bind, pure, Except.pure]
  rw [applyTag, takeWhile_of_not_mem hbody]
  show (if (trimBoth isSpace closing).isEmpty = true then _ else _) = _
  rw [if_neg (by simpa using hempty), hname]
  exact hclose

/-- A name that opens and closes a tag, and is its own normal form. -/
structure IsStyleName (name : String) : Prop where
  normal : normalName name.toList = .ok name
  isTag : IsTag name.toList
  head : name.toList.head? ≠ some '/' ∧ name.toList.head? ≠ some '@'
  equals : '=' ∉ name.toList
  trimmed : trimBoth isSpace name.toList = name.toList

/-- A text between a tag and its end, and what follows. -/
theorem reads_tagged {name text rest : List Char} {ps : List Piece} (hname : IsTag name) (hclosing : IsTag ('/' :: name))
    (htext : ∀ c ∈ text, c ≠ '\\' ∧ c ≠ '[') (hrest : Reads rest ps) :
    Reads (bracketed name ++ (text ++ (bracketed ('/' :: name) ++ rest)))
      (.tag 0 name :: (text.map .char ++ .tag 0 ('/' :: name) :: ps)) := by
  have hend : Reads (bracketed ('/' :: name) ++ rest) (.tag 0 ('/' :: name) :: ps) := @Reads.tag 0 _ _ _ hclosing hrest
  exact @Reads.tag 0 _ _ _ hname (hend.append htext)

/-- It is shown in the style of the tag. -/
theorem IsStyleName.interpretItems_tagged {name : String} (h : IsStyleName name) {text : List Char}
    (htext : ∀ c ∈ text, c ≠ '\\' ∧ c ≠ '[') (ps : List Piece) :
    interpretItems .start (itemsFrom [] (.tag 0 name.toList :: (text.map .char ++ .tag 0 ('/' :: name.toList) :: ps)))
      = interpretItems
        { Progress.start.putAll (Emoji.replace text) with
          ended := [⟨0, (Progress.start.putAll (Emoji.replace text)).count, Text.words (name.toList ++ [' '])⟩] }
        (itemsFrom [] ps) := by
  have hne : name.toList ≠ [] := by
    intro hnil
    have := h.isTag
    rw [hnil] at this
    exact this
  have haction : OpenTag.isAction ⟨name, [], 0⟩ = false := by
    simpa [OpenTag.isAction] using h.head.2
  have hopen : Progress.start.applyTag name.toList = .ok ⟨[], 0, [⟨name, [], 0⟩], []⟩ :=
    Progress.applyTag_open .start h.normal h.head.1 h.equals
  have hclose := @Progress.applyTag_close (Progress.putAll ⟨[], 0, [⟨name, [], 0⟩], []⟩ (Emoji.replace text)) name.toList
    ⟨name, [], 0⟩ [] (by rw [h.trimmed]; exact h.normal) (by rw [h.trimmed]; exact hne) h.equals
    (by rw [Progress.putAll_eq]) haction
  rw [itemsFrom_tagged fun c hc => (htext c hc).1]
  show (Progress.start.applyTag name.toList >>= fun p =>
    Progress.applyTag (p.putAll (Emoji.replace text)) ('/' :: name.toList) >>= fun q =>
      interpretItems q (itemsFrom [] ps)) = _
  rw [hopen]
  show (Progress.applyTag (Progress.putAll ⟨[], 0, [⟨name, [], 0⟩], []⟩ (Emoji.replace text)) ('/' :: name.toList)
    >>= fun q => interpretItems q (itemsFrom [] ps)) = _
  rw [hclose, Progress.putAll_eq, Progress.putAll_eq]
  rfl

/-! ## What any tags show -/

theorem Progress.shown_closeTag {p q : Progress} {name : Option String} (h : p.closeTag name = .ok q) :
    q.shown = p.shown := by
  unfold closeTag at h
  cases hclose : close name p.pending with
  | error e => rw [hclose] at h; cases h
  | ok found => rw [hclose] at h; cases h; rfl

theorem Progress.shown_applyTag {p q : Progress} {body : List Char} (h : p.applyTag body = .ok q) :
    q.shown = p.shown := by
  unfold applyTag at h
  dsimp only at h
  split at h
  · split at h
    · exact shown_closeTag h
    · cases hname : normalName _ with
      | error e => rw [hname] at h; cases h
      | ok name => rw [hname] at h; exact shown_closeTag h
  · cases hname : normalName _ with
    | error e => rw [hname] at h; cases h
    | ok name => rw [hname] at h; cases h; rfl

/-- Whatever the tags mean, the texts between them are shown, without the characters that a console would act on. -/
theorem shown_interpretItems {p q : Progress} {items : List Item} (h : interpretItems p items = .ok q) :
    q.shown.reverse = p.shown.reverse ++ (items.flatMap Item.shown).filter (!isConsoleControl ·) := by
  induction items generalizing p with
  | nil => cases h; simp
  | cons item items ih =>
    cases item with
    | text cs =>
      rw [ih h, Progress.putAll_eq]
      simp [Item.shown]
    | tag body =>
      obtain ⟨r, happly, hrest⟩ : ∃ r, p.applyTag body = .ok r ∧ interpretItems r items = .ok q := by
        rw [interpretItems] at h
        cases happly : p.applyTag body with
        | error e => rw [happly] at h; cases h
        | ok r => rw [happly] at h; exact ⟨r, rfl, h⟩
      rw [ih hrest, Progress.shown_applyTag happly]
      rfl

/-- What is visible stands in the text, in its order. -/
theorem Reads.visible_sublist {cs : List Char} {ps : List Piece} (h : Reads cs ps) : (visible ps).Sublist cs := by
  fun_induction visible ps generalizing cs with
  | case1 => simp
  | case2 rest ih =>
    obtain ⟨_, rfl, -, h⟩ := h.of_char
    obtain ⟨cs, rfl, -, h⟩ := h.of_char
    exact ((ih h).cons_cons '[').cons '\\'
  | case3 c rest hne ih =>
    obtain ⟨cs, rfl, -, h⟩ := h.of_char
    exact (ih h).cons_cons c
  | case4 backslashes body rest ih =>
    obtain ⟨after, rfl, hafter⟩ := h.of_tag
    have hslashes : (List.replicate (backslashes / 2) '\\').Sublist (List.replicate backslashes '\\') :=
      List.replicate_sublist_replicate _ |>.mpr (by omega)
    refine (hslashes.append ?_).append (ih hafter)
    split
    · exact List.Sublist.refl _
    · exact List.nil_sublist _

/-! ## Escaped texts -/

/-- A piece of an escaped text. -/
def Piece.protected : Piece → Piece
  | .char c => .char c
  | .tag backslashes body => .tag (2 * backslashes + 1) body

theorem find?_escaped {cs : List Char} {ps : List Piece} (h : Reads cs ps) :
    (ps.flatMap escapePiece).find? isBracket = cs.find? isBracket := by
  have hslashes : ∀ n : Nat, (List.replicate n '\\').find? isBracket = none := by
    intro n
    simp [isBracket]
  induction h with
  | nil => rfl
  | @char c _ _ _ _ ih =>
    by_cases hc : isBracket c
    · simp [escapePiece, hc]
    · simpa [escapePiece, hc] using ih
  | tag => simp [escapePiece, List.find?_append, hslashes, bracketed, isBracket]

/-- Escaping makes no new tags. -/
theorem NoTag.escaped {cs : List Char} {ps : List Piece} (hread : Reads cs ps) (h : NoTag cs) :
    NoTag (ps.flatMap escapePiece) := by
  induction hread with
  | nil => exact h
  | tag htag =>
    rw [NoTag, dropWhile_replicate_bracketed, htag.tag?_eq] at h
    cases h
  | @char c rest ps hno hrest ih =>
    rw [List.flatMap_cons]
    show NoTag (c :: ps.flatMap escapePiece)
    by_cases hslash : c = '\\'
    · subst hslash
      exact ih hno
    by_cases hopen : c = '['
    · subst hopen
      -- what looks like a tag behind the bracket would have been one before
      cases hrest with
      | nil => rfl
      | tag => simp [NoTag, tag?, escapePiece, isTagStart, List.replicate_succ]
      | @char d rest ps _ hrest =>
        have hnone : (tag? ('[' :: d :: rest)).isSome = false := by
          rw [show tag? ('[' :: d :: rest) = none from hno]
          rfl
        rw [tag?_isSome, ← find?_escaped hrest, ← tag?_isSome] at hnone
        exact Option.isSome_eq_false_iff.mp hnone |> Option.isNone_iff_eq_none.mp
    · exact noTag_of_ne hslash hopen _

theorem reads_escaped {cs : List Char} {ps : List Piece} (h : Reads cs ps) :
    Reads (ps.flatMap escapePiece) (ps.map Piece.protected) := by
  induction h with
  | nil => exact .nil
  | char hno hrest ih => exact .char (NoTag.escaped (.char hno hrest) hno) ih
  | tag htag _ ih => exact .tag htag ih

theorem NoTag.append_backslash {cs : List Char} (h : NoTag cs) : NoTag (cs ++ ['\\']) := by
  rw [NoTag] at *
  cases hdrop : cs.dropWhile (· == '\\') with
  | nil =>
    have hall := List.dropWhile_eq_nil_iff.mp hdrop
    rw [List.dropWhile_append_of_pos hall]
    rfl
  | cons c rest =>
    rw [hdrop] at h
    rw [List.dropWhile_append, hdrop]
    simp only [List.isEmpty_cons, Bool.false_eq_true, if_false, List.cons_append]
    by_cases hopen : c = '['
    · subst hopen
      cases rest with
      | nil => simp [tag?, isTagStart]
      | cons d rest =>
        have hfind : (rest ++ ['\\']).find? isBracket = rest.find? isBracket := by
          simp [List.find?_append, isBracket]
        have hnone : (tag? ('[' :: d :: rest)).isSome = false := by simp [h]
        rw [tag?_isSome, ← hfind, ← tag?_isSome] at hnone
        exact Option.isSome_eq_false_iff.mp hnone |> Option.isNone_iff_eq_none.mp
    · exact tag?_eq_none_of_ne hopen _

theorem Reads.append_backslash {cs : List Char} {ps : List Piece} (h : Reads cs ps) :
    Reads (cs ++ ['\\']) (ps ++ [.char '\\']) := by
  induction h with
  | nil => exact .char rfl .nil
  | char hno _ ih => exact .char hno.append_backslash ih
  | tag htag _ ih =>
    rw [List.append_assoc]
    exact .tag htag ih

theorem Piece.isLiteral_protected (piece : Piece) : piece.protected.IsLiteral := by
  cases piece with
  | char => trivial
  | tag backslashes body => show (2 * backslashes + 1) % 2 = 1; omega

/-- No tag of an escaped text gives a style. -/
theorem isLiteral_of_mem_pieces_escape (text : String) :
    ∀ piece ∈ pieces (escape text).toList, piece.IsLiteral := by
  have hread := reads_escaped (reads_pieces text.toList)
  have hprotected : ∀ piece ∈ (pieces text.toList).map Piece.protected, piece.IsLiteral := by
    intro piece hp
    obtain ⟨original, -, rfl⟩ := List.mem_map.mp hp
    exact original.isLiteral_protected
  rw [escape, String.toList_ofList, closeEnd]
  split
  · rw [hread.pieces_eq]
    exact hprotected
  · rw [hread.append_backslash.pieces_eq]
    intro piece hp
    rcases List.mem_append.mp hp with hp | hp
    · exact hprotected piece hp
    · rw [List.mem_singleton.mp hp]
      trivial
  · rw [hread.pieces_eq]
    exact hprotected

theorem Progress.styled_of_none {p : Progress} (hpending : p.pending = []) (hended : p.ended = []) :
    p.styled = ⟨p.shown.reverse, []⟩ := by
  simp [styled, hpending, hended]

theorem Progress.styled_of_one {p : Progress} {s : Stretch} (hpending : p.pending = []) (hended : p.ended = [s]) :
    p.styled = ⟨p.shown.reverse, [s]⟩ := by
  simp [styled, hpending, hended]

/-- An escaped text can always be shown, and nothing of it has a style. -/
theorem interpret_escape (text : String) :
    ∃ shown, interpret (escape text) = .ok ⟨shown, []⟩ := by
  rw [interpret, items, interpretItems_of_isText _ (isText_of_mem_itemsFrom (isLiteral_of_mem_pieces_escape text)),
    Progress.putAll_eq]
  exact ⟨_, congrArg Except.ok (Progress.styled_of_none rfl rfl)⟩

/-! ## Texts that are shown as they are -/

/-- Whether a text has neither tags nor brackets behind a backslash. -/
def isLiteral : List Char → Bool
  | [] => true
  | c :: rest => (tag? (c :: rest)).isNone && !(c == '\\' && rest.head? == some '[') && isLiteral rest

/-- Whether a character is shown, or is a blank. -/
def isShowable (c : Char) : Bool := !isConsoleControl c || isSpace c

/-- Behind its backslashes, too, a text without tags starts with none. -/
theorem noTag_of_isLiteral {cs : List Char} (h : isLiteral cs = true) : NoTag cs := by
  induction cs with
  | nil => rfl
  | cons c rest ih =>
    simp only [isLiteral, Bool.and_eq_true] at h
    obtain ⟨⟨htag, -⟩, hrest⟩ := h
    by_cases hslash : c = '\\'
    · subst hslash
      exact ih hrest
    · rw [NoTag, List.dropWhile_cons_of_neg (by simpa using hslash)]
      exact Option.isNone_iff_eq_none.mp htag

theorem reads_of_isLiteral {cs : List Char} (h : isLiteral cs = true) : Reads cs (cs.map .char) := by
  induction cs with
  | nil => exact .nil
  | cons c rest ih =>
    refine .char (noTag_of_isLiteral h) (ih ?_)
    simp only [isLiteral, Bool.and_eq_true] at h
    exact h.2

/-- Such a text is one text. -/
theorem itemsFrom_of_isLiteral {cs : List Char} (h : isLiteral cs = true) (run : List Char) :
    itemsFrom run (cs.map .char) = [.text (run.reverse ++ cs)] := by
  induction cs generalizing run with
  | nil => simp [itemsFrom]
  | cons c rest ih =>
    simp only [isLiteral, Bool.and_eq_true] at h
    obtain ⟨⟨-, hescape⟩, hrest⟩ := h
    rw [List.map_cons, itemsFrom, ih hrest]
    · simp
    · intro after hafter hc
      cases rest with
      | nil => cases hafter
      | cons d rest =>
        obtain ⟨hd, -⟩ := List.cons.inj hafter
        cases hc
        cases hd
        simp at hescape

/-- The characters of a text that are shown and are no blanks. -/
def shownInk (cs : List Char) : List Char := inked (cs.filter (!isConsoleControl ·))

@[simp] theorem shownInk_cons (c : Char) (cs : List Char) :
    shownInk (c :: cs) = if isConsoleControl c || isSpace c then shownInk cs else c :: shownInk cs := by
  by_cases hcontrol : isConsoleControl c <;> by_cases hspace : isSpace c <;> simp [shownInk, hcontrol, hspace]

@[simp] theorem shownInk_append (cs ds : List Char) : shownInk (cs ++ ds) = shownInk cs ++ shownInk ds := by
  simp [shownInk]

theorem shownInk_sublist_inked (cs : List Char) : (shownInk cs).Sublist (inked cs) := List.filter_sublist.filter _

theorem shownInk_of_isShowable {cs : List Char} (h : ∀ c ∈ cs, isShowable c = true) : shownInk cs = inked cs := by
  rw [shownInk, inked, inked, List.filter_filter]
  refine List.filter_congr fun c hc => ?_
  have hshowable := h c hc
  simp only [isShowable, Bool.or_eq_true, Bool.not_eq_true'] at hshowable
  rcases hshowable with h | h <;> simp [h]

theorem Reads.not_tag {c : Char} {rest : List Char} {ps : List Piece} (h : Reads (c :: rest) (.char c :: ps)) :
    tag? (c :: rest) = none := by
  obtain ⟨_, -, hno, -⟩ := h.of_char
  by_cases hslash : c = '\\'
  · exact tag?_eq_none_of_ne (by simp [hslash]) rest
  · rwa [NoTag, List.dropWhile_cons_of_neg (by simpa using hslash)] at hno

/-- A bracket behind a backslash is read as a character if no tag starts there. -/
theorem Reads.of_backslash {rest : List Char} {ps : List Piece} (h : Reads ('\\' :: '[' :: rest) (.char '\\' :: ps)) :
    ∃ qs, ps = .char '[' :: qs := by
  obtain ⟨_, hrest, hno, hread⟩ := h.of_char
  cases hrest
  generalize hcs : '[' :: rest = cs at hread
  cases hread with
  | nil => cases hcs
  | char =>
    cases hcs
    exact ⟨_, rfl⟩
  | tag htag =>
    rw [hcs] at hno
    have hnone : NoTag (_ ++ bracketed _ ++ _) := hno
    rw [NoTag, dropWhile_replicate_bracketed, htag.tag?_eq] at hnone
    cases hnone

/-- A character that is read as itself, in front of a text that is shown as it stands; the next character does not
protect a bracket. -/
theorem isLiteral_cons {c : Char} {cs : List Char} {rest : List Piece} (hread : Reads (c :: cs) (.char c :: rest))
    (hnext : ∀ qs, rest = .char '[' :: qs → c ≠ '\\') (h : isLiteral cs = true) : isLiteral (c :: cs) = true := by
  have hbracket : ¬(c = '\\' ∧ cs.head? = some '[') := by
    rintro ⟨rfl, hhead⟩
    obtain ⟨cs, rfl⟩ := List.head?_eq_some_iff.mp hhead
    obtain ⟨qs, rfl⟩ := hread.of_backslash
    exact hnext qs rfl rfl
  simpa [isLiteral, hread.not_tag, h, Decidable.imp_iff_not_or] using hbracket

/-- A character that is shown adds as much to what is shown as to the text. -/
theorem length_shownInk_cons {c : Char} (hc : isShowable c = true) (shown cs : List Char) :
    (shownInk (c :: shown)).length + (inked cs).length = (shownInk shown).length + (inked (c :: cs)).length := by
  by_cases hspace : isSpace c
  · simp [hspace]
  · have hcontrol : isConsoleControl c = false := by simpa [isShowable, hspace] using hc
    simp only [shownInk_cons, inked_cons, hspace, hcontrol, Bool.or_self, Bool.false_eq_true, if_false, List.length_cons]
    omega

/-- A character that is not shown is ink of the text only. -/
theorem length_inked_cons_of_hidden {c : Char} (hc : isShowable c = false) (shown cs : List Char) :
    shownInk (c :: shown) = shownInk shown ∧ (inked (c :: cs)).length = (inked cs).length + 1 := by
  simp only [isShowable, Bool.or_eq_false_iff, Bool.not_eq_false'] at hc
  simp [hc]

theorem length_inked_backslashes (n : Nat) : (inked (List.replicate n '\\')).length = n := by
  simp [inked, show isSpace '\\' = false from rfl]

theorem length_inked_bracketed (body : List Char) : (inked (bracketed body)).length = (inked body).length + 2 := by
  rw [bracketed, inked_append, List.length_append]
  rfl

/-- If all that is no blank is shown, there are no tags, no protected brackets and no other characters on which a console
acts: each of them would cost some ink. -/
theorem isLiteral_of_shownInk {cs : List Char} {ps : List Piece} (hread : Reads cs ps) :
    (shownInk (visible ps)).length ≤ (inked cs).length ∧
    ((shownInk (visible ps)).length = (inked cs).length → isLiteral cs = true ∧ ∀ c ∈ cs, isShowable c = true) := by
  fun_induction visible ps generalizing cs with
  | case1 =>
    cases hread
    simp [shownInk, inked, isLiteral]
  | case2 rest ih =>
    obtain ⟨_, rfl, -, hread⟩ := hread.of_char
    obtain ⟨cs, rfl, -, hread⟩ := hread.of_char
    have hle := (ih hread).1
    have hshown : (shownInk ('[' :: visible rest)).length = (shownInk (visible rest)).length + 1 := rfl
    have hinked : (inked ('\\' :: '[' :: cs)).length = (inked cs).length + 2 := rfl
    omega
  | case3 c rest hne ih =>
    obtain ⟨cs, rfl, -, hrest⟩ := hread.of_char
    obtain ⟨hle, heq⟩ := ih hrest
    by_cases hc : isShowable c
    · have hlength := length_shownInk_cons hc (visible rest) cs
      refine ⟨by omega, fun h => ?_⟩
      obtain ⟨hliteral, hshowable⟩ := heq (by omega)
      exact ⟨isLiteral_cons hread hne hliteral, List.forall_mem_cons.mpr ⟨hc, hshowable⟩⟩
    · obtain ⟨hshown, hinked⟩ := length_inked_cons_of_hidden (eq_false_of_ne_true hc) (visible rest) cs
      rw [hshown]
      omega
  | case4 backslashes body rest ih =>
    obtain ⟨after, rfl, hafter⟩ := hread.of_tag
    have hle := (ih hafter).1
    have hhalf := (shownInk_sublist_inked (List.replicate (backslashes / 2) '\\')).length_le
    have hbody := (shownInk_sublist_inked (bracketed body)).length_le
    have hbrackets := length_inked_bracketed body
    rw [length_inked_backslashes] at hhalf
    simp only [shownInk_append, inked_append, List.length_append, length_inked_backslashes]
    split
    · omega
    · rw [show shownInk [] = [] from rfl, List.length_nil]
      omega

end CodeMetrics.Text.Markup
