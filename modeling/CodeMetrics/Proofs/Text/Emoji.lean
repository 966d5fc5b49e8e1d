import CodeMetrics.Text.Emoji
import Mathlib

/-!
# Texts in which emoji are replaced

The tokens of a text spell it. Codes of emoji have two colons and emoji have none, so that every emoji costs two colons:
a text with as many colons as before has no code of an emoji in it, and is left as it is.

* `source_tokens` — the tokens spell the text
* `replace_of_not_occurs` — a text without codes of emoji is left as it is
* `count_replace` — codes are told by the colons that are missing
-/

namespace CodeMetrics.Text.Emoji

/-! ## Tokens -/

/-- A token as it stands in the text. -/
def Token.source : Token → List Char
  | .char c => [c]
  | .code name => ':' :: name ++ [':']

@[simp] theorem source_plain (cs : List Char) : (plain cs).flatMap Token.source = cs := by
  simp [plain, List.flatMap_map, Token.source]

theorem source_tokensFrom (code : Option (List Char)) (cs : List Char) :
    (tokensFrom code cs).flatMap Token.source = (code.elim [] fun code => ':' :: code.reverse) ++ cs := by
  fun_induction tokensFrom code cs with
  | case1 => rfl
  | case2 code => simp
  | case3 rest ih => simpa using ih
  | case4 c rest _ ih => simpa [Token.source] using ih
  | case5 code rest ih => simpa [Token.source] using ih
  | case6 code c rest _ _ ih => simpa [List.flatMap_append] using ih
  | case7 code c rest _ _ ih => simpa using ih

/-- The tokens of a text spell it. -/
theorem source_tokens (cs : List Char) : (tokens cs).flatMap Token.source = cs := source_tokensFrom none cs

/-- A character that is no colon is a token by itself. -/
theorem tokens_cons {c : Char} (h : c ≠ ':') (cs : List Char) : tokens (c :: cs) = .char c :: tokens cs := by
  rw [tokens, tokensFrom, if_neg h]
  rfl

/-! ## Emoji -/

/-- The parts of a text between separators hold none of them. -/
theorem not_mem_of_mem_splitOn {c : Char} {cs part : List Char} (h : part ∈ cs.splitOn c) : c ∉ part := by
  have hparts : ∀ (cs acc : List Char), c ∉ acc → ∀ part ∈ List.splitOnPPrepend (· == c) cs acc, c ∉ part := by
    intro cs
    induction cs with
    | nil => simp [List.splitOnPPrepend]
    | cons d cs ih =>
      intro acc hacc
      rw [List.splitOnPPrepend]
      split
      · exact List.forall_mem_cons.mpr ⟨by simpa using hacc, ih [] (by simp)⟩
      · next hd =>
        refine ih (d :: acc) ?_
        simp only [List.mem_cons, not_or]
        exact ⟨fun hc => hd (by simp [hc]), hacc⟩
  exact hparts cs [] (by simp) part h

theorem mem_of_seek {name emoji : List Char} {row : List (List Char)} (h : seek name row = some emoji) : emoji ∈ row := by
  fun_induction seek name row with
  | case1 => simp_all
  | case2 => simp_all
  | case3 => cases h

/-- There is no colon in an emoji. -/
theorem not_mem_of_ofName? {name emoji : List Char} (h : ofName? name = some emoji) : ':' ∉ emoji := by
  obtain ⟨first, -, h⟩ := Option.bind_eq_some_iff.mp h
  obtain ⟨row, -, hrow⟩ := List.exists_of_findSome?_eq_some h
  exact not_mem_of_mem_splitOn (mem_of_seek hrow)

theorem not_mem_of_ofCode? {code emoji : List Char} (h : ofCode? code = some emoji) : ':' ∉ emoji := by
  unfold ofCode? at h
  split at h
  · next suffix selector hfind =>
    obtain ⟨plain, hplain, rfl⟩ := Option.map_eq_some_iff.mp h
    have hselector : ∀ variant ∈ variants, variant.2 ≠ ':' := by decide
    have hne := hselector _ (List.mem_of_find?_eq_some hfind)
    simpa [not_mem_of_ofName? hplain] using Ne.symm hne
  · exact not_mem_of_ofName? h

/-! ## Colons -/

/-- A token that stands for no emoji is shown as it is. -/
theorem Token.shown_of_not_isEmoji {t : Token} (h : t.isEmoji = false) : t.shown = t.source := by
  cases t with
  | char c => rfl
  | code name =>
    have hnone : ofCode? name = none := Option.isSome_eq_false_iff.mp h |> Option.isNone_iff_eq_none.mp
    rw [shown, hnone]
    rfl

/-- An emoji costs the colons of its code. -/
theorem Token.count_shown_lt {t : Token} (h : t.isEmoji = true) : t.shown.count ':' < t.source.count ':' := by
  cases t with
  | char c => cases h
  | code name =>
    obtain ⟨emoji, hemoji⟩ := Option.isSome_iff_exists.mp h
    rw [shown, hemoji, Option.getD_some, List.count_eq_zero_of_not_mem (not_mem_of_ofCode? hemoji)]
    simp [source]

/-- A text without codes of emoji is left as it is. -/
theorem replace_of_not_occurs {cs : List Char} (h : occurs cs = false) : replace cs = cs := by
  rw [occurs, List.any_eq_false] at h
  have hsame : (tokens cs).flatMap Token.shown = (tokens cs).flatMap Token.source := by
    rw [List.flatMap_def, List.flatMap_def]
    refine congrArg List.flatten (List.map_congr_left fun t ht => ?_)
    exact Token.shown_of_not_isEmoji (eq_false_of_ne_true (h t ht))
  rw [replace, hsame, source_tokens]

/-- No colons are added, and if none are missing there is no code of an emoji. -/
theorem count_replace (cs : List Char) :
    (replace cs).count ':' ≤ cs.count ':' ∧ ((replace cs).count ':' = cs.count ':' → occurs cs = false) := by
  have htokens : ∀ ts : List Token,
      (ts.flatMap Token.shown).count ':' ≤ (ts.flatMap Token.source).count ':' ∧
      ((ts.flatMap Token.shown).count ':' = (ts.flatMap Token.source).count ':' → ts.any Token.isEmoji = false) := by
    intro ts
    induction ts with
    | nil => simp
    | cons t ts ih =>
      simp only [List.flatMap_cons, List.count_append, List.any_cons]
      cases hemoji : t.isEmoji with
      | false =>
        rw [Token.shown_of_not_isEmoji hemoji]
        exact ⟨Nat.add_le_add_left ih.1 _, fun h => by simpa using ih.2 (Nat.add_left_cancel h)⟩
      | true =>
        have := Token.count_shown_lt hemoji
        omega
  have := htokens (tokens cs)
  rwa [source_tokens] at this

/-- A character that is no colon belongs to no code. -/
theorem occurs_cons {c : Char} (h : c ≠ ':') (cs : List Char) : occurs (c :: cs) = occurs cs := by
  rw [occurs, tokens_cons h]
  rfl

end CodeMetrics.Text.Emoji
