import CodeMetrics.Text.CharacterName.Table

/-!
# Names of characters

Every character of a script has a name in capitals, digits, spaces and hyphens, such as `GREEK SMALL LETTER ALPHA`. Most
names are listed in a table and found in letters of either case. Ideographs are named by their numbers and Hangul
syllables by their sounds; these are spelled exactly.
-/

namespace CodeMetrics.Text.CharacterName

/-! ## Listed names -/

/-- Goes through a table in search of a name. `name` is what is left of it behind the common beginning, and `rest` what
is left behind the letters of the entry that have been passed, unless the entry differs. Such an entry is passed over
with everything in its brackets, of which `depth` are open. -/
def seek (name : List Char) (rest : Option (List Char)) (depth : Nat) : List Char → Bool
  | [] => false
  | c :: table =>
    match rest with
    | some left =>
      if c = ',' then left.isEmpty || seek name (some name) 0 table
      else if c = '(' then seek left (some left) 0 table
      else if c = ')' then false
      else if left.head? = some c then seek name (some left.tail) 0 table
      else seek name none 0 table
    | none =>
      if c = '(' then seek name none (depth + 1) table
      else if c = ')' then
        if depth ≤ 1 then seek name (some name) 0 table else seek name none (depth - 1) table
      else if c = ',' ∧ depth = 0 then seek name (some name) 0 table
      else seek name none depth table

/-- Whether a name is in the table. -/
def isListed (name : List Char) : Bool :=
  match name with
  | [] => false
  | first :: _ =>
    match table.lookup first with
    | some lines => seek name (some name) 0 (String.join lines).toList
    | none => false

/-! ## Ideographs -/

/-- The ranges of code points of the unified ideographs, first and last included. -/
def ideographs : List (Nat × Nat) :=
  [ (0x3400, 0x4dbf), (0x4e00, 0x9fff), (0x20000, 0x2a6df), (0x2a700, 0x2b738), (0x2b740, 0x2b81d), (0x2b820, 0x2cea1)
  , (0x2ceb0, 0x2ebe0), (0x30000, 0x3134a) ]

/-- The value of a digit to the base sixteen, with capitals only. -/
def capitalHex? (c : Char) : Option Nat :=
  if '0' ≤ c ∧ c ≤ '9' then some (c.toNat - 0x30)
  else if 'A' ≤ c ∧ c ≤ 'F' then some (c.toNat - 0x41 + 10)
  else none

/-- Whether four or five digits are the number of an ideograph. -/
def isIdeographNumber (digits : List Char) : Bool :=
  (digits.length == 4 || digits.length == 5) &&
    match digits.mapM capitalHex? with
    | some values =>
      let n := values.foldl (fun acc v => 16 * acc + v) 0
      ideographs.any fun (first, last) => decide (first ≤ n) && decide (n ≤ last)
    | none => false

/-! ## Syllables -/

/-- The sounds that Hangul syllables start with. -/
def initials : List String :=
  ["G", "GG", "N", "D", "DD", "R", "M", "B", "BB", "S", "SS", "", "J", "JJ", "C", "K", "T", "P", "H"]

/-- The vowels of Hangul syllables. -/
def vowels : List String :=
  [ "A", "AE", "YA", "YAE", "EO", "E", "YEO", "YE", "O", "WA", "WAE", "OE", "YO", "U", "WEO", "WE", "WI", "YU", "EU"
  , "YI", "I" ]

/-- The sounds that Hangul syllables end with. -/
def finals : List String :=
  [ "", "G", "GG", "GS", "N", "NJ", "NH", "D", "L", "LG", "LM", "LB", "LS", "LT", "LP", "LH", "M", "B", "BS", "S", "SS"
  , "NG", "J", "C", "K", "T", "P", "H" ]

/-- The text behind the longest of some sounds that it starts with. -/
def behind? (sounds : List String) (cs : List Char) : Option (List Char) :=
  let lengths := (sounds.filter fun s => s.toList.isPrefixOf cs).map String.length
  lengths.max?.map cs.drop

/-- Whether a text is made up of the sounds of one syllable. -/
def isSyllable (cs : List Char) : Bool :=
  ((behind? initials cs).bind (behind? vowels)).bind (behind? finals) == some []

end CharacterName

/-- What stands behind a beginning. -/
def afterStart? (start : String) (cs : List Char) : Option (List Char) :=
  if start.toList.isPrefixOf cs then some (cs.drop start.length) else none

/-- Whether a text is the name of a character. -/
def isCharacterName (name : List Char) : Bool :=
  match afterStart? "CJK UNIFIED IDEOGRAPH-" name, afterStart? "HANGUL SYLLABLE " name with
  | some digits, _ => CharacterName.isIdeographNumber digits
  | _, some sounds => CharacterName.isSyllable sounds
  | none, none => CharacterName.isListed (name.map Char.toUpper)

end CodeMetrics.Text
