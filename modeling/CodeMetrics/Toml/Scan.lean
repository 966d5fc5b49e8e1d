import CodeMetrics.Toml.Time

/-!
# TOML texts, scalars and keys

The pieces of a TOML document that contain no others: comments, strings, numbers and other scalars, and dotted keys.
A failure names its cause and where the reader stood, by the number of characters left from there on.
-/

namespace CodeMetrics.Toml

/-- What the reader could not accept. -/
inductive Fault where
  | invalidStatement
  | expectedLineEnd
  | declaredTwice (key : List String)
  | immutable (key : List String)
  | redefined (key : List String)
  | overwritten
  | expectedTableEnd
  | expectedArrayTableEnd
  | expectedEquals
  | invalidKeyStart
  | unclosedArray
  | unclosedInlineTable
  | duplicateInlineKey (key : String)
  | unescapedBackslash
  | invalidHexValue
  | notScalarValue
  | expectedDelimiter (delimiter : String)
  | foundInvalid (c : Char)
  | illegal (c : Char)
  | unterminated
  | invalidValue
  | invalidMoment
  /-- A whole number of more digits than are converted; it is reported without a position. -/
  | integerTooLong (digits : Nat)
  deriving DecidableEq, Repr

/-- A cause, and the number of characters from the reader's position to the end of the document. -/
structure Failure where
  fault : Fault
  left : Nat
  deriving DecidableEq, Repr

/-- A dotted key as a row of quoted parts. -/
def keyText (key : List String) : String :=
  match key with
  | [part] => "(" ++ Text.quoted part ++ ",)"
  | parts => "(" ++ String.intercalate ", " (parts.map Text.quoted) ++ ")"

def Fault.message : Fault → String
  | invalidStatement => "Invalid statement"
  | expectedLineEnd => "Expected newline or end of document after a statement"
  | declaredTwice key => "Cannot declare " ++ keyText key ++ " twice"
  | immutable key => "Cannot mutate immutable namespace " ++ keyText key
  | redefined key => "Cannot redefine namespace " ++ keyText key
  | overwritten => "Cannot overwrite a value"
  | expectedTableEnd => "Expected ']' at the end of a table declaration"
  | expectedArrayTableEnd => "Expected ']]' at the end of an array declaration"
  | expectedEquals => "Expected '=' after a key in a key/value pair"
  | invalidKeyStart => "Invalid initial character for a key part"
  | unclosedArray => "Unclosed array"
  | unclosedInlineTable => "Unclosed inline table"
  | duplicateInlineKey key => "Duplicate inline table key " ++ Text.quoted key
  | unescapedBackslash => "Unescaped '\\' in a string"
  | invalidHexValue => "Invalid hex value"
  | notScalarValue => "Escaped character is not a Unicode scalar value"
  | expectedDelimiter delimiter => "Expected " ++ Text.quoted delimiter
  | foundInvalid c => "Found invalid character " ++ Text.quoted (String.singleton c)
  | illegal c => "Illegal character " ++ Text.quoted (String.singleton c)
  | unterminated => "Unterminated string"
  | invalidValue => "Invalid value"
  | invalidMoment => "Invalid date or datetime"
  | integerTooLong digits => (Json.Fault.integerTooLong digits).message

/-- The line and column of the reader's position, both counted from 1. -/
def position (text : List Char) (left : Nat) : String :=
  if left = 0 then "end of document"
  else
    let before := text.take (text.length - left)
    let column := (before.reverse.takeWhile (· != '\n')).length + 1
    "line " ++ Number.natText (before.count '\n' + 1) ++ ", column " ++ Number.natText column

def Failure.message (text : List Char) (f : Failure) : String :=
  match f.fault with
  | .integerTooLong _ => f.fault.message
  | fault => fault.message ++ " (at " ++ position text f.left ++ ")"

/-- A failure of a reader that stands before `cs`. -/
def fail {α : Type} (fault : Fault) (cs : List Char) : Except Failure α := .error ⟨fault, cs.length⟩

/-! ## Blanks and comments -/

def isBlank (c : Char) : Bool := c == ' ' || c == '\t'

def skipBlank (cs : List Char) : List Char := cs.dropWhile isBlank

def isBlankOrNewline (c : Char) : Bool := isBlank c || c == '\n'

/-- Control characters; the tab is not one of them here. -/
def isControl (c : Char) : Bool := (decide (c.toNat < 0x20) && c != '\t') || c.toNat == 0x7f

/-- Control characters that are not line feeds. -/
def isControlInLines (c : Char) : Bool := isControl c && c != '\n'

/-- Skips a comment up to the end of its line. -/
def skipComment (cs : List Char) : Except Failure (List Char) :=
  match cs with
  | '#' :: rest =>
    let body := rest.takeWhile (· != '\n')
    match body.find? isControl with
    | some c => fail (.foundInvalid c) (rest.dropWhile fun c => !isControl c)
    | none => .ok (rest.drop body.length)
  | _ => .ok cs

/-- Skips blanks, line ends and comments; `fuel` is at least the number of characters. -/
def skipLines : Nat → List Char → Except Failure (List Char)
  | 0, cs => .ok cs
  | fuel + 1, cs => do
    let rest ← skipComment (cs.dropWhile isBlankOrNewline)
    if rest.length = cs.length then return rest else skipLines fuel rest

/-! ## Strings -/

/-- The text before the first occurrence of a delimiter, and what follows it. -/
def splitAtFirst (delimiter : List Char) : List Char → Option (List Char × List Char)
  | [] => none
  | c :: rest =>
    if delimiter.isPrefixOf (c :: rest) then some ([], (c :: rest).drop delimiter.length)
    else (splitAtFirst delimiter rest).map fun (before, after) => (c :: before, after)

/-- A string without escapes, after its opening delimiter. -/
def literal (delimiter : String) (bad : Char → Bool) (cs : List Char) : Except Failure (List Char × List Char) :=
  match splitAtFirst delimiter.toList cs with
  | none => fail (.expectedDelimiter delimiter) []
  | some (body, rest) =>
    match body.find? bad with
    | some c => fail (.foundInvalid c) (cs.dropWhile fun c => !bad c)
    | none => .ok (body, rest)

/-- The character of `width` hexadecimal digits. -/
def hexChar (width : Nat) (cs : List Char) : Except Failure (List Char × List Char) :=
  let digits := cs.take width
  match digits.mapM Json.hexValue? with
  | none => fail .invalidHexValue cs
  | some values =>
    if values.length ≠ width then fail .invalidHexValue cs
    else
      let n := values.foldl (fun acc v => 16 * acc + v) 0
      if n.isValidChar then .ok ([Char.ofNat n], cs.drop width) else fail .notScalarValue (cs.drop width)

/-- The one-letter escapes. -/
def shortEscape? (c : Char) : Option Char :=
  match c with
  | 'b' => some '\x08'
  | 't' => some '\t'
  | 'n' => some '\n'
  | 'f' => some '\x0c'
  | 'r' => some '\r'
  | '"' => some '"'
  | '\\' => some '\\'
  | _ => none

/-- What an escape stands for, after its backslash. In a string of several lines a backslash at the end of a line
joins it to the next text. -/
def escape (multiline : Bool) (cs : List Char) : Except Failure (List Char × List Char) :=
  match cs with
  | [] => fail .unescapedBackslash []
  | c :: rest =>
    if multiline && isBlankOrNewline c then
      if c = '\n' then .ok ([], rest.dropWhile isBlankOrNewline)
      else
        match skipBlank rest with
        | [] => .ok ([], [])
        | '\n' :: rest => .ok ([], rest.dropWhile isBlankOrNewline)
        | rest => fail .unescapedBackslash rest
    else if c = 'u' then hexChar 4 rest
    else if c = 'U' then hexChar 8 rest
    else
      match shortEscape? c with
      | some x => .ok ([x], rest)
      | none => fail .unescapedBackslash rest

/-- A string with escapes, after its opening delimiter; `fuel` exceeds the number of characters. -/
def basic (multiline : Bool) : Nat → List Char → Except Failure (List Char × List Char)
  | 0, cs => fail .unterminated cs
  | fuel + 1, cs =>
    match cs with
    | [] => fail .unterminated []
    | '"' :: rest =>
      if !multiline then .ok ([], rest)
      else
        match rest with
        | '"' :: '"' :: rest => .ok ([], rest)
        | _ => (basic multiline fuel rest).map fun (s, rest) => ('"' :: s, rest)
    | '\\' :: rest => do
      let (x, rest) ← escape multiline rest
      let (s, rest) ← basic multiline fuel rest
      return (x ++ s, rest)
    | c :: rest =>
      if if multiline then isControlInLines c else isControl c then fail (.illegal c) cs
      else (basic multiline fuel rest).map fun (s, rest) => (c :: s, rest)

/-- One or two delimiter characters more than the three that end a string of several lines belong to it. -/
def extraDelimiters (d : Char) (body cs : List Char) : List Char × List Char :=
  match cs with
  | a :: b :: rest => if a = d then if b = d then (body ++ [d, d], rest) else (body ++ [d], b :: rest) else (body, cs)
  | [a] => if a = d then (body ++ [d], []) else (body, cs)
  | [] => (body, cs)

/-- A line feed right after the opening delimiter of a string of several lines is dropped. -/
def dropFirstNewline : List Char → List Char
  | '\n' :: rest => rest
  | cs => cs

/-- A string of any of the four forms at the head of the text, if there is one. -/
def string? (cs : List Char) : Option (Except Failure (List Char × List Char)) :=
  match cs with
  | '"' :: '"' :: '"' :: rest =>
    let rest := dropFirstNewline rest
    some ((basic true (rest.length + 1) rest).map fun (s, rest) => extraDelimiters '"' s rest)
  | '"' :: rest => some (basic false (rest.length + 1) rest)
  | '\'' :: '\'' :: '\'' :: rest =>
    some ((literal "'''" isControlInLines (dropFirstNewline rest)).map fun (s, rest) => extraDelimiters '\'' s rest)
  | '\'' :: rest => some (literal "'" isControl rest)
  | _ => none

/-! ## Numbers -/

/-- The rest of a row of digits, in which a single `_` may stand between two. -/
def digitsAfter (isDigit : Char → Bool) : List Char → List Char × List Char
  | [] => ([], [])
  | ['_'] => ([], ['_'])
  | '_' :: c :: rest =>
    if isDigit c then
      let (ds, rest) := digitsAfter isDigit rest
      (c :: ds, rest)
    else ([], '_' :: c :: rest)
  | c :: rest =>
    if isDigit c then
      let (ds, rest) := digitsAfter isDigit rest
      (c :: ds, rest)
    else ([], c :: rest)

/-- A row of digits at the head of the text. -/
def digits? (isDigit : Char → Bool) (cs : List Char) : Option (List Char × List Char) :=
  match cs with
  | c :: rest =>
    if isDigit c then
      let (ds, rest) := digitsAfter isDigit rest
      some (c :: ds, rest)
    else none
  | [] => none

/-- The value of digits in a base. -/
def baseValue (base : Nat) (ds : List Char) : Nat :=
  ds.foldl (fun acc c => base * acc + (Json.hexValue? c).getD 0) 0

/-- The base that follows a leading zero. -/
def baseOf? (c : Char) : Option Nat :=
  match c with
  | 'x' => some 16
  | 'b' => some 2
  | 'o' => some 8
  | _ => none

/-- A whole number in base 16, 8 or 2. -/
def radix? (cs : List Char) : Option (Nat × List Char) :=
  match cs with
  | '0' :: b :: rest => do
    let base ← baseOf? b
    let (ds, rest) ← digits? (fun c => ((Json.hexValue? c).map (decide <| · < base)).getD false) rest
    return (baseValue base ds, rest)
  | _ => none

/-- The whole part of a decimal number: a single zero, or digits that do not start with one. -/
def wholePart? (cs : List Char) : Option (List Char × List Char) :=
  match cs with
  | '0' :: rest => some (['0'], rest)
  | cs => digits? Json.isDigit cs

/-- The digits behind a point, none without a point and a digit. -/
def fractionPart (cs : List Char) : List Char × List Char :=
  match cs with
  | '.' :: rest => (digits? Json.isDigit rest).getD ([], cs)
  | _ => ([], cs)

/-- The sign and the digits of an exponent, if there is a complete one. -/
def exponentPart (cs : List Char) : Option (Bool × List Char) × List Char :=
  match cs with
  | e :: rest =>
    if e = 'e' ∨ e = 'E' then
      let (negative, row) := match rest with
        | '-' :: r => (true, r)
        | '+' :: r => (false, r)
        | r => (false, r)
      match digits? Json.isDigit row with
      | some (ds, rest) => (some (negative, ds), rest)
      | none => (none, cs)
    else (none, cs)
  | [] => (none, cs)

/-- A decimal number at the head of the text, if there is one. -/
def decimal? (cs : List Char) : Option (Except Failure (Value × List Char)) :=
  let (negative, body) := match cs with
    | '-' :: rest => (true, rest)
    | '+' :: rest => (false, rest)
    | _ => (false, cs)
  (wholePart? body).map fun (whole, rest) =>
    let (places, rest) := fractionPart rest
    let (power, rest) := exponentPart rest
    if places.isEmpty && power.isNone then
      if Text.digitLimit < whole.length then fail (.integerTooLong whole.length) cs
      else
        let n : Int := Json.digitsNat whole
        .ok (.int (if negative then -n else n), rest)
    else
      .ok (.float (Number.ofDecimal negative (Json.digitsNat (whole ++ places))
        (Json.exponentValue power - places.length)), rest)

/-- The words for what is not finite. -/
def floatWords : List (String × Float) :=
  [ ("inf", 1.0 / 0.0), ("nan", 0.0 / 0.0), ("-inf", -1.0 / 0.0), ("+inf", 1.0 / 0.0)
  , ("-nan", 0.0 / 0.0), ("+nan", 0.0 / 0.0) ]

/-- A number at the head of the text. -/
def number (cs : List Char) : Except Failure (Value × List Char) :=
  match radix? cs with
  | some (n, rest) => .ok (.int n, rest)
  | none =>
    match decimal? cs with
    | some found => found
    | none =>
      match floatWords.find? fun (w, _) => w.toList.isPrefixOf cs with
      | some (w, x) => .ok (.float x, cs.drop w.length)
      | none => fail .invalidValue cs

/-- A truth value, a moment or a number at the head of the text. -/
def scalar (cs : List Char) : Except Failure (Value × List Char) :=
  if "true".toList.isPrefixOf cs then .ok (.bool true, cs.drop 4)
  else if "false".toList.isPrefixOf cs then .ok (.bool false, cs.drop 5)
  else
    match moment? cs with
    | some (m, rest) => if m.isValid then .ok (.moment m, rest) else fail .invalidMoment cs
    | none => number cs

/-! ## Keys -/

def isBareKeyChar (c : Char) : Bool := c.isAlphanum || c == '-' || c == '_'

/-- One part of a dotted key. -/
def keyPart (cs : List Char) : Except Failure (String × List Char) :=
  match cs with
  | '\'' :: rest => (literal "'" isControl rest).map fun (s, rest) => (String.ofList s, rest)
  | '"' :: rest => (basic false (rest.length + 1) rest).map fun (s, rest) => (String.ofList s, rest)
  | cs =>
    let bare := cs.takeWhile isBareKeyChar
    if bare.isEmpty then fail .invalidKeyStart cs else .ok (String.ofList bare, cs.drop bare.length)

/-- The parts of a dotted key and what follows it, blanks skipped; `fuel` exceeds the number of characters. -/
def dottedKey : Nat → List Char → Except Failure (List String × List Char)
  | 0, cs => fail .invalidKeyStart cs
  | fuel + 1, cs => do
    let (part, rest) ← keyPart cs
    match skipBlank rest with
    | '.' :: rest =>
      let (parts, rest) ← dottedKey fuel (skipBlank rest)
      return (part :: parts, rest)
    | rest => return ([part], rest)

def key (cs : List Char) : Except Failure (List String × List Char) := dottedKey (cs.length + 1) cs

end CodeMetrics.Toml
