import CodeMetrics.Number.Binary
import CodeMetrics.Text.CharacterName
import CodeMetrics.Text.Integer
import CodeMetrics.Text.Utf8

/-!
# Literal values

Which texts are literal values: numbers, texts and bytes in quotes, truth values, and tuples, sets and dictionaries of
them. Only whether a text is one is decided here; of a value no more is kept than what the rules ask for. A sign goes
before a plain number, only an imaginary part can be added to a real one, and what is in a set or is a key of a
dictionary must not be a set or a dictionary itself.

A value stands on one line, on which brackets and backslashes can join several lines of the text. Only blank lines and
comments stand before and behind it, and it is not indented.
-/

namespace CodeMetrics.Text.Literal

/-- What the rules ask about a value. -/
inductive Shape where
  /-- A real number without a sign, and whether it is within the range of doubles. -/
  | real (inRange : Bool)
  | imaginary
  | signedReal (inRange : Bool)
  /-- Any other value that can be a member of a set. -/
  | fixed
  /-- A set, a dictionary, or a tuple that holds one. -/
  | mutable
  deriving DecidableEq, Repr

/-! ## Blanks -/

/-- The text behind blanks and comments. Inside brackets line ends are blank too; a backslash joins two lines
anywhere. -/
def skip (bracketed : Bool) : List Char → List Char
  | [] => []
  | c :: rest =>
    if c = ' ' ∨ c = '\t' ∨ c = '\x0c' ∨ (bracketed ∧ c = '\n') then skip bracketed rest
    else if c = '#' then skipComment rest
    else if c = '\\' then
      match rest with
      | '\n' :: next :: rest => skip bracketed (next :: rest)
      | _ => c :: rest
    else c :: rest
where
  skipComment : List Char → List Char
  | [] => []
  | c :: rest => if c = '\n' then (if bracketed then skip bracketed rest else c :: rest) else skipComment rest

/-- The column at which a line starts, and the line from there on. A tab goes on to a multiple of eight, a form feed
back to the start; of lines that backslashes join, the first that is indented counts. -/
def margin (column joinedAt : Nat) : List Char → Option (Nat × List Char)
  | '\\' :: '\n' :: next :: rest => margin column (if joinedAt = 0 then column else joinedAt) (next :: rest)
  | '\\' :: _ => none
  | ' ' :: rest => margin (column + 1) joinedAt rest
  | '\t' :: rest => margin (8 * (column / 8 + 1)) joinedAt rest
  | '\x0c' :: rest => margin 0 joinedAt rest
  | cs => some (if joinedAt = 0 then column else joinedAt, cs)

/-- The text behind blank lines and lines with nothing but a comment, from the start of a line on; it must not be
indented. `fuel` is more than its length. -/
def skipLines : Nat → List Char → Option (List Char)
  | 0, _ => none
  | fuel + 1, cs => do
    let (column, cs) ← margin 0 0 cs
    match cs with
    | [] => return []
    | '\n' :: rest => skipLines fuel rest
    | '#' :: rest => skipLines fuel (rest.dropWhile (· != '\n'))
    | cs => if column = 0 then return cs else none

/-! ## Numbers -/

/-- The rest of a row of digits with single `_` between them. -/
def afterDigits (isDigit : Char → Bool) : List Char → List Char
  | '_' :: c :: rest => if isDigit c then afterDigits isDigit rest else '_' :: c :: rest
  | c :: rest => if isDigit c then afterDigits isDigit rest else c :: rest
  | [] => []

/-- The rest behind a row of digits, if there is one. -/
def digits? (isDigit : Char → Bool) (cs : List Char) : Option (List Char) :=
  match cs with
  | c :: rest => if isDigit c then some (afterDigits isDigit rest) else none
  | [] => none

def isHex (c : Char) : Bool :=
  isPlainDigit c || (decide ('a' ≤ c) && decide (c ≤ 'f')) || (decide ('A' ≤ c) && decide (c ≤ 'F'))

/-- The base that the letter behind a leading zero stands for, and its digits. -/
def base? (c : Char) : Option (Nat × (Char → Bool)) :=
  if c = 'x' ∨ c = 'X' then some (16, isHex)
  else if c = 'o' ∨ c = 'O' then some (8, fun d => decide ('0' ≤ d) && decide (d ≤ '7'))
  else if c = 'b' ∨ c = 'B' then some (2, fun d => d == '0' || d == '1')
  else none

/-- The rest behind an exponent, if there is a complete one. -/
def exponent? (cs : List Char) : Option (List Char) :=
  match cs with
  | e :: rest =>
    if e = 'e' ∨ e = 'E' then
      match rest with
      | '+' :: rest => digits? isPlainDigit rest
      | '-' :: rest => digits? isPlainDigit rest
      | rest => digits? isPlainDigit rest
    else none
  | [] => none

/-- A character that can be part of a name. -/
def isNameChar (c : Char) : Bool := c.isAlphanum || c == '_' || decide (0x80 ≤ c.toNat)

/-- A number has to end where no name goes on. -/
def endNumber (shape : Shape) (cs : List Char) : Option (Shape × List Char) :=
  match cs with
  | c :: _ => if isNameChar c then none else some (shape, cs)
  | [] => some (shape, cs)

/-- A number that may be imaginary. -/
def endDecimal (cs : List Char) : Option (Shape × List Char) :=
  match cs with
  | 'j' :: rest => endNumber .imaginary rest
  | 'J' :: rest => endNumber .imaginary rest
  | cs => endNumber (.real true) cs

/-- The value of a digit in any base up to sixteen. -/
def digitValue (c : Char) : Nat :=
  if isPlainDigit c then c.toNat - 0x30 else 10 + (c.toLower.toNat - 0x61)

/-- The end of a whole number with these digits; `_` is passed over. -/
def endWhole (base : Nat) (row rest : List Char) : Option (Shape × List Char) :=
  let n := (row.filter (· != '_')).foldl (fun acc c => base * acc + digitValue c) 0
  endNumber (.real (Number.ofInt? n).isSome) rest

/-- A whole number is converted up to a limit, and starts with a zero only if it is zero. -/
def isWhole (row : List Char) : Bool :=
  let ds := row.filter (· != '_')
  decide (ds.length ≤ digitLimit) && (row.head? != some '0' || ds.all (· == '0'))

/-- A decimal number; the digits before its point may be missing if there are some behind it. -/
def decimal (cs : List Char) : Option (Shape × List Char) :=
  let rest := (digits? isPlainDigit cs).getD cs
  let row := cs.take (cs.length - rest.length)
  match rest with
  | '.' :: behind =>
    let rest := (digits? isPlainDigit behind).getD behind
    if row.isEmpty && rest.length == behind.length then none else endDecimal ((exponent? rest).getD rest)
  | _ =>
    if row.isEmpty then none
    else
      match exponent? rest, rest with
      | some rest, _ => endDecimal rest
      | none, 'j' :: _ => endDecimal rest
      | none, 'J' :: _ => endDecimal rest
      | none, _ => if isWhole row then endWhole 10 row rest else none

/-- A number at the head of the text. -/
def number (cs : List Char) : Option (Shape × List Char) :=
  match cs with
  | '0' :: b :: rest =>
    match base? b with
    | some (base, isDigit) => do
      let row := match rest with
        | '_' :: row => row
        | row => row
      let rest ← digits? isDigit row
      endWhole base (row.take (row.length - rest.length)) rest
    | none => decimal cs
  | cs => decimal cs

/-! ## Texts in quotes -/

/-- What stands before a quote. -/
structure QuoteKind where
  bytes : Bool
  raw : Bool
  deriving DecidableEq, Repr

/-- The quotes that start here, with the letters before them. -/
def quoteKind? (cs : List Char) : Option (QuoteKind × List Char) :=
  let letters := cs.takeWhile Char.isAlpha
  let rest := cs.drop letters.length
  if rest.head? = some '"' ∨ rest.head? = some '\'' then
    match letters.map Char.toLower with
    | [] | ['u'] => some (⟨false, false⟩, rest)
    | ['r'] => some (⟨false, true⟩, rest)
    | ['b'] => some (⟨true, false⟩, rest)
    | ['b', 'r'] | ['r', 'b'] => some (⟨true, true⟩, rest)
    | _ => none
  else none

/-- Whether an escape has all its digits, and no more than six of them behind leading zeros that go up to `10ffff`. -/
def hexEscape (count : Nat) (cs : List Char) : Bool :=
  let ds := cs.take count
  let significant := ds.dropWhile (· == '0')
  ds.length == count && ds.all isHex
    && (decide (significant.length < 6) || (significant.length == 6 && "10".toList.isPrefixOf significant))

/-- Whether braces with the name of a character between them follow. -/
def nameEscape (cs : List Char) : Bool :=
  match cs with
  | '\x7b' :: rest =>
    let name := rest.takeWhile (· != '\x7d')
    decide (name.length < rest.length) && isCharacterName name
  | _ => false

/-- Whether what follows a backslash is allowed there. -/
def escapeOk (kind : QuoteKind) (cs : List Char) : Bool :=
  kind.raw ||
    match cs with
    | 'x' :: rest => hexEscape 2 rest
    | 'u' :: rest => kind.bytes || hexEscape 4 rest
    | 'U' :: rest => kind.bytes || hexEscape 8 rest
    | 'N' :: rest => kind.bytes || nameEscape rest
    | _ => true

/-- The rest behind a text in quotes, from inside it. `triple` quotes run over line ends. -/
def afterQuoted (kind : QuoteKind) (quote : Char) (triple : Bool) : List Char → Option (List Char)
  | [] => none
  | ['\\'] => none
  | '\\' :: c :: rest =>
    if escapeOk kind (c :: rest) && !(kind.bytes && decide (0x80 ≤ c.toNat)) then afterQuoted kind quote triple rest
    else none
  | c :: rest =>
    if c = quote then
      if !triple then some rest
      else
        match rest with
        | a :: b :: rest' => if a = quote ∧ b = quote then some rest' else afterQuoted kind quote triple rest
        | _ => none
    else if (!triple && c == '\n') || (kind.bytes && decide (0x80 ≤ c.toNat)) then none
    else afterQuoted kind quote triple rest

/-- A text in quotes at the head of the text: whether it is bytes, and what follows. -/
def quoted (cs : List Char) : Option (Bool × List Char) := do
  let (kind, cs) ← quoteKind? cs
  match cs with
  | q :: rest =>
    let rest ← match rest with
      | a :: b :: body => if a = q ∧ b = q then afterQuoted kind q true body else afterQuoted kind q false rest
      | _ => afterQuoted kind q false rest
    return (kind.bytes, rest)
  | [] => none

/-- Further texts in quotes that join the one before; all are bytes or none. -/
def joined (bracketed bytes : Bool) : Nat → List Char → Option (List Char)
  | 0, cs => some cs
  | fuel + 1, cs =>
    match quoteKind? (skip bracketed cs) with
    | none => some cs
    | some _ => do
      let (more, rest) ← quoted (skip bracketed cs)
      if more = bytes then joined bracketed bytes fuel rest else none

/-! ## Values -/

/-- The forms of the letter `s` in names: plain, long, raised, lowered, wide and mathematical. -/
def formsOfS : List Nat :=
  [ 0x73, 0x17f, 0x2e2, 0x209b, 0xff53, 0x1d42c, 0x1d460, 0x1d494, 0x1d4c8, 0x1d4fc, 0x1d530, 0x1d564, 0x1d598
  , 0x1d5cc, 0x1d600, 0x1d634, 0x1d668, 0x1d69c ]

/-- The forms of the letter `e` in names. -/
def formsOfE : List Nat :=
  [ 0x65, 0x1d49, 0x2091, 0x212f, 0x2147, 0xff45, 0x1d41e, 0x1d452, 0x1d486, 0x1d4ee, 0x1d522, 0x1d556, 0x1d58a
  , 0x1d5be, 0x1d5f2, 0x1d626, 0x1d65a, 0x1d68e ]

/-- The forms of the letter `t` in names. -/
def formsOfT : List Nat :=
  [ 0x74, 0x1d57, 0x209c, 0xff54, 0x1d42d, 0x1d461, 0x1d495, 0x1d4c9, 0x1d4fd, 0x1d531, 0x1d565, 0x1d599, 0x1d5cd
  , 0x1d601, 0x1d635, 0x1d669, 0x1d69d ]

/-- Whether a name is `set`, each letter in any of its forms. -/
def isSetName (name : List Char) : Bool :=
  match name with
  | [s, e, t] => formsOfS.contains s.toNat && formsOfE.contains e.toNat && formsOfT.contains t.toNat
  | _ => false

/-- A value that stands for a word. -/
def word (bracketed : Bool) (cs : List Char) : Option (Shape × List Char) :=
  let name := cs.takeWhile isNameChar
  let rest := cs.drop name.length
  if ["None", "True", "False"].contains (String.ofList name) then some (.fixed, rest)
  else if isSetName name then
    match skip bracketed rest with
    | '(' :: rest =>
      match skip true rest with
      | ')' :: rest => some (.mutable, rest)
      | _ => none
    | _ => none
  else none

/-- The greatest number of brackets that stand around a value. -/
def bracketLimit : Nat := 200

/-- The shape of a tuple. -/
def tupleShape (items : List Shape) : Shape := if items.contains .mutable then .mutable else .fixed

/-- A number with a sign before it. -/
def signed (shape : Shape) : Option Shape :=
  match shape with
  | .real inRange => some (.signedReal inRange)
  | .imaginary => some .fixed
  | _ => none

/-- Only an imaginary part can be added to a real number, or taken from it, and the number has to be a double then. -/
def sum (left right : Shape) : Option Shape :=
  match left, right with
  | .real true, .imaginary | .signedReal true, .imaginary => some .fixed
  | _, _ => none

mutual

/-- A value with its sign and its imaginary part, inside `level` brackets; the text starts with no blank. -/
def value (level : Nat) : Nat → List Char → Option (Shape × List Char)
  | 0, _ => none
  | fuel + 1, cs => do
    let (left, rest) ← term level fuel cs
    match skip (level != 0) rest with
    | c :: after =>
      if c = '+' ∨ c = '-' then
        let (right, rest) ← term level fuel (skip (level != 0) after)
        let shape ← sum left right
        return (shape, rest)
      else return (left, rest)
    | [] => return (left, rest)
  termination_by structural fuel => fuel

/-- A value with at most one sign. -/
def term (level : Nat) : Nat → List Char → Option (Shape × List Char)
  | 0, _ => none
  | fuel + 1, cs =>
    match cs with
    | [] => none
    | c :: rest =>
      if c = '+' ∨ c = '-' then do
        let (shape, rest) ← atom level fuel (skip (level != 0) rest)
        return (← signed shape, rest)
      else atom level fuel cs
  termination_by structural fuel => fuel

def atom (level : Nat) : Nat → List Char → Option (Shape × List Char)
  | 0, _ => none
  | fuel + 1, cs =>
    match cs with
    | '.' :: '.' :: '.' :: rest => some (.fixed, rest)
    | '(' :: rest => do
      if bracketLimit ≤ level then none
      let (found, comma, rest) ← items (level + 1) ')' fuel (skip true rest)
      match found, comma with
      | [one], false => return (one, rest)
      | found, _ => return (tupleShape found, rest)
    | '\x7b' :: rest => do
      if bracketLimit ≤ level then none
      match skip true rest with
      | '\x7d' :: rest => return (.mutable, rest)
      | rest =>
        let (first, after) ← value (level + 1) fuel rest
        if first = .mutable then none
        match skip true after with
        | ':' :: _ => return (.mutable, ← pairs (level + 1) fuel rest)
        | _ =>
          let (found, _, rest) ← items (level + 1) '\x7d' fuel rest
          if found.contains .mutable then none else return (.mutable, rest)
    | cs =>
      match quoteKind? cs with
      | some _ => do
        let (bytes, rest) ← quoted cs
        let rest ← joined (level != 0) bytes rest.length rest
        return (.fixed, rest)
      | none => (word (level != 0) cs).or (number cs)
  termination_by structural fuel => fuel

/-- Values between commas up to a closing bracket, and whether there is a comma among them. -/
def items (level : Nat) (closing : Char) : Nat → List Char → Option (List Shape × Bool × List Char)
  | 0, _ => none
  | fuel + 1, cs =>
    match cs with
    | [] => none
    | c :: rest =>
      if c = closing then some ([], false, rest)
      else do
        let (shape, rest) ← value level fuel cs
        match skip true rest with
        | ',' :: rest =>
          let (others, _, rest) ← items level closing fuel (skip true rest)
          return (shape :: others, true, rest)
        | c :: rest => if c = closing then return ([shape], false, rest) else none
        | [] => none
  termination_by structural fuel => fuel

/-- Keys and values of a dictionary up to its closing brace. -/
def pairs (level : Nat) : Nat → List Char → Option (List Char)
  | 0, _ => none
  | fuel + 1, cs =>
    match cs with
    | '\x7d' :: rest => some rest
    | cs => do
      let (key, rest) ← value level fuel cs
      if key = .mutable then none
      match skip true rest with
      | ':' :: rest =>
        let (_, rest) ← value level fuel (skip true rest)
        match skip true rest with
        | ',' :: rest => pairs level fuel (skip true rest)
        | '\x7d' :: rest => return rest
        | _ => none
      | _ => none
  termination_by structural fuel => fuel

end

/-- Whether nothing follows but the end of the line, blank lines and comments. -/
def endsThere (cs : List Char) : Bool :=
  match cs with
  | [] => true
  | '\n' :: rest => skipLines (rest.length + 1) rest == some []
  | _ => false

/-- Values between commas up to the end of the line. -/
def row : Nat → List Char → Bool
  | 0, _ => false
  | fuel + 1, cs =>
    match value 0 (3 * cs.length + 3) cs with
    | none => false
    | some (_, rest) =>
      match skip false rest with
      | ',' :: rest =>
        let rest := skip false rest
        endsThere rest || row fuel rest
      | rest => endsThere rest

/-- Whether a text is a literal value. -/
def isLiteral (cs : List Char) : Bool :=
  let cs := newlines cs
  !cs.contains '\x00' &&
    match skipLines (cs.length + 1) cs with
    | some cs => row (cs.length + 1) cs
    | none => false

end CodeMetrics.Text.Literal
