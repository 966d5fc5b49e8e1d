import CodeMetrics.Value
import CodeMetrics.Text.Integer

/-!
# Reading JSON

A reader for one JSON text. It accepts the words `NaN`, `Infinity` and `-Infinity` as numbers, skips only space, tab,
line feed and carriage return between tokens, and keeps the longest proper beginning of a number, so that what
follows it is judged on its own.

A failure names its cause and where it stands, measured by the number of characters left from there on; `Failure.line`
turns that into a line number.

## Surrogates

Texts are made of characters, and a surrogate without its partner is none. Where an escape names one, U+FFFD is read in its
place. Texts that differ in such surrogates only are read as the same text here, though they are different texts: what is
said of documents is said of those without such escapes.

## Termination

`value`, `items` and `members` run on fuel. Every second step takes a character off the text, so that twice its length
is enough; `read` supplies that.
-/

namespace CodeMetrics.Json

/-- What the reader missed. -/
inductive Fault where
  | value
  | propertyName
  | colon
  | comma
  | unterminated
  | controlCharacter
  | escape
  | unicodeEscape
  | extraData
  | byteOrderMark
  /-- A whole number of more digits than are converted. -/
  | integerTooLong (digits : Nat)
  deriving DecidableEq, Repr

/-- A cause, and the number of characters from its position to the end of the text. -/
structure Failure where
  fault : Fault
  left : Nat
  deriving DecidableEq, Repr

def Fault.message : Fault → String
  | value => "Expecting value"
  | propertyName => "Expecting property name enclosed in double quotes"
  | colon => "Expecting ':' delimiter"
  | comma => "Expecting ',' delimiter"
  | unterminated => "Unterminated string starting at"
  | controlCharacter => "Invalid control character at"
  | escape => "Invalid \\escape"
  | unicodeEscape => "Invalid \\uXXXX escape"
  | extraData => "Extra data"
  | byteOrderMark => "Unexpected UTF-8 BOM (decode using utf-8-sig)"
  | integerTooLong digits =>
    "Exceeds the limit (4300 digits) for integer string conversion: value has " ++ Number.natText digits
      ++ " digits; use sys.set_int_max_str_digits() to increase the limit"

/-- The line of a failure in the text, counted from 1. -/
def Failure.line (text : List Char) (f : Failure) : Nat :=
  1 + (text.take (text.length - f.left)).count '\n'

/-- A failure that stands before `cs`. -/
def fail {α : Type} (fault : Fault) (cs : List Char) : Except Failure α := .error ⟨fault, cs.length⟩

def isSpace (c : Char) : Bool := c == ' ' || c == '\t' || c == '\n' || c == '\r'

def skipSpace (cs : List Char) : List Char := cs.dropWhile isSpace

def isDigit (c : Char) : Bool := decide (0x30 ≤ c.toNat) && decide (c.toNat ≤ 0x39)

/-- The value of a row of decimal digits. -/
def digitsNat (cs : List Char) : Nat := cs.foldl (fun acc c => 10 * acc + (c.toNat - 0x30)) 0

/-! ## Strings -/

def hexValue? (c : Char) : Option Nat :=
  let n := c.toNat
  if 0x30 ≤ n ∧ n ≤ 0x39 then some (n - 0x30)
  else if 0x61 ≤ n ∧ n ≤ 0x66 then some (n - 0x61 + 10)
  else if 0x41 ≤ n ∧ n ≤ 0x46 then some (n - 0x41 + 10)
  else none

/-- The number that four hexadecimal digits write. -/
def hex4? (a b c d : Char) : Option Nat := do
  let a ← hexValue? a
  let b ← hexValue? b
  let c ← hexValue? c
  let d ← hexValue? d
  return ((a * 16 + b) * 16 + c) * 16 + d

def isHighSurrogate (n : Nat) : Bool := decide (0xd800 ≤ n) && decide (n ≤ 0xdbff)

def isLowSurrogate (n : Nat) : Bool := decide (0xdc00 ≤ n) && decide (n ≤ 0xdfff)

/-- The character that two surrogates stand for. -/
def joinSurrogates (high low : Nat) : Char := Char.ofNat (0x10000 + (high - 0xd800) * 0x400 + (low - 0xdc00))

/-- The characters of a row of code points, in which two surrogates stand for one character. A surrogate without its
partner is replaced. -/
def joinUnits : List Nat → List Char
  | [] => []
  | [n] => [if isHighSurrogate n || isLowSurrogate n then '\ufffd' else Char.ofNat n]
  | n :: m :: rest =>
    if isHighSurrogate n then
      if isLowSurrogate m then joinSurrogates n m :: joinUnits rest else '\ufffd' :: joinUnits (m :: rest)
    else (if isLowSurrogate n then '\ufffd' else Char.ofNat n) :: joinUnits (m :: rest)

/-- The character that a one-letter escape stands for. -/
def shortEscape? (c : Char) : Option Char :=
  match c with
  | '"' => some '"'
  | '\\' => some '\\'
  | '/' => some '/'
  | 'b' => some '\x08'
  | 'f' => some '\x0c'
  | 'n' => some '\n'
  | 'r' => some '\r'
  | 't' => some '\t'
  | _ => none

/-- Puts a code point before those that have been read. -/
def prepend (n : Nat) : List Nat × List Char → List Nat × List Char
  | (units, rest) => (n :: units, rest)

/-- The code points of a string after its opening quote, and what follows the closing quote; `opening` is the text from
the opening quote on. -/
def stringUnits (opening : List Char) : List Char → Except Failure (List Nat × List Char)
  | [] => fail .unterminated opening
  | c :: rest =>
    if c = '"' then .ok ([], rest)
    else if c = '\\' then
      match rest with
      | [] => fail .unterminated opening
      | 'u' :: h1 :: h2 :: h3 :: h4 :: tail =>
        match hex4? h1 h2 h3 h4 with
        | none => fail .unicodeEscape rest
        | some n =>
          -- the closing quote must still fit
          if tail.isEmpty then fail .unicodeEscape rest else (stringUnits opening tail).map (prepend n)
      | 'u' :: _ => fail .unicodeEscape rest
      | e :: tail =>
        match shortEscape? e with
        | some x => (stringUnits opening tail).map (prepend x.toNat)
        | none => fail .escape (c :: rest)
    else if c.toNat < 0x20 then fail .controlCharacter (c :: rest)
    else (stringUnits opening rest).map (prepend c.toNat)

/-- A string after its opening quote, and what follows the closing one. -/
def string (opening cs : List Char) : Except Failure (String × List Char) :=
  (stringUnits opening cs).map fun (units, rest) => (String.ofList (joinUnits units), rest)

/-! ## Numbers and words -/

/-- The words that stand for a value. -/
def words : List (List Char × Value) :=
  [ ("null".toList, .null)
  , ("true".toList, .bool true)
  , ("false".toList, .bool false)
  , ("NaN".toList, .float (0.0 / 0.0))
  , ("Infinity".toList, .float (1.0 / 0.0))
  , ("-Infinity".toList, .float (-1.0 / 0.0)) ]

/-- A word at the head of the text. -/
def word? (cs : List Char) : Option (Value × List Char) :=
  (words.find? fun (w, _) => w.isPrefixOf cs).map fun (w, v) => (v, cs.drop w.length)

/-- The digits after a point, if there is a point with a digit behind it. -/
def fraction (cs : List Char) : List Char × List Char :=
  match cs with
  | '.' :: rest =>
    if (rest.takeWhile isDigit).isEmpty then ([], cs) else (rest.takeWhile isDigit, rest.dropWhile isDigit)
  | _ => ([], cs)

/-- The exponent after an `e`, if the `e` has digits behind it, perhaps with a sign. -/
def exponent (cs : List Char) : Option (Bool × List Char) × List Char :=
  match cs with
  | e :: rest =>
    if e = 'e' ∨ e = 'E' then
      let (negative, digits) := match rest with
        | '-' :: r => (true, r)
        | '+' :: r => (false, r)
        | r => (false, r)
      if (digits.takeWhile isDigit).isEmpty then (none, cs)
      else (some (negative, digits.takeWhile isDigit), digits.dropWhile isDigit)
    else (none, cs)
  | [] => (none, cs)

/-- The power of ten of an exponent. -/
def exponentValue : Option (Bool × List Char) → Int
  | none => 0
  | some (negative, digits) => if negative then -(digitsNat digits : Int) else digitsNat digits

/-- A number: without point and exponent a whole one, otherwise the closest double. -/
def number (cs : List Char) : Except Failure (Value × List Char) :=
  let (negative, body) := match cs with
    | '-' :: rest => (true, rest)
    | _ => (false, cs)
  let whole := match body with
    | '0' :: _ => ['0']
    | _ => body.takeWhile isDigit
  if whole.isEmpty then fail .value cs
  else
    let (places, afterPoint) := fraction (body.drop whole.length)
    let (power, rest) := exponent afterPoint
    if places.isEmpty && power.isNone then
      if Text.digitLimit < whole.length then fail (.integerTooLong whole.length) cs
      else
        let n : Int := digitsNat whole
        .ok (.int (if negative then -n else n), rest)
    else
      .ok (.float (Number.ofDecimal negative (digitsNat (whole ++ places)) (exponentValue power - places.length)), rest)

/-! ## Values -/

mutual

/-- One value at the head of the text. -/
def value : Nat → List Char → Except Failure (Value × List Char)
  | 0, cs => fail .value cs
  | fuel + 1, cs =>
    match cs with
    | [] => fail .value cs
    | c :: rest =>
      if c = '"' then do
        let (s, rest) ← string cs rest
        return (.str s, rest)
      else if c = '[' then
        match skipSpace rest with
        | ']' :: rest => .ok (.list [], rest)
        | rest => do
          let (vs, rest) ← items fuel rest
          return (.list vs, rest)
      else if c = '\x7b' then
        match skipSpace rest with
        | '\x7d' :: rest => .ok (.object [], rest)
        | rest => do
          let (fields, rest) ← members fuel [] rest
          return (.object fields, rest)
      else
        match word? cs with
        | some found => .ok found
        | none => number cs

/-- The items of a list that is not empty, up to its closing bracket. -/
def items : Nat → List Char → Except Failure (List Value × List Char)
  | 0, cs => fail .value cs
  | fuel + 1, cs => do
    let (v, rest) ← value fuel cs
    match skipSpace rest with
    | ']' :: rest => return ([v], rest)
    | ',' :: rest =>
      let (vs, rest) ← items fuel (skipSpace rest)
      return (v :: vs, rest)
    | rest => fail .comma rest

/-- The members of an object that is not empty, up to its closing brace, written over the fields before them. -/
def members : Nat → List (String × Value) → List Char → Except Failure (List (String × Value) × List Char)
  | 0, _, cs => fail .propertyName cs
  | fuel + 1, fields, cs =>
    match cs with
    | '"' :: rest => do
      let (k, rest) ← string cs rest
      match skipSpace rest with
      | ':' :: rest =>
        let (v, rest) ← value fuel (skipSpace rest)
        let fields := Fields.insert fields k v
        match skipSpace rest with
        | '\x7d' :: rest => return (fields, rest)
        | ',' :: rest => members fuel fields (skipSpace rest)
        | rest => fail .comma rest
      | rest => fail .colon rest
    | _ => fail .propertyName cs

end

/-- Reads a text that holds one value. -/
def read (text : List Char) : Except Failure Value :=
  match text with
  | '\ufeff' :: _ => fail .byteOrderMark text
  | _ => do
    let (v, rest) ← value (2 * text.length + 2) (skipSpace text)
    match skipSpace rest with
    | [] => return v
    | rest => fail .extraData rest

end CodeMetrics.Json
