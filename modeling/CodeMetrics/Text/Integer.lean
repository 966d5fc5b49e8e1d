import CodeMetrics.Text.Blank

/-!
# Whole numbers in running text

Decimal digits of every script, and the whole numbers written with them: blanks around, an optional sign, then digits
in which a single `_` may stand between two digits. `readPlainInteger?` takes ASCII digits only, and a fraction of
zeros behind them.
-/

namespace CodeMetrics.Text

/-- The digit zero of each script; the other nine follow it. -/
def zeros : List Nat :=
  [ 0x30, 0x660, 0x6f0, 0x7c0, 0x966, 0x9e6, 0xa66, 0xae6, 0xb66, 0xbe6, 0xc66, 0xce6, 0xd66, 0xde6, 0xe50,
    0xed0, 0xf20, 0x1040, 0x1090, 0x17e0, 0x1810, 0x1946, 0x19d0, 0x1a80, 0x1a90, 0x1b50, 0x1bb0, 0x1c40,
    0x1c50, 0xa620, 0xa8d0, 0xa900, 0xa9d0, 0xa9f0, 0xaa50, 0xabf0, 0xff10, 0x104a0, 0x10d30, 0x11066, 0x110f0,
    0x11136, 0x111d0, 0x112f0, 0x11450, 0x114d0, 0x11650, 0x116c0, 0x11730, 0x118e0, 0x11950, 0x11c50, 0x11d50,
    0x11da0, 0x16a60, 0x16ac0, 0x16b50, 0x1d7ce, 0x1d7d8, 0x1d7e2, 0x1d7ec, 0x1d7f6, 0x1e140, 0x1e2f0, 0x1e950,
    0x1fbf0 ]

/-- The value of a decimal digit of any script. -/
def digit? (c : Char) : Option Nat :=
  (zeros.find? fun z => decide (z ≤ c.toNat) && decide (c.toNat < z + 10)).map (c.toNat - ·)

/-- Each `_` of a row stands between two digits. -/
def separated : List Char → Bool
  | [] => false
  | ['_'] => false
  | [_] => true
  | '_' :: _ => false
  | _ :: '_' :: rest => separated rest
  | _ :: rest => separated rest

/-- The value of a row of digits, continuing from the value `acc` of those before; other characters are passed over. -/
def digitsValue (acc : Nat) : List Char → Nat
  | [] => acc
  | c :: rest => digitsValue (match digit? c with | some v => 10 * acc + v | none => acc) rest

/-- Why a text is no whole number. -/
inductive IntegerFault where
  | malformed
  /-- More digits than are converted. -/
  | tooLong (digits : Nat)
  deriving DecidableEq, Repr

/-- The greatest number of digits that is converted. -/
def digitLimit : Nat := 4300

/-- Reads the digits of a whole number, up to the end of the text. A row of too many digits is refused before what
follows it is looked at. -/
def readDigits (cs : List Char) : Except IntegerFault Nat :=
  let inRow := fun c => c == '_' || (digit? c).isSome
  let row := cs.takeWhile inRow
  let count := (row.filter (· != '_')).length
  if !separated row then .error .malformed
  else if digitLimit < count then .error (.tooLong count)
  else if (cs.dropWhile inRow).isEmpty then .ok (digitsValue 0 row)
  else .error .malformed

/-- Reads a whole number. -/
def readInteger (text : String) : Except IntegerFault Int :=
  match trim text.toList with
  | '-' :: rest => (readDigits rest).map fun n => -(n : Int)
  | '+' :: rest => (readDigits rest).map Int.ofNat
  | cs => (readDigits cs).map Int.ofNat

/-! ## ASCII digits only -/

def isPlainDigit (c : Char) : Bool := decide ('0' ≤ c) && decide (c ≤ '9')

/-- A row of digits with single `_` between them; among leading zeros any number of `_` may stand. -/
def isPlainRow (row : List Char) : Bool :=
  row.all (fun c => c == '_' || isPlainDigit c) &&
    match row with
    | '0' :: _ =>
      let rest := row.dropWhile fun c => c == '0' || c == '_'
      if rest.isEmpty then row.getLast? == some '0' else separated rest
    | _ => separated row

/-- Nothing, or a point with zeros behind it. -/
def isZeroFraction : List Char → Bool
  | [] => true
  | '.' :: zeros => !zeros.isEmpty && zeros.all (· == '0')
  | _ => false

/-- Reads a number that is whole, though it may have a fraction of zeros: `5`, `+1_0`, `5.0`. -/
def readPlainInteger? (text : String) : Option Int :=
  let cs := trim text.toList
  let (negative, body) := match cs with
    | '-' :: rest => (true, rest)
    | '+' :: rest => (false, rest)
    | _ => (false, cs)
  let row := body.takeWhile (· != '.')
  if isPlainRow row && isZeroFraction (body.drop row.length) then
    let n : Int := digitsValue 0 row
    some (if negative then -n else n)
  else none

end CodeMetrics.Text
