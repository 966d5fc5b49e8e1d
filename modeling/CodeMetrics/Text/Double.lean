import CodeMetrics.Number.Binary
import CodeMetrics.Text.Integer

/-!
# Decimal numbers in running text

The doubles that texts stand for: blanks around, an optional sign, then digits of any script with a point among them or
at one of their ends, and perhaps an exponent; a single `_` may stand between two digits. Words for infinity and for no
number at all are spelled in letters of either case.
-/

namespace CodeMetrics.Text

/-- A digit of any script as the ASCII one of the same value. -/
def plainDigit (c : Char) : Char :=
  match digit? c with
  | some v => Char.ofNat (0x30 + v)
  | none => c

/-- A text without each `_` that stands between two digits. -/
def joinDigits : List Char → List Char
  | a :: '_' :: b :: rest =>
    if isPlainDigit a && isPlainDigit b then a :: joinDigits (b :: rest) else a :: '_' :: joinDigits (b :: rest)
  | c :: rest => c :: joinDigits rest
  | [] => []

/-- The words for numbers that are not finite. -/
def doubleWords : List (String × Float) :=
  [("inf", 1.0 / 0.0), ("infinity", 1.0 / 0.0), ("nan", 0.0 / 0.0)]

/-- A text as a word of small letters. -/
def doubleWord? (cs : List Char) : Option Float := doubleWords.lookup (String.ofList (cs.map Char.toLower))

/-- The power of ten that stands behind the digits, up to the end of the text. -/
def exponentOf? (cs : List Char) : Option Int :=
  match cs with
  | [] => some 0
  | e :: rest =>
    let (negative, digits) := match rest with
      | '-' :: digits => (true, digits)
      | '+' :: digits => (false, digits)
      | digits => (false, digits)
    if (e = 'e' ∨ e = 'E') ∧ ¬ digits.isEmpty ∧ digits.all isPlainDigit then
      some (if negative then -(digitsValue 0 digits : Int) else digitsValue 0 digits)
    else none

/-- The double behind the sign. -/
def unsignedDouble? (negative : Bool) (cs : List Char) : Option Float :=
  let whole := cs.takeWhile isPlainDigit
  let behind := cs.drop whole.length
  let places := match behind with
    | '.' :: rest => rest.takeWhile isPlainDigit
    | _ => []
  let rest := match behind with
    | '.' :: rest => rest.drop places.length
    | _ => behind
  if whole.isEmpty && places.isEmpty then (doubleWord? cs).map fun x => if negative then -x else x
  else (exponentOf? rest).map fun e => Number.ofDecimal negative (digitsValue 0 (whole ++ places)) (e - places.length)

/-- Reads a decimal number as the closest double. -/
def readDouble? (text : String) : Option Float :=
  match joinDigits ((trim text.toList).map plainDigit) with
  | '-' :: rest => unsignedDouble? true rest
  | '+' :: rest => unsignedDouble? false rest
  | cs => unsignedDouble? false cs

end CodeMetrics.Text
