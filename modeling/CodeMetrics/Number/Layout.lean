import CodeMetrics.Number.Shortest

/-!
# Number text

How a number is laid out as text. A `Style` holds the decisions of one format: which scales are written
positionally, whether a whole number keeps a `.0`, how the exponent is written, and the words for what is not finite.
The digits are always those of the shortest decimal.

`Style.report` is the form of numbers in messages and values, `Style.json` the same with JSON's words, and
`Style.operand` the spelling of numeric literals as operands. `fixed` writes a given number of decimal places.
-/

namespace CodeMetrics.Number

/-- The decisions of a number format. -/
structure Style where
  /-- The least and the greatest scale `n` of `0.d₁d₂… · 10^n` that is written positionally. -/
  leastScale : Int
  greatestScale : Int
  /-- Whether a whole number is written with `.0`. -/
  wholePoint : Bool
  /-- The least number of digits of an exponent. -/
  exponentDigits : Nat
  /-- Whether a negative zero keeps its sign. -/
  signedZero : Bool
  nan : String
  infinity : String

/-- Positional from `1e-4` up to below `1e16`, whole numbers with `.0`, exponents of two digits at least. -/
def Style.report : Style :=
  { leastScale := -3, greatestScale := 16, wholePoint := true, exponentDigits := 2, signedZero := true
    nan := "nan", infinity := "inf" }

def Style.json : Style := { Style.report with nan := "NaN", infinity := "Infinity" }

/-- Positional from `1e-6` up to below `1e21`, whole numbers without a point, zero without a sign. -/
def Style.operand : Style :=
  { leastScale := -5, greatestScale := 21, wholePoint := false, exponentDigits := 1, signedZero := false
    nan := "NaN", infinity := "Infinity" }

/-- The decimal text of a natural number. -/
def natText (n : Nat) : String := String.ofList (Nat.toDigits 10 n)

/-- The decimal text of an integer. -/
def intText (n : Int) : String := if n < 0 then "-" ++ natText n.natAbs else natText n.natAbs

/-- Digits padded with zeros on the left to a width. -/
def padLeft (width : Nat) (digits : List Char) : List Char :=
  List.replicate (width - digits.length) '0' ++ digits

/-- The decimal `0.digits · 10^n` written out with a point or as a whole number. -/
def Style.positional (style : Style) (digits : List Char) (n : Int) : List Char :=
  if n ≤ 0 then '0' :: '.' :: (List.replicate (-n).toNat '0' ++ digits)
  else if (digits.length : Int) ≤ n then
    digits ++ List.replicate (n.toNat - digits.length) '0' ++ (if style.wholePoint then ['.', '0'] else [])
  else digits.take n.toNat ++ '.' :: digits.drop n.toNat

/-- The decimal `0.digits · 10^n` written with an exponent, which is `n - 1`. -/
def Style.exponential (style : Style) (digits : List Char) (n : Int) : List Char :=
  let e := n - 1
  let mantissa := match digits with
    | [] => []
    | [d] => [d]
    | d :: rest => d :: '.' :: rest
  mantissa ++ 'e' :: (if e < 0 then '-' else '+')
    :: padLeft style.exponentDigits (Nat.toDigits 10 e.natAbs)

/-- The text of a positive decimal. -/
def Style.decimal (style : Style) (d : Decimal) : List Char :=
  if style.leastScale ≤ d.scale ∧ d.scale ≤ style.greatestScale then style.positional d.digits d.scale
  else style.exponential d.digits d.scale

/-- A text with a minus sign in front of it, if it is negative. -/
def signed (negative : Bool) (text : String) : String := if negative then "-" ++ text else text

/-- The text of a double. -/
def Style.text (style : Style) (x : Float) : String :=
  match Binary.ofFloat x with
  | .nan => style.nan
  | .infinite negative => signed negative style.infinity
  | .finite negative m q =>
    if m = 0 then signed (negative && style.signedZero) (if style.wholePoint then "0.0" else "0")
    else signed negative (String.ofList (style.decimal (shortest m q)))

/-- The product of `m · 2^q` and `10^places`, rounded to a whole number, an exact half going to the even one. -/
def roundPlaces (places : Nat) (m : Nat) (q : Int) : Nat :=
  if 0 ≤ q then m * pow2 q.toNat * pow10 places else roundHalfEven (m * pow10 places) (pow2 (-q).toNat)

/-- A double with a fixed number of decimal places, rounded from its exact value. -/
def fixed (places : Nat) (x : Float) : String :=
  match Binary.ofFloat x with
  | .nan => "nan"
  | .infinite negative => signed negative "inf"
  | .finite negative m q =>
    let digits := padLeft (places + 1) (Nat.toDigits 10 (roundPlaces places m q))
    let whole := digits.take (digits.length - places)
    let tail := digits.drop (digits.length - places)
    signed negative (String.ofList (if places = 0 then whole else whole ++ '.' :: tail))

end CodeMetrics.Number
