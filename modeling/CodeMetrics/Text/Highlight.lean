import CodeMetrics.Text.Integer
import CodeMetrics.Text.Pattern
import CodeMetrics.Text.Styled

/-!
# What a console highlights

A console sets off parts of a message by themselves: tags in angle brackets, attributes with their values, brackets,
numbers, addresses, truth values, quoted texts, paths and the like. They have colours of their own, which are always
there, so that nothing can be wrong with them; what shows is that a row falls into segments at their ends.

A segment is measured like any other text unless a joiner or a selector stands at its end, so only a text with one of
these has to be looked through.
-/

namespace CodeMetrics.Text.Highlight

open Pattern

def word : Pattern := one isWordChar

def digit : Pattern := one isPlainDigit

def hexDigit : Pattern := one fun c =>
  isPlainDigit c || (decide ('a' ≤ c) && decide (c ≤ 'f')) || (decide ('A' ≤ c) && decide (c ≤ 'F'))

/-- A decimal digit of any script. -/
def anyDigit : Pattern := one fun c => (digit? c).isSome

/-- A character of a class on the same line. -/
def onLine : Pattern := one (· != '\n')

/-! ## Tags, attributes and brackets -/

def tag : Pattern :=
  sequence
    [ marked (text "<"), marked (many (one fun c => isWordChar c || "-.:|".toList.contains c))
    , marked (many (one fun _ => true)), marked (text ">") ]

def quoteMark : Pattern := text "\""

def namedValue : Pattern :=
  sequence
    [ marked (times 1 50 word), text "="
    , optional (marked (sequence [optional quoteMark, several word, optional quoteMark])) ]

def bracket : Pattern := marked (anyOf "[]\x7b\x7d()")

/-! ## Addresses -/

def address4 : Pattern :=
  let part := times 1 3 digit
  marked (sequence [part, text ".", part, text ".", part, text ".", part])

def address6 : Pattern :=
  let group := times 1 4 hexDigit
  marked (sequence [times 1 7 (sequence [group, text ":", optional (text ":")]), group])

/-- A hardware address of pairs of digits, `more` behind the first one, or of half as many groups of four. -/
def hardwareAddress (more : Nat) : Pattern :=
  let pair := times 1 2 hexDigit
  let group := times 4 4 hexDigit
  let joined := fun (count : Nat) (part : Pattern) (mark : String) =>
    sequence [times count count (sequence [part, text mark]), part]
  marked (choice (joined more pair "-") [joined more pair ":", joined ((more - 1) / 2) group "."])

def uniqueNumber : Pattern :=
  let group := times 4 4 hexDigit
  marked (sequence
    [ times 8 8 hexDigit, text "-", group, text "-", group, text "-", group, text "-", times 12 12 hexDigit ])

def url : Pattern :=
  let isUrlChar := fun c =>
    isPlainDigit c || c.isAlpha || "-$_+!`(),.?/;:&=%#~@".toList.contains c
  marked (sequence
    [choice (text "file") [text "https", text "http", text "ws", text "wss"], text "://", many (one isUrlChar)])

/-! ## Values -/

def call : Pattern := sequence [marked (few 0 (one fun c => isWordChar c || c == '.')), text "("]

def constant (name : String) : Pattern := sequence [wordEdge true, marked (text name), wordEdge true]

def ellipsis : Pattern := marked (text "...")

def sign : Pattern := anyOf "-+"

/-- Digits that may have a point among them. -/
def decimal : Pattern := sequence [several digit, optional (text "."), many digit]

def reluctantExponent : Pattern := optional (sequence [text "e", optional sign, few 1 anyDigit])

def exponent : Pattern := optional (sequence [text "e", optional sign, several anyDigit])

def complexNumber : Pattern :=
  marked (sequence
    [ notBehind isWordChar, optional (text "-"), decimal, reluctantExponent
    , optional (sequence [sign, decimal, exponent]), text "j" ])

def number : Pattern :=
  marked (choice
    (sequence [notBehind isWordChar, optional (text "-"), decimal, reluctantExponent, wordEdge true])
    [sequence [text "0x", many hexDigit]])

def path : Pattern :=
  let pathChar := one fun c => isWordChar c || "-._+".toList.contains c
  sequence
    [ marked (sequence [wordEdge false, many (sequence [text "/", several pathChar]), text "/"])
    , optional (marked (many pathChar)) ]

/-- A text between quote marks, of which the last one is not behind a backslash. -/
def quotedBy (mark : String) : Pattern :=
  sequence [optional (text "b"), text mark, few 0 onLine, notBehind (· == '\\'), text mark]

def quoted : Pattern :=
  sequence
    [ notBehind fun c => c == '\\' || isWordChar c
    , marked (choice (quotedBy "'''") [quotedBy "'", quotedBy "\"\"\"", quotedBy "\""]) ]

/-- What is looked for, one after the other. -/
def patterns : List Pattern :=
  [ tag, namedValue, bracket
  , choice address4
      [ address6, hardwareAddress 7, hardwareAddress 5, uniqueNumber, call, constant "True", constant "False"
      , constant "None", ellipsis, complexNumber, number, path, quoted, url ] ]

/-- The stretches of a text that a console sets off. -/
def stretches (cs : List Char) : List Stretch :=
  let marks := patterns.flatMap fun p => (p.find cs).flatten
  (marks.filter fun (start, stop) => decide (start < stop)).map fun (start, stop) => ⟨start, stop, []⟩

end Highlight

/-- Whether a character reaches over to its neighbours when columns are counted. -/
def isReaching (c : Char) : Bool := c == joiner || c == selector

/-- A styled text with what a console sets off, as far as that can show. -/
def Styled.highlighted (t : Styled) : Styled :=
  if t.text.any isReaching then { t with stretches := Highlight.stretches t.text ++ t.stretches } else t

end CodeMetrics.Text
