/-!
# Blanks and lines

Which characters are blank, and how a text falls into words and lines. `isBlank` holds for the blanks around a number;
`isSpace` adds the four information separators, which divide words as well.
-/

namespace CodeMetrics.Text

/-- The ASCII blanks from tab to carriage return, the space, and the blanks of other scripts. -/
def isBlank (c : Char) : Bool :=
  let n := c.toNat
  (decide (0x9 ≤ n) && decide (n ≤ 0xd)) || n == 0x20
    || n == 0x85 || n == 0xa0 || n == 0x1680 || (decide (0x2000 ≤ n) && decide (n ≤ 0x200a))
    || n == 0x2028 || n == 0x2029 || n == 0x202f || n == 0x205f || n == 0x3000

/-- What divides words. -/
def isSpace (c : Char) : Bool := isBlank c || (decide (0x1c ≤ c.toNat) && decide (c.toNat ≤ 0x1f))

/-- A text without the characters of a class at its end. -/
def trimEnd (p : Char → Bool) (cs : List Char) : List Char := (cs.reverse.dropWhile p).reverse

/-- A text without the characters of a class at its ends. -/
def trimBoth (p : Char → Bool) (cs : List Char) : List Char := trimEnd p (cs.dropWhile p)

/-- A text without the blanks at its ends. -/
def trim (cs : List Char) : List Char := trimBoth isBlank cs

/-- The words of a text after the word `current`, whose characters are in reverse. -/
def wordsFrom (current : List Char) : List Char → List (List Char)
  | [] => if current.isEmpty then [] else [current.reverse]
  | c :: rest =>
    if isSpace c then
      if current.isEmpty then wordsFrom [] rest else current.reverse :: wordsFrom [] rest
    else wordsFrom (c :: current) rest

/-- The words of a text, without what divides them. -/
def words (cs : List Char) : List (List Char) := wordsFrom [] cs

/-- The characters that end a line; a carriage return with a line feed behind it ends one line only. -/
def isLineEnd (c : Char) : Bool :=
  [0xa, 0xb, 0xc, 0xd, 0x1c, 0x1d, 0x1e, 0x85, 0x2028, 0x2029].contains c.toNat

/-- The lines of a text after the line `current`, whose characters are in reverse. -/
def linesFrom (current : List Char) : List Char → List (List Char)
  | [] => if current.isEmpty then [] else [current.reverse]
  | '\r' :: '\n' :: rest => current.reverse :: linesFrom [] rest
  | c :: rest => if isLineEnd c then current.reverse :: linesFrom [] rest else linesFrom (c :: current) rest

/-- The lines of a text. An end of line at the end of the text starts no further line. -/
def lines (cs : List Char) : List (List Char) := linesFrom [] cs

end CodeMetrics.Text
