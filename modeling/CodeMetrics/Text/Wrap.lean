import CodeMetrics.Text.Blank
import CodeMetrics.Text.Width

/-!
# Lines that fit

A text is broken into lines of at most a given number of columns. Lines are filled with as many words as fit, each
word with the blanks behind it; blanks beyond the limit are dropped. A word wider than a line is folded over several
lines or cut short with an ellipsis. Each row knows where in the text its characters come from, so that what is said of
a stretch of the text can be found on its rows.
-/

namespace CodeMetrics.Text

/-- What becomes of a word that is wider than a line. -/
inductive Overflow where
  | fold
  | ellipsis
  deriving DecidableEq, Repr

/-- The columns from one tab stop to the next. -/
def tabSize : Nat := 8

/-- The pieces of a line up to each tab, which is shown as a space, and the number of spaces that widen it to the next
tab stop; `part` is what has been passed since the last tab, in reverse. -/
def tabPieces (column : Nat) (part : List Char) : List Char → List (List Char × Nat)
  | [] => [(part.reverse, 0)]
  | c :: rest =>
    if c = '\t' then
      let piece := (' ' :: part).reverse
      let reached := column + width piece
      let fill := (tabSize - reached % tabSize) % tabSize
      (piece, fill) :: tabPieces (reached + fill) [] rest
    else tabPieces column (c :: part) rest

/-- A line in which each tab is widened to the next tab stop, from its pieces. -/
def widened (pieces : List (List Char × Nat)) : List Char :=
  pieces.flatMap fun (piece, fill) => piece ++ List.replicate fill ' '

/-- The position that each character of a widened line comes from, if the line starts at a position. -/
def sources (position : Nat) : List (List Char × Nat) → List Nat
  | [] => []
  | (piece, fill) :: rest =>
    let next := position + piece.length
    (List.range piece.length).map (position + ·) ++ List.replicate fill (next - 1) ++ sources next rest

theorem length_sources (position : Nat) (pieces : List (List Char × Nat)) :
    (sources position pieces).length = (widened pieces).length := by
  induction pieces generalizing position with
  | nil => rfl
  | cons piece rest ih => simp_all [sources, widened]

/-! ## Words with their blanks -/

/-- The chunks of a line behind the characters of `current`, which are in reverse. `started` says whether they hold a
word, `closed` whether there are blanks behind it. -/
def chunksFrom (current : List Char) (started closed : Bool) : List Char → List (List Char)
  | [] => if started then [current.reverse] else []
  | c :: rest =>
    if isSpace c then chunksFrom (c :: current) started started rest
    else if closed then current.reverse :: chunksFrom [c] true false rest
    else chunksFrom (c :: current) true false rest

/-- The words of a line, each with the blanks behind it and the first one also with those before it. -/
def chunks (line : List Char) : List (List Char) := chunksFrom [] false false line

/-! ## Filling lines -/

/-- Lines on the way: the finished ones, latest first, the one being filled, and its columns. -/
structure Filling where
  done : List (List Char)
  current : List Char
  columns : Nat

namespace Filling

def empty : Filling := ⟨[], [], 0⟩

/-- Starts a new line, unless there is nothing yet. -/
def newLine (f : Filling) (chunk : List Char) : Filling :=
  if f.done.isEmpty && f.current.isEmpty then ⟨[], chunk, width chunk⟩ else ⟨f.current :: f.done, chunk, width chunk⟩

def lines (f : Filling) : List (List Char) := (f.current :: f.done).reverse

end Filling

/-- Rows of clusters of at most `limit` columns; `current` holds those of the row being filled, in reverse. -/
def chopFrom (limit : Nat) (current : List Cluster) (columns : Nat) : List Cluster → List (List Char)
  | [] => if columns = 0 then [] else [current.reverse.flatMap Cluster.chars]
  | k :: rest =>
    if limit < columns + k.width then
      current.reverse.flatMap Cluster.chars :: chopFrom limit [k] k.width rest
    else chopFrom limit (k :: current) (columns + k.width) rest

/-- A word cut into pieces of at most `limit` columns. -/
def chop (limit : Nat) (word : List Char) : List (List Char) := chopFrom limit [] 0 (clusters word)

/-- Puts one more chunk on the lines. Only the word in it has to fit. -/
def place (overflow : Overflow) (limit : Nat) (f : Filling) (chunk : List Char) : Filling :=
  let word := width (trimEnd isSpace chunk)
  if f.columns + word ≤ limit then ⟨f.done, f.current ++ chunk, f.columns + width chunk⟩
  else if limit < word ∧ overflow = .fold then (chop limit chunk).foldl Filling.newLine f
  else f.newLine chunk

/-- The blanks at the end of a line are dropped as far as it is too long. -/
def dropExcess (limit : Nat) (line : List Char) : List Char :=
  let blanks := line.length - (trimEnd isSpace line).length
  line.take (line.length - min blanks (line.length - limit))

/-- The first columns of a row of clusters; half of a character of two columns is a space. -/
def cut : Nat → List Cluster → List Char
  | 0, _ => []
  | _, [] => []
  | n + 1, k :: rest => if k.width ≤ n + 1 then k.chars ++ cut (n + 1 - k.width) rest else [' ']

/-- A line of at most `limit` columns. -/
def crop (overflow : Overflow) (limit : Nat) (line : List Char) : List Char :=
  if width line ≤ limit then line
  else
    match overflow with
    | .fold => cut limit (clusters line)
    | .ellipsis => cut (limit - 1) (clusters line) ++ ['…']

/-- A row of a text that is broken into lines: what it shows, and the position in the text that each character of it
comes from. -/
structure Row where
  chars : List Char
  places : List Nat
  deriving DecidableEq, Repr

namespace Row

/-- The position of the first character. -/
def start (row : Row) : Nat := row.places.headD 0

/-- The position behind the last character. -/
def stop (row : Row) : Nat := (row.places.getLast?.map (· + 1)).getD 0

/-- The first characters of a row. -/
def take (row : Row) (n : Nat) : Row := ⟨row.chars.take n, row.places.take n⟩

/-- A row without the blanks at its end. -/
def trimEnd (row : Row) : Row := row.take (Text.trimEnd isSpace row.chars).length

/-- A row of at most `limit` columns. -/
def crop (overflow : Overflow) (limit : Nat) (row : Row) : Row :=
  let chars := Text.crop overflow limit row.chars
  ⟨chars, row.places.take chars.length⟩

/-- A row with spaces in front of it, which stand where it starts. -/
def indent (row : Row) (spaces : Nat) : Row :=
  ⟨List.replicate spaces ' ' ++ row.chars, List.replicate spaces row.start ++ row.places⟩

/-- A row with spaces behind it, which stand where it ends. -/
def extend (row : Row) (spaces : Nat) : Row :=
  ⟨row.chars ++ List.replicate spaces ' ', row.places ++ List.replicate spaces row.stop⟩

end Row

/-- The rows that the parts of a line show, given where each character of the line comes from. -/
def rowsOf (limit : Nat) : List Nat → List (List Char) → List Row
  | _, [] => []
  | places, part :: rest =>
    let chars := dropExcess limit part
    ⟨chars, places.take chars.length⟩ :: rowsOf limit (places.drop part.length) rest

/-- The rows into which the line at a position is broken. -/
def lineRows (overflow : Overflow) (limit position : Nat) (line : List Char) : List Row :=
  let pieces := tabPieces 0 [] line
  let line := widened pieces
  let parts := match chunks line with
    | [] => [line]
    | found => (found.foldl (place overflow limit) .empty).lines
  rowsOf limit (sources position pieces) parts

/-- The rows of several lines, of which the first one is at a position. -/
def rowsFrom (overflow : Overflow) (limit position : Nat) : List (List Char) → List Row
  | [] => []
  | line :: rest =>
    lineRows overflow limit position line ++ rowsFrom overflow limit (position + line.length + 1) rest

/-- The rows into which a text is broken. What cannot be broken may still be wider than `limit`. -/
def rows (overflow : Overflow) (limit : Nat) (text : List Char) : List Row :=
  rowsFrom overflow limit 0 (text.splitOn '\n')

/-- The columns of the longest line of a text, before tabs are widened. -/
def widest (text : List Char) : Nat := (lines text).foldl (fun acc line => max acc (width line)) 0

end CodeMetrics.Text
