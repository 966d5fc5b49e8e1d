import CodeMetrics.Text.Styling
import CodeMetrics.Text.Wrap

/-!
# Styled text on a console

A styled text is a text with stretches that have a style. When it is broken into rows, each row keeps the parts of the
stretches that are on it, and falls into segments between the places where stretches start and end. A style is read only
when a stretch is shown, and only then its faults show.

A console measures a row segment by segment. That can be more than the row takes as a whole, because a joiner at the
end of a segment takes nothing along from the next one. `fit` and `fill` bring a row to a number of columns measured
that way.
-/

namespace CodeMetrics.Text

/-- A stretch of a text that has a style, from one position up to another. -/
structure Stretch where
  start : Nat
  stop : Nat
  /-- The words of the style. -/
  style : List (List Char)
  deriving DecidableEq, Repr

/-- A text and the stretches of it that have styles. -/
structure Styled where
  text : List Char
  stretches : List Stretch
  deriving DecidableEq, Repr

namespace Stretch

/-- Reads the style of a stretch. A style without meaning is passed over; only a colour with a part that is no number is
a fault. -/
def check (s : Stretch) : Except Markup.Fault Unit := do
  let _ ← Markup.Styling.plain.read s.style

/-- The part of a stretch between two positions. -/
def clip (s : Stretch) (start stop : Nat) : Stretch := ⟨max s.start start, min s.stop stop, s.style⟩

def isEmpty (s : Stretch) : Bool := decide (s.stop ≤ s.start)

/-- Whether a stretch starts or ends between two neighbouring characters. -/
def divides (s : Stretch) (before behind : Nat) : Bool :=
  (decide (before < s.start) && decide (s.start ≤ behind)) || (decide (before < s.stop) && decide (s.stop ≤ behind))

end Stretch

/-! ## Rows -/

/-- A row with what is left of the stretches on it. -/
structure StyledRow where
  row : Row
  stretches : List Stretch
  deriving DecidableEq, Repr

/-- What is left of stretches on a row of a text. A row that is the whole text keeps all of them up to where it ends; on
any other row only those are left that have a character on it. -/
def Styled.onRow (t : Styled) (whole : Bool) (row : Row) : StyledRow :=
  if whole then
    if row.stop = t.text.length then ⟨row, t.stretches⟩
    else ⟨row, (t.stretches.filter fun s => decide (s.start < row.stop)).map (·.clip 0 row.stop)⟩
  else ⟨row, (t.stretches.map (·.clip row.start row.stop)).filter (!·.isEmpty)⟩

/-- The rows of a text, each of them shortened in the same way. -/
def Styled.rows (t : Styled) (overflow : Overflow) (limit : Nat) (shorten : Row → Row) : List StyledRow :=
  let rows := Text.rows overflow limit t.text
  let whole := decide (rows.length = 1) && !t.text.contains '\n' && !t.text.contains '\t'
  rows.map fun row => t.onRow whole (shorten row)

/-! ## Segments -/

/-- The segments of a row behind the characters of `part`, which are in reverse and end at the position `before`. -/
def segmentsFrom (stretches : List Stretch) (part : List Char) (before : Nat) : List (Char × Nat) → List (List Char)
  | [] => [part.reverse]
  | (c, place) :: rest =>
    if stretches.any (·.divides before place) then part.reverse :: segmentsFrom stretches [c] place rest
    else segmentsFrom stretches (c :: part) place rest

namespace StyledRow

/-- The parts of a row between the places where stretches start or end. -/
def segments (r : StyledRow) : List (List Char) :=
  match r.row.chars.zip r.row.places with
  | [] => []
  | (c, place) :: rest => segmentsFrom r.stretches [c] place rest

/-- Reads the styles on a row. -/
def check (r : StyledRow) : Except Markup.Fault Unit := r.stretches.forM Stretch.check

end StyledRow

/-- The columns of segments, each measured by itself. -/
def segmentsWidth (segments : List (List Char)) : Nat := segments.foldl (fun acc segment => acc + width segment) 0

/-- The first columns of a row of segments. With the segment that reaches the limit the row ends. -/
def firstColumns : Nat → List (List Char) → List (List Char)
  | _, [] => []
  | limit, segment :: rest =>
    if width segment < limit then segment :: firstColumns (limit - width segment) rest
    else if width segment = limit then [segment]
    else [cut limit (clusters segment)]

/-- A row of segments with at most `limit` columns. -/
def fit (limit : Nat) (segments : List (List Char)) : List (List Char) :=
  if segmentsWidth segments ≤ limit then segments else firstColumns limit segments

/-- A row of segments with `limit` columns, filled up with spaces. -/
def fill (limit : Nat) (segments : List (List Char)) : List (List Char) :=
  fit limit segments ++ [List.replicate (limit - segmentsWidth segments) ' ']

end CodeMetrics.Text
