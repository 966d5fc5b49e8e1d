import CodeMetrics.Report.Json
import CodeMetrics.Text.Markup
import CodeMetrics.Text.Wrap

/-!
# Reports as tables

One row for each file, followed by one row for each of its functions. With several files every row starts with the
path. Cells are markup: names are escaped, and the maintainability index is coloured by its score.

`Table.render` draws a table with its markup interpreted. A column is as wide as its widest line, with a space on both
sides; tabs take no room then, so that widening them may break a line in two. If the table is wider than the console, the
widest columns are made narrower. A column in which there is no room beside the spaces is left blank, and what is still
too wide is cut off at the edge of the console.
-/

namespace CodeMetrics

open Number

inductive Justify where
  | left
  | right
  deriving DecidableEq, Repr

def Justify.text : Justify → String
  | left => "left"
  | right => "right"

structure Column where
  header : String
  justify : Justify
  deriving DecidableEq, Repr

/-- A table whose cells are markup. -/
structure Table where
  title : String
  columns : List Column
  rows : List (List String)
  deriving DecidableEq, Repr

namespace Report

/-- The columns that every report has. -/
def columns : List Column :=
  [ ⟨"Scope", .left⟩, ⟨"Name", .left⟩, ⟨"Type", .left⟩, ⟨"Lines", .right⟩, ⟨"LOC", .right⟩, ⟨"Complexity", .right⟩
  , ⟨"Maintainability", .right⟩, ⟨"Classes", .right⟩, ⟨"Methods", .right⟩, ⟨"Avg Complexity", .right⟩
  , ⟨"Inheritance Depth", .right⟩ ]

/-- The colour of a maintainability index. -/
def colour (score : Num) : String :=
  if (Num.int 60).le score then "green" else if (Num.int 40).le score then "yellow" else "red"

/-- What is wrong with a text where decimal places are asked for: their number comes first. -/
def notDecimal (decimals : Num) (kind : String) : Rejection :=
  match decimals with
  | .int places => if places < 0 then .missingPrecision else .formatCode kind
  | decimals =>
    match decimals.text.toList with
    | c :: _ => if Json.isDigit c then .formatSpecifier decimals kind else .missingPrecision
    | [] => .missingPrecision

/-- A score with the decimal places of the settings, which have to be a natural number. -/
def scoreText (settings : Settings) (score : Value) : Except Error String :=
  match score.num?, score, settings.decimals with
  | some x, _, .int places =>
    if places < 0 then .error (.rejected .missingPrecision)
    else
      match x.toFloat? with
      | some x => .ok (fixed places.toNat x)
      | none => .error .overflow
  | some _, score, decimals => .error (.rejected (notDecimal decimals score.kindName))
  | none, .str _, decimals => .error (.rejected (notDecimal decimals score.kindName))
  | none, _, _ => .error (.mismatch .notNumber)

def maintainabilityCell (settings : Settings) (score : Value) : Except Error String := do
  match score.num? with
  | some x =>
    let text ← scoreText settings score
    return "[" ++ colour x ++ "]" ++ text ++ "[/" ++ colour x ++ "]"
  | none => throw (.mismatch (.notOrdered ">=" score.kindName "int"))

/-- A name as a cell; it has to be a text. -/
def nameCell (name : Value) : Except Error String :=
  match name with
  | .str s => .ok (Text.Markup.escape s)
  | _ => .error (.mismatch .notText)

/-- A value as it stands, if it can be written out. -/
def plainCell (v : Value) : Except Error String :=
  if v.isWritable then .ok v.text else .error (.rejected .unwritable)

def fileRow (settings : Settings) (file : AnalyzedFile) : Except Error (List String) := do
  let m := file.analysis.metrics
  let name ← nameCell file.path
  let lines ← plainCell m.linesOfCode
  let complexity ← plainCell m.cyclomaticComplexity
  let maintainability ← maintainabilityCell settings m.maintainabilityIndex
  let classes ← plainCell m.classCount
  let methods ← plainCell m.methodCount
  let average ← scoreText settings m.averageMethodComplexity
  let depth ← plainCell m.depthOfInheritance
  return ["file", name, "-", "-", lines, complexity, maintainability, classes, methods, average, depth]

def functionRow (settings : Settings) (u : CodeUnit Value Value Value) : Except Error (List String) := do
  let m := u.metrics
  let name ← nameCell u.name
  let first ← plainCell u.startLine
  let last ← plainCell u.endLine
  let lines ← plainCell m.linesOfCode
  let complexity ← plainCell m.cyclomaticComplexity
  let maintainability ← maintainabilityCell settings m.maintainabilityIndex
  let methods ← plainCell m.methodCount
  let average ← scoreText settings m.averageMethodComplexity
  return [ "function", name, u.kind.text, first ++ "-" ++ last, lines, complexity, maintainability, "-", methods
         , average, "-" ]

/-- The rows of one file, each with the path in front if there are several files. -/
def fileRows (settings : Settings) (several : Bool) (file : AnalyzedFile) : Except Error (List (List String)) := do
  let lead ← if several then (nameCell file.path).map ([·]) else .ok []
  let first ← fileRow settings file
  let others ←
    if settings.includeFunctions.truthy then file.analysis.units.mapM (functionRow settings) else .ok []
  return (first :: others).map (lead ++ ·)

/-- The report of several files as a table. -/
def table (settings : Settings) (files : List AnalyzedFile) : Except Error Table := do
  let several := decide (1 < files.length)
  let rows ← files.mapM (fileRows settings several)
  return {
    title := "Code Quality Metrics"
    columns := (if several then [⟨"File", .left⟩] else []) ++ columns
    rows := rows.flatten }

end Report

/-! ## Columns -/

namespace Table

/-- The quotient of two natural numbers, rounded to the nearest; a half goes to the even neighbour. -/
def roundedQuotient (a b : Nat) : Nat :=
  let q := a / b
  if 2 * (a % b) < b ∨ (2 * (a % b) = b ∧ q % 2 = 0) then q else q + 1

/-- Takes `excess` columns off those widths that are marked, in `shares` equal shares; `most` says how many columns a
width can lose. -/
def shrink (excess shares : Nat) (most : Nat → Nat) : List (Nat × Bool) → List Nat
  | [] => []
  | (width, marked) :: rest =>
    if marked ∧ 0 < shares then
      let share := min (most width) (roundedQuotient excess shares)
      (width - share) :: shrink (excess - share) (shares - 1) most rest
    else width :: shrink excess shares most rest

/-- Takes columns off marked widths. -/
def shrinkMarked (excess : Nat) (most : Nat → Nat) (widths : List (Nat × Bool)) : List Nat :=
  shrink excess (widths.countP (·.2)) most widths

def total (widths : List Nat) : Nat := widths.foldl (· + ·) 0

/-- Makes the widest columns as narrow as the next narrower ones, until all fit into `limit` or are equal; `fuel` is at
least the number of columns too many. -/
def narrow (limit : Nat) : Nat → List Nat → List Nat
  | 0, widths => widths
  | fuel + 1, widths =>
    let excess := total widths - limit
    let widest := widths.foldl max 0
    let next := (widths.filter (· != widest)).foldl max 0
    if excess = 0 ∨ widest = next then widths
    else
      narrow limit fuel
        (shrinkMarked excess (fun _ => min excess (widest - next)) (widths.map fun w => (w, w == widest)))

/-- Column widths that fit into `limit` together, as far as that is possible. -/
def fitWidths (limit : Nat) (widths : List Nat) : List Nat :=
  let narrowed := narrow limit (total widths - limit) widths
  let excess := total narrowed - limit
  if excess = 0 then narrowed else shrinkMarked excess id (narrowed.map (·, true))

/-! ## Drawing -/

/-- The columns that a cell takes beside its text, one on each side. -/
def padding : Nat := 2

/-- A cell with its markup interpreted. Where there is room for nothing, cells are not looked at. -/
def cellText (limit : Nat) (cell : String) : Except Error Text.Styled :=
  if limit ≤ padding then .ok ⟨[], []⟩ else (Text.Markup.interpret cell).mapError Error.ofMarkup

/-- The width of a column: that of its widest line and the spaces beside it, but not more than there is. -/
def columnWidth (limit : Nat) (header : List Char) (cells : List Text.Styled) : Nat :=
  min limit (cells.foldl (fun acc cell => max acc (Text.widest cell.text)) (Text.widest header) + padding)

/-- The widths of columns that have `limit` columns of the console together. -/
def columnWidths (limit : Nat) (headers : List (List Char)) (columns : List (List Text.Styled)) : List Nat :=
  fitWidths limit ((headers.zip columns).map fun (header, cells) => columnWidth limit header cells)

/-- A row of a cell with spaces behind it, or in front of it, up to a width. -/
def justified (justify : Justify) (width : Nat) (r : Text.StyledRow) : Text.StyledRow :=
  let spaces := width - Text.width r.row.chars
  match justify with
  | .left => { r with row := r.row.extend spaces }
  | .right => { r with row := r.row.indent spaces }

/-- How a row of a cell is shortened: blanks at its end are dropped if it is put to the right. -/
def shortened (justify : Justify) (width : Nat) (row : Text.Row) : Text.Row :=
  match justify with
  | .left => row.crop .ellipsis width
  | .right => row.trimEnd.crop .ellipsis width

/-! A line that is drawn is a row of segments, each of them measured by itself. -/

/-- A row of segments with a space on both sides, in a column of a width. -/
def padded (width : Nat) (segments : List (List Char)) : List (List Char) :=
  Text.fill width ([' '] :: Text.fill (width - padding) segments ++ [[' ']])

/-- The lines of a cell, each as wide as its column. -/
def cellLines (justify : Justify) (width : Nat) (cell : Text.Styled) : Except Error (List (List (List Char))) := do
  if width ≤ padding then return []
  let room := width - padding
  let rows := cell.rows .ellipsis room (shortened justify room)
  (rows.forM Text.StyledRow.check).mapError Error.ofMarkup
  return rows.map fun r => padded width (justified justify room r).segments

/-- The characters of a horizontal rule: its two ends, its crossings and what runs between them. -/
structure Rule where
  first : Char
  run : Char
  crossing : Char
  last : Char

def Rule.draw (rule : Rule) (widths : List Nat) : List (List Char) :=
  let parts := widths.map fun width => List.replicate width rule.run
  [rule.first :: [rule.crossing].intercalate parts ++ [rule.last]]

def topRule : Rule := ⟨'┏', '━', '┳', '┓'⟩

def headRule : Rule := ⟨'┡', '━', '╇', '┩'⟩

def bottomRule : Rule := ⟨'└', '─', '┴', '┘'⟩

/-- One line of cells between vertical bars. -/
def drawLine (bar : Char) (cells : List (List (List Char))) : List (List Char) :=
  [bar] :: [[bar]].intercalate cells ++ [[bar]]

/-- The lines of a cell in a row that is `height` lines high; `low` cells stand on its last line. -/
def stacked (low : Bool) (height width : Nat) (lines : List (List (List Char))) : List (List (List Char)) :=
  let blank := List.replicate (height - lines.length) [List.replicate width ' ']
  if low then blank ++ lines else lines ++ blank

/-- A row of cells, as many lines high as its highest cell, but at least one. -/
def drawRow (bar : Char) (low : Bool) (layout : List (Justify × Nat)) (cells : List Text.Styled) :
    Except Error (List (List (List Char))) := do
  let cells ← (layout.zip cells).mapM fun ((justify, width), cell) => return (width, ← cellLines justify width cell)
  let height := cells.foldl (fun acc (_, lines) => max acc lines.length) 1
  let parts := cells.map fun (width, lines) => stacked low height width lines
  return (List.range height).map fun i => drawLine bar (parts.map fun lines => lines.getD i [])

/-- The lines of a title in the middle of the table's width. -/
def drawTitle (width : Nat) (title : List Char) : List (List (List Char)) :=
  (Text.rows .fold width title).map fun row =>
    let line := (row.trimEnd.crop .fold width).chars
    let left := (width - Text.width line) / 2
    [List.replicate left ' ' ++ line ++ List.replicate (width - left - Text.width line) ' ']

/-- The text of a table on a console of a width. Every column of the table is followed by a bar, and the first one is
behind another bar. Markup is interpreted column by column. -/
def render (console : Nat) (t : Table) : Except Error String := do
  let bars := t.columns.length + 1
  let limit := console - bars
  let headers := t.columns.map (·.header.toList)
  let columns ← headers.zipIdx.mapM fun (_, i) => t.rows.mapM fun row => cellText limit (row.getD i "")
  let widths := columnWidths limit headers columns
  let layout := (t.columns.map (·.justify)).zip widths
  let head ← drawRow '┃' true layout (headers.map (⟨·, []⟩))
  let body ← (List.range t.rows.length).mapM fun i =>
    drawRow '│' false layout (columns.map fun cells => cells.getD i ⟨[], []⟩)
  let lines := drawTitle (total widths + bars) t.title.toList ++ topRule.draw widths :: head
    ++ headRule.draw widths :: body.flatten ++ [bottomRule.draw widths]
  let text := lines.flatMap fun line => (Text.fit console line).flatten ++ ['\n']
  return if console = 0 then "" else String.ofList text

end Table

/-! ## Formats -/

/-- How results are written out. -/
inductive Format where
  | json
  | table
  deriving DecidableEq, Repr

/-- The format of a name. A list or an object cannot be one. -/
def Format.of (name : Value) : Except Error Format :=
  match name with
  | .str "json" => .ok .json
  | .str "table" => .ok .table
  | .list _ | .object _ => .error (.mismatch .unhashable)
  | name => .error (.rejected (.unknownFormat name.text))

/-- The columns of a table that is not printed. -/
def pageWidth : Nat := 200

/-- The report in a format. -/
def Format.text (format : Format) (settings : Settings) (files : List AnalyzedFile) : Except Error String :=
  match format with
  | .json => Report.json settings files
  | .table => do (← Report.table settings files).render pageWidth

/-- The report as it is printed on a console of a width: JSON ends with a line feed, a table has one already. -/
def Format.printed (format : Format) (console : Nat) (settings : Settings) (files : List AnalyzedFile) :
    Except Error String :=
  match format with
  | .json => do return (← Report.json settings files) ++ "\n"
  | .table => do (← Report.table settings files).render console

end CodeMetrics
