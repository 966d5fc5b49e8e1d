import CodeMetrics.Text.Alphanumeric

/-!
# Patterns of text

A pattern describes texts: a character of a class, one pattern behind another, a choice, a repetition, and conditions on
where in the text they stand. Matching goes from left to right and keeps the first way that works: of a choice the first
part that does, of a repetition the most turns, or the fewest if it is reluctant. Parts of a pattern may be marked, and
then a match says where they are.

`Pattern.find` lists the matches in a text one behind the other, each with its marked parts.
-/

namespace CodeMetrics.Text

/-- A description of texts. -/
inductive Pattern where
  | nothing
  /-- One character of a class. -/
  | one (allowed : Char → Bool)
  | next (first second : Pattern)
  | either (first second : Pattern)
  /-- A part several times, at least and at most so often. -/
  | repeated (least : Nat) (most : Option Nat) (reluctant : Bool) (part : Pattern)
  | marked (part : Pattern)
  /-- A place with a word on one side only, or no such place. -/
  | wordEdge (there : Bool)
  /-- A place that is not behind a character of a class. -/
  | notBehind (banned : Char → Bool)

namespace Pattern

def sequence (parts : List Pattern) : Pattern := parts.foldr next nothing

/-- A choice between a part and others. -/
def choice (first : Pattern) (others : List Pattern) : Pattern :=
  match others with
  | [] => first
  | second :: rest => either first (choice second rest)

def text (s : String) : Pattern := sequence (s.toList.map fun c => one (· == c))

def anyOf (s : String) : Pattern := one fun c => s.toList.contains c

def times (least most : Nat) (part : Pattern) : Pattern := repeated least (some most) false part

def optional (part : Pattern) : Pattern := times 0 1 part

def many (part : Pattern) : Pattern := repeated 0 none false part

/-- A part at least once. -/
def several (part : Pattern) : Pattern := repeated 1 none false part

/-- A part at least so often, and no more often than needed. -/
def few (least : Nat) (part : Pattern) : Pattern := repeated least none true part

/-! ## Matching -/

/-- A place in a text: the character before it, how many there are before it, and the rest. -/
structure Cursor where
  before : Option Char
  position : Nat
  rest : List Char

namespace Cursor

def start (text : List Char) : Cursor := ⟨none, 0, text⟩

/-- The place behind the next character. -/
def step? (c : Cursor) : Option (Char × Cursor) :=
  match c.rest with
  | [] => none
  | x :: rest => some (x, ⟨some x, c.position + 1, rest⟩)

/-- Whether there is a word on one side only. -/
def isWordEdge (c : Cursor) : Bool := c.before.any isWordChar != c.rest.head?.any isWordChar

end Cursor

/-- The marked parts of a match, from their starts up to their ends, latest first. -/
abbrev Marks := List (Nat × Nat)

/-- How matching goes on from a place. -/
abbrev Continuation := Cursor → Marks → Option (Cursor × Marks)

/-- Repeats a part from the turn `count` on, and then goes on. A turn that takes nothing is no turn. There are at most
`fuel` further turns. -/
def iterate (part : Continuation → Continuation) (least : Nat) (most : Option Nat) (reluctant : Bool)
    (goOn : Continuation) : Nat → Nat → Continuation
  | 0, count, c, marks => if least ≤ count then goOn c marks else none
  | fuel + 1, count, c, marks =>
    let stop := fun (_ : Unit) => if least ≤ count then goOn c marks else none
    let turn := fun (_ : Unit) =>
      if most.all fun n => decide (count < n) then
        part (fun c' marks' =>
          if c'.position = c.position then none
          else iterate part least most reluctant goOn fuel (count + 1) c' marks') c marks
      else none
    if reluctant then (stop ()).orElse turn else (turn ()).orElse stop

/-- Matches a pattern at a place and goes on behind it. -/
def run : Pattern → Continuation → Continuation
  | nothing, goOn, c, marks => goOn c marks
  | one allowed, goOn, c, marks =>
    match c.step? with
    | some (x, c') => if allowed x then goOn c' marks else none
    | none => none
  | next first second, goOn, c, marks => first.run (second.run goOn) c marks
  | either first second, goOn, c, marks => (first.run goOn c marks).orElse fun _ => second.run goOn c marks
  | repeated least most reluctant part, goOn, c, marks =>
    iterate part.run least most reluctant goOn (c.rest.length + 1) 0 c marks
  | marked part, goOn, c, marks =>
    part.run (fun c' marks' => goOn c' ((c.position, c'.position) :: marks')) c marks
  | wordEdge there, goOn, c, marks => if c.isWordEdge == there then goOn c marks else none
  | notBehind banned, goOn, c, marks => if c.before.any banned then none else goOn c marks

/-- The matches of a pattern from a place on; `fuel` is more than the length of what follows. -/
def findFrom (p : Pattern) : Nat → Cursor → List Marks
  | 0, _ => []
  | fuel + 1, c =>
    match p.run (fun c' marks => some (c', marks)) c [] with
    | some (c', marks) =>
      if c.position < c'.position then marks :: findFrom p fuel c'
      else
        match c.step? with
        | some (_, c') => marks :: findFrom p fuel c'
        | none => [marks]
    | none =>
      match c.step? with
      | some (_, c') => findFrom p fuel c'
      | none => []

/-- The marked parts of the matches of a pattern in a text. -/
def find (p : Pattern) (text : List Char) : List Marks := findFrom p (text.length + 1) (.start text)

end Pattern

end CodeMetrics.Text
