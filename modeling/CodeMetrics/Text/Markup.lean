import CodeMetrics.Text.Alphanumeric
import CodeMetrics.Text.Emoji
import CodeMetrics.Text.Literal
import CodeMetrics.Text.Styled

/-!
# Console markup

Text that is shown on a console may hold style tags in square brackets: `[bold]`, `[/bold]`, `[#ff0000]`. A backslash
before a tag makes it literal. `escape` protects a text from being taken for markup; `interpret` removes the tags and
the protecting backslashes, and fails on a closing tag that closes nothing. A tag whose name starts with `@` may name an
action with arguments, which have to be literal values once the tag is closed.

What is left of the tags are the stretches of the text to which they give a style. Between the tags emoji are put in the
place of their codes, which nothing protects.

Both read a text as the same row of pieces: characters, and tags with the backslashes before them.
-/

namespace CodeMetrics.Text.Markup

/-- A part of a text with markup. -/
inductive Piece where
  | char (c : Char)
  /-- A tag without its brackets, and the number of backslashes before it. -/
  | tag (backslashes : Nat) (body : List Char)
  deriving DecidableEq, Repr

/-- The characters that a tag can start with. -/
def isTagStart (c : Char) : Bool := (decide ('a' ≤ c) && decide (c ≤ 'z')) || c == '#' || c == '/' || c == '@'

/-- A tag at the head of the text, without its brackets, and what follows it. No bracket opens inside a tag. -/
def tag? (cs : List Char) : Option (List Char × List Char) :=
  match cs with
  | '[' :: c :: rest =>
    if isTagStart c then
      let body := rest.takeWhile fun d => d != ']' && d != '['
      match rest.drop body.length with
      | ']' :: after => some (c :: body, after)
      | _ => none
    else none
  | _ => none

/-- The pieces of a text; `fuel` is at least its length. -/
def piecesFrom : Nat → List Char → List Piece
  | 0, _ => []
  | _ + 1, [] => []
  | fuel + 1, c :: rest =>
    let slashes := ((c :: rest).takeWhile (· == '\\')).length
    match tag? ((c :: rest).drop slashes) with
    | some (body, after) => .tag slashes body :: piecesFrom fuel after
    | none => .char c :: piecesFrom fuel rest

def pieces (cs : List Char) : List Piece := piecesFrom cs.length cs

def bracketed (body : List Char) : List Char := '[' :: body ++ [']']

/-! ## Escaping -/

/-- A tag keeps its backslashes, each doubled, and gets one more that makes it literal. -/
def escapePiece : Piece → List Char
  | .char c => [c]
  | .tag backslashes body => List.replicate (2 * backslashes + 1) '\\' ++ bracketed body

/-- A single backslash at the end is doubled, so that it cannot protect what is put after it. -/
def closeEnd (cs : List Char) : List Char :=
  match cs.reverse with
  | '\\' :: '\\' :: _ => cs
  | '\\' :: _ => cs ++ ['\\']
  | _ => cs

/-- A text that is shown as it is. -/
def escape (text : String) : String := String.ofList (closeEnd ((pieces text.toList).flatMap escapePiece))

/-! ## Interpretation -/

/-- A tag that has been opened: its normal name, what stands behind an equals sign, and how many characters are shown
before it. -/
structure OpenTag where
  name : String
  parameters : List Char
  start : Nat
  deriving DecidableEq, Repr

/-- A character of the name of an action. -/
def isActionChar (c : Char) : Bool := isWordChar c || c == '.'

/-- The arguments in the parameters of an action: what stands in brackets behind its name, or else the parameters
themselves if they are no name. -/
def actionArguments (parameters : List Char) : List Char :=
  let text := trimBoth isSpace parameters
  let behind := text.dropWhile isActionChar
  if behind.isEmpty then ['(', ')']
  else if behind.head? = some '(' ∧ behind.getLast? = some ')' ∧ '\n' ∉ behind then behind
  else text

namespace OpenTag

def isAction (tag : OpenTag) : Bool := tag.name.toList.head? == some '@'

/-- Whether a tag can be closed. -/
def isClosable (tag : OpenTag) : Bool :=
  !tag.isAction || tag.parameters.isEmpty || Literal.isLiteral (actionArguments tag.parameters)

/-- The stretch of a tag that ends at a position. -/
def stretch (tag : OpenTag) (stop : Nat) : Stretch :=
  ⟨tag.start, stop, Text.words (tag.name.toList ++ ' ' :: tag.parameters)⟩

end OpenTag

/-- The innermost open tag of a name, or of any name, and the other ones. -/
def close (name : Option String) : List OpenTag → Except Fault (OpenTag × List OpenTag)
  | [] => .error .malformed
  | tag :: rest =>
    if name.all (· == tag.name) then if tag.isClosable then .ok (tag, rest) else .error .malformed
    else (close name rest).map fun (found, others) => (found, tag :: others)

/-- Control characters that a console would act on are never shown. -/
def isConsoleControl (c : Char) : Bool := [0x07, 0x08, 0x0b, 0x0c, 0x0d].contains c.toNat

/-- How far a text has been interpreted. -/
structure Progress where
  /-- The characters that are shown, in reverse, and their number. -/
  shown : List Char
  count : Nat
  /-- The open tags, innermost first. -/
  pending : List OpenTag
  /-- The stretches of the tags that have been closed, latest first. -/
  ended : List Stretch

namespace Progress

def start : Progress := ⟨[], 0, [], []⟩

/-- Shows one more character, unless it is one that a console would act on. -/
def put (p : Progress) (c : Char) : Progress :=
  if isConsoleControl c then p else { p with shown := c :: p.shown, count := p.count + 1 }

def putAll (p : Progress) (cs : List Char) : Progress := cs.foldl put p

/-- Closes a tag. The stretch of an action has no style. -/
def closeTag (p : Progress) (name : Option String) : Except Fault Progress := do
  let (tag, pending) ← close name p.pending
  return { p with pending, ended := if tag.isAction then p.ended else tag.stretch p.count :: p.ended }

/-- Goes on behind one more tag. -/
def applyTag (p : Progress) (body : List Char) : Except Fault Progress := do
  let name := body.takeWhile (· != '=')
  match name with
  | '/' :: closing =>
    let closing := trimBoth isSpace closing
    if closing.isEmpty then p.closeTag none else p.closeTag (some (← normalName closing))
  | _ => return { p with pending := ⟨← normalName name, (body.drop name.length).drop 1, p.count⟩ :: p.pending }

/-- The text as far as it has been interpreted. Open tags end there. Stretches with the same start are listed from the
one that ends last to the one that ends first. -/
def styled (p : Progress) : Styled :=
  let stretches := p.pending.reverse.map (fun tag => tag.stretch p.count) ++ p.ended
  ⟨p.shown.reverse, stretches.mergeSort fun a b => decide (a.start ≤ b.start)⟩

end Progress

/-! ### Texts and tags -/

/-- What pieces come to: a text between tags, or a tag that takes effect. -/
inductive Item where
  | text (cs : List Char)
  | tag (body : List Char)
  deriving DecidableEq, Repr

/-- The items of pieces behind the characters of `run`, which are in reverse. A protected tag is a text of its own, and so
are the backslashes that are left before a tag. -/
def itemsFrom (run : List Char) : List Piece → List Item
  | [] => [.text run.reverse]
  | .char '\\' :: .char '[' :: rest => itemsFrom ('[' :: run) rest
  | .char c :: rest => itemsFrom (c :: run) rest
  | .tag backslashes body :: rest =>
    .text run.reverse :: .text (List.replicate (backslashes / 2) '\\')
      :: (if backslashes % 2 = 1 then .text (bracketed body) else .tag body) :: itemsFrom [] rest

/-- The items of a text. -/
def items (cs : List Char) : List Item := itemsFrom [] (pieces cs)

/-- Interprets items one after the other. Emoji are looked for in each text by itself. -/
def interpretItems (p : Progress) : List Item → Except Fault Progress
  | [] => .ok p
  | .text cs :: rest => interpretItems (p.putAll (Emoji.replace cs)) rest
  | .tag body :: rest => do interpretItems (← p.applyTag body) rest

/-- What a text with markup shows. -/
def interpret (text : String) : Except Fault Styled := do
  let p ← interpretItems .start (items text.toList)
  return p.styled

end CodeMetrics.Text.Markup
