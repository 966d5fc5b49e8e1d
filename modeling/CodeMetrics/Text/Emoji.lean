import CodeMetrics.Text.Blank
import CodeMetrics.Text.Emoji.Table
import CodeMetrics.Text.LowerCase

/-!
# Emoji by their names

A console shows an emoji where a text has its name between two colons, as in `:warning:`, with letters of either case.
Behind the name `-emoji` or `-text` may ask for a picture or a plain sign. Names are looked for from the left: two colons
without a blank between them make up a code, whether or not there is such an emoji, and no colon belongs to two codes.
-/

namespace CodeMetrics.Text.Emoji

/-! ## Codes -/

/-- A part of a text with codes. -/
inductive Token where
  | char (c : Char)
  /-- What stands between two colons. -/
  | code (name : List Char)
  deriving DecidableEq, Repr

/-- Characters that stand for themselves. -/
def plain (cs : List Char) : List Token := cs.map .char

/-- The tokens of a text. Behind a colon, `code` is what has been passed since then, in reverse. -/
def tokensFrom : Option (List Char) → List Char → List Token
  | none, [] => []
  | some code, [] => plain (':' :: code.reverse)
  | none, c :: rest => if c = ':' then tokensFrom (some []) rest else .char c :: tokensFrom none rest
  | some code, c :: rest =>
    if c = ':' then .code code.reverse :: tokensFrom none rest
    else if isSpace c then plain (':' :: code.reverse ++ [c]) ++ tokensFrom none rest
    else tokensFrom (some (c :: code)) rest

def tokens (cs : List Char) : List Token := tokensFrom none cs

example : tokens "::a:b: c:".toList = .code [] :: plain "a".toList ++ .code ['b'] :: plain " c:".toList := by rfl

/-! ## Names -/

/-- The emoji of a name in a row of names and emoji. -/
def seek (name : List Char) : List (List Char) → Option (List Char)
  | found :: emoji :: rest => if found = name then some emoji else seek name rest
  | _ => none

/-- The emoji of a name. -/
def ofName? (name : List Char) : Option (List Char) := do
  let rows := (table.lookup (← name.head?)).getD otherEmoji
  rows.findSome? fun row => seek name (row.toList.splitOn ':')

/-- What can stand behind a name, and the selector for it. -/
def variants : List (String × Char) := [("-emoji", '\ufe0f'), ("-text", '\ufe0e')]

/-- The emoji that a code stands for. -/
def ofCode? (code : List Char) : Option (List Char) :=
  match variants.find? fun (suffix, _) => suffix.toList.isSuffixOf code with
  | some (suffix, selector) => (ofName? (lower (code.take (code.length - suffix.length)))).map (· ++ [selector])
  | none => ofName? (lower code)

/-! ## Replacement -/

namespace Token

/-- What is shown for a token. A code that stands for nothing is left as it is. -/
def shown : Token → List Char
  | char c => [c]
  | code name => (ofCode? name).getD (':' :: name ++ [':'])

def isEmoji : Token → Bool
  | char _ => false
  | code name => (ofCode? name).isSome

end Token

/-- A text with emoji in place of their codes. -/
def replace (cs : List Char) : List Char := (tokens cs).flatMap Token.shown

/-- Whether there is a code of an emoji in a text. -/
def occurs (cs : List Char) : Bool := (tokens cs).any Token.isEmoji

end CodeMetrics.Text.Emoji
