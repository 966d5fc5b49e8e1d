import CodeMetrics.Value

/-!
# Writing JSON

The text of a value, indented by two spaces for each level, in ASCII only: every other character is written by its
UTF-16 code units. Empty lists and objects stand on one line.
-/

namespace CodeMetrics.Json

/-- One UTF-16 code unit. -/
def unitEscape (n : Nat) : List Char := '\\' :: 'u' :: Text.hex 4 n

/-- A character by its code units, of which those beyond the first plane have two. -/
def unicodeEscape (c : Char) : List Char :=
  let n := c.toNat
  if n < 0x10000 then unitEscape n
  else unitEscape (0xd800 + (n - 0x10000) / 0x400) ++ unitEscape (0xdc00 + (n - 0x10000) % 0x400)

/-- One character inside a string. -/
def stringChar (c : Char) : List Char :=
  if c = '"' then ['\\', '"']
  else if c = '\\' then ['\\', '\\']
  else if c = '\n' then ['\\', 'n']
  else if c = '\r' then ['\\', 'r']
  else if c = '\t' then ['\\', 't']
  else if c = '\x08' then ['\\', 'b']
  else if c = '\x0c' then ['\\', 'f']
  else if 0x20 ≤ c.toNat ∧ c.toNat ≤ 0x7e then [c]
  else unicodeEscape c

def stringText (s : String) : List Char := '"' :: s.toList.flatMap stringChar ++ ['"']

/-- A new line at a level. -/
def lineBreak (level : Nat) : List Char := '\n' :: List.replicate (2 * level) ' '

mutual

/-- A value whose opening bracket stands at a level. -/
def valueText (level : Nat) : Value → List Char
  | .null => "null".toList
  | .bool true => "true".toList
  | .bool false => "false".toList
  | .int n => (Number.intText n).toList
  | .float x => (Number.Style.json.text x).toList
  | .str s => stringText s
  | .moment m => stringText m.text
  | .list [] => "[]".toList
  | .list (v :: rest) => '[' :: itemsText (level + 1) (v :: rest) ++ lineBreak level ++ [']']
  | .object [] => ['\x7b', '\x7d']
  | .object (f :: rest) => '\x7b' :: fieldsText (level + 1) (f :: rest) ++ lineBreak level ++ ['\x7d']

/-- Items on lines of their own, with a comma after each but the last. -/
def itemsText (level : Nat) : List Value → List Char
  | [] => []
  | v :: rest => lineBreak level ++ valueText level v ++ (if rest.isEmpty then [] else [',']) ++ itemsText level rest

/-- Fields on lines of their own, with a comma after each but the last. -/
def fieldsText (level : Nat) : List (String × Value) → List Char
  | [] => []
  | (k, v) :: rest =>
    lineBreak level ++ stringText k ++ ':' :: ' ' :: valueText level v ++ (if rest.isEmpty then [] else [','])
      ++ fieldsText level rest

end

/-- The JSON text of a value. -/
def write (v : Value) : String := String.ofList (valueText 0 v)

end CodeMetrics.Json
