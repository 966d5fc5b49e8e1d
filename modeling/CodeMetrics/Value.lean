import CodeMetrics.Moment
import CodeMetrics.Number.Num
import CodeMetrics.Text.Integer
import CodeMetrics.Text.Quoted

/-!
# Document values

`Value` is what a document or a settings file holds: null, truth values, whole numbers, doubles, texts, moments, lists
and objects. Only settings files hold moments. An object keeps its fields in order, each key once; writing a key again
keeps its place and replaces its value (`Fields.insert`).

Names and operators are taken from documents as they are, so they need not be texts. `Value.key?` says which values
can be told apart as tokens: numbers by exact value, whatever their kind, texts by their characters; lists and
objects cannot.

Values are nested as deep as they like. That a recursion is given up at some depth, by which the text of a deeply nested
value cannot be made, is left out here and in everything that goes through values or documents.
-/

namespace CodeMetrics

/-- A value of a document. -/
inductive Value where
  | null
  | bool (b : Bool)
  | int (n : Int)
  | float (x : Float)
  | str (s : String)
  | moment (m : Moment)
  | list (items : List Value)
  | object (fields : List (String × Value))
  deriving Inhabited

/-! ## Ordered fields -/

namespace Fields

variable {α : Type}

/-- The value of the first field with a key. -/
def get? : List (String × α) → String → Option α
  | [], _ => none
  | (k, v) :: rest, key => if k = key then some v else get? rest key

/-- Writes a field: in place if the key is there, at the end otherwise. -/
def insert (fields : List (String × α)) (key : String) (value : α) : List (String × α) :=
  match fields with
  | [] => [(key, value)]
  | (k, v) :: rest => if k = key then (k, value) :: rest else (k, v) :: insert rest key value

/-- Writes several fields, one after the other. -/
def insertAll (fields others : List (String × α)) : List (String × α) :=
  others.foldl (fun acc (k, v) => insert acc k v) fields

/-- The keys, in order. -/
def keys (fields : List (String × α)) : List String := fields.map (·.1)

/-- Writing a key is seen at that key and nowhere else. -/
theorem get?_insert (fields : List (String × α)) (key other : String) (value : α) :
    get? (insert fields key value) other = if other = key then some value else get? fields other := by
  induction fields with
  | nil => grind [get?, insert]
  | cons field rest ih =>
    obtain ⟨k, v⟩ := field
    by_cases hk : k = key <;> by_cases h : k = other <;> grind [get?, insert]

/-- Writing a key keeps the order of the keys that are there, and puts a new one at the end. -/
theorem keys_insert (fields : List (String × α)) (key : String) (value : α) :
    keys (insert fields key value) = if key ∈ keys fields then keys fields else keys fields ++ [key] := by
  induction fields with
  | nil => simp [keys, insert]
  | cons field rest ih =>
    obtain ⟨k, v⟩ := field
    by_cases hk : k = key <;> grind [keys, insert]

end Fields

namespace Value

/-- The field of an object, if the value is an object that has it. -/
def field? (v : Value) (key : String) : Option Value :=
  match v with
  | object fields => Fields.get? fields key
  | _ => none

def ofNum : Num → Value
  | .int n => int n
  | .float x => float x
  | .flag b => bool b

/-- The number that a value is, truth values included. -/
def num? : Value → Option Num
  | bool b => some (.flag b)
  | int n => some (.int n)
  | float x => some (.float x)
  | _ => none

def str? : Value → Option String
  | str s => some s
  | _ => none

/-- Whether a value counts as present: null, false, zero and whatever is empty do not. -/
def truthy : Value → Bool
  | null => false
  | bool b => b
  | int n => n != 0
  | float x => !((Num.float x).same (.int 0))
  | str s => s != ""
  | moment _ => true
  | list items => !items.isEmpty
  | object fields => !fields.isEmpty

/-- A value, or another one in place of null and of what counts as absent. -/
def orElse (v : Option Value) (fallback : Value) : Value :=
  match v with
  | some v => if v.truthy then v else fallback
  | none => fallback

/-! ## Tokens -/

/-- What tells tokens apart. -/
inductive Key where
  | null
  | number (value : Exact)
  | text (s : String)
  | moment (m : Moment)
  deriving DecidableEq, Repr

/-- The identity of a value as a token; lists and objects have none. -/
def key? : Value → Option Key
  | null => some .null
  | bool b => some (.number (Num.flag b).exact)
  | int n => some (.number (Num.int n).exact)
  | float x => some (.number (Num.float x).exact)
  | str s => some (.text s)
  | moment m => some (.moment m)
  | list _ => none
  | object _ => none

/-! ## Text -/

/-- The kind of a value, as messages name it. -/
def kindName : Value → String
  | null => "NoneType"
  | bool _ => "bool"
  | int _ => "int"
  | float _ => "float"
  | str _ => "str"
  | moment m => m.kindName
  | list _ => "list"
  | object _ => "dict"

mutual

/-- A value inside another one: texts are quoted. -/
def inner : Value → String
  | null => "None"
  | bool b => (Num.flag b).text
  | int n => (Num.int n).text
  | float x => (Num.float x).text
  | str s => Text.quoted s
  | moment m => m.inner
  | list items => "[" ++ innerItems items ++ "]"
  | object fields => "\x7b" ++ innerFields fields ++ "\x7d"

def innerItems : List Value → String
  | [] => ""
  | [v] => inner v
  | v :: rest => inner v ++ ", " ++ innerItems rest

def innerFields : List (String × Value) → String
  | [] => ""
  | [(k, v)] => Text.quoted k ++ ": " ++ inner v
  | (k, v) :: rest => Text.quoted k ++ ": " ++ inner v ++ ", " ++ innerFields rest

end

/-- The text of a value: a text is itself, a moment has its plain form, anything else is as it stands inside a
list. There is a text for lists of any depth. -/
def text : Value → String
  | str s => s
  | moment m => m.text
  | v => v.inner

mutual

/-- Whether a value can be written out. A whole number with more digits than are converted cannot, nor can what
holds it. -/
def isWritable : Value → Bool
  | int n => decide (n.natAbs < Number.pow10 Text.digitLimit)
  | list items => areWritable items
  | object fields => haveWritable fields
  | _ => true

def areWritable : List Value → Bool
  | [] => true
  | v :: rest => isWritable v && areWritable rest

def haveWritable : List (String × Value) → Bool
  | [] => true
  | (_, v) :: rest => isWritable v && haveWritable rest

end

end Value

end CodeMetrics
