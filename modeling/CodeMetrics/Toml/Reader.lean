import CodeMetrics.Text.Utf8
import CodeMetrics.Toml.Scan

/-!
# Reading TOML

A document is a row of statements: key/value pairs, table headers and array-of-table headers. Pairs are written into
the table of the last header. `Book` keeps, beside the table built so far, which names may no longer be opened: those
declared by a header or a dotted key, and those of inline tables and arrays with everything below them.
-/

namespace CodeMetrics.Toml

/-! ## Nested tables -/

/-- Changes the table at the end of a path, creating tables on the way. A list stands for its last table if
`enterLists` is set. Nothing that is not a table can be entered. -/
def modifyAt (enterLists : Bool) (change : List (String × Value) → Option (List (String × Value))) :
    List String → List (String × Value) → Option (List (String × Value))
  | [], table => change table
  | k :: path, table =>
    match (Fields.get? table k).getD (.object []) with
    | .object inner => (modifyAt enterLists change path inner).map fun inner => Fields.insert table k (.object inner)
    | .list items =>
      match enterLists, items.getLast? with
      | true, some (.object inner) =>
        (modifyAt enterLists change path inner).map fun inner =>
          Fields.insert table k (.list (items.dropLast ++ [.object inner]))
      | _, _ => none
    | _ => none

/-- Whether a path leads to a table that has a key. -/
def hasKey (enterLists : Bool) (key : String) : List String → List (String × Value) → Bool
  | [], table => (Fields.get? table key).isSome
  | k :: path, table =>
    match Fields.get? table k with
    | some (.object inner) => hasKey enterLists key path inner
    | some (.list items) =>
      match enterLists, items.getLast? with
      | true, some (.object inner) => hasKey enterLists key path inner
      | _, _ => false
    | _ => false

/-! ## Values -/

def isContainer : Value → Bool
  | .list _ => true
  | .object _ => true
  | _ => false

/-- Whether a name lies at or below one of `frozen`. -/
def isFrozen (frozen : List (List String)) (key : List String) : Bool := frozen.any fun f => f.isPrefixOf key

mutual

/-- One value at the head of the text. -/
def value : Nat → List Char → Except Failure (Value × List Char)
  | 0, cs => fail .invalidValue cs
  | fuel + 1, cs =>
    match string? cs with
    | some found => found.map fun (s, rest) => (.str (String.ofList s), rest)
    | none =>
      match cs with
      | '[' :: rest => do
        match ← skipLines (rest.length + 1) rest with
        | ']' :: rest => return (.list [], rest)
        | rest =>
          let (items, rest) ← items fuel rest
          return (.list items, rest)
      | '\x7b' :: rest =>
        match skipBlank rest with
        | '\x7d' :: rest => .ok (.object [], rest)
        | rest => do
          let (table, rest) ← pairs fuel [] [] rest
          return (.object table, rest)
      | cs => scalar cs

/-- The items of an array up to its closing bracket; a comma may stand before it. -/
def items : Nat → List Char → Except Failure (List Value × List Char)
  | 0, cs => fail .invalidValue cs
  | fuel + 1, cs => do
    let (v, rest) ← value fuel cs
    match ← skipLines (rest.length + 1) rest with
    | ']' :: rest => return ([v], rest)
    | ',' :: rest =>
      match ← skipLines (rest.length + 1) rest with
      | ']' :: rest => return ([v], rest)
      | rest =>
        let (vs, rest) ← items fuel rest
        return (v :: vs, rest)
    | rest => fail .unclosedArray rest

/-- The pairs of an inline table up to its closing brace, written over the table before them. -/
def pairs : Nat → List (List String) → List (String × Value) → List Char →
    Except Failure (List (String × Value) × List Char)
  | 0, _, _, cs => fail .invalidKeyStart cs
  | fuel + 1, frozen, table, cs => do
    let (path, v, rest) ← pair fuel cs
    if isFrozen frozen path then fail (.immutable path) rest
    else
      let parent := path.dropLast
      let stem := path.getLastD ""
      if hasKey false stem parent table then fail (.duplicateInlineKey stem) rest
      else
        match modifyAt false (fun t => some (Fields.insert t stem v)) parent table with
        | none => fail .overwritten rest
        | some table =>
          match skipBlank rest with
          | '\x7d' :: rest => return (table, rest)
          | ',' :: rest => pairs fuel (if isContainer v then path :: frozen else frozen) table (skipBlank rest)
          | rest => fail .unclosedInlineTable rest

/-- A key, an equals sign and a value. -/
def pair : Nat → List Char → Except Failure (List String × Value × List Char)
  | 0, cs => fail .invalidKeyStart cs
  | fuel + 1, cs => do
    let (path, rest) ← key cs
    match rest with
    | '=' :: rest =>
      let (v, rest) ← value fuel (skipBlank rest)
      return (path, v, rest)
    | rest => fail .expectedEquals rest

end

/-! ## Statements -/

/-- The document as far as it has been read. -/
structure Book where
  table : List (String × Value)
  /-- The path of the last header. -/
  header : List String
  /-- Names that have been declared and may not be declared again. -/
  declared : List (List String)
  /-- Names that count as declared from the next header on. -/
  pending : List (List String)
  /-- Names of inline tables and arrays, to which nothing can be added. -/
  frozen : List (List String)

def Book.empty : Book := ⟨[], [], [], [], []⟩

/-- The proper beginnings of a key that are not empty. -/
def beginnings (path : List String) : List (List String) :=
  (List.range path.length).filterMap fun i => if i = 0 then none else some (path.take i)

/-- Writes a key/value pair under the last header. -/
def Book.write (book : Book) (path : List String) (v : Value) (rest : List Char) : Except Failure Book :=
  let opened := (beginnings path).map (book.header ++ ·)
  match opened.find? fun name => book.declared.contains name with
  | some name => fail (.redefined name) rest
  | none =>
    let parent := book.header ++ path.dropLast
    let stem := path.getLastD ""
    if isFrozen book.frozen parent then fail (.immutable parent) rest
    else if hasKey true stem parent book.table then fail .overwritten rest
    else
      match modifyAt true (fun t => some (Fields.insert t stem v)) parent book.table with
      | none => fail .overwritten rest
      | some table =>
        .ok { book with
          table
          pending := opened ++ book.pending
          frozen := if isContainer v then (book.header ++ path) :: book.frozen else book.frozen }

/-- Names opened by dotted keys count as declared once a header follows. -/
def Book.settle (book : Book) : Book := { book with declared := book.pending ++ book.declared, pending := [] }

/-- Opens the table of a header. -/
def Book.openTable (book : Book) (path : List String) (rest : List Char) : Except Failure Book :=
  if book.declared.contains path || isFrozen book.frozen path then fail (.declaredTwice path) rest
  else
    match modifyAt true some path book.table with
    | none => fail .overwritten rest
    | some table => .ok { book with table, header := path, declared := path :: book.declared }

/-- Adds an empty table to the list of that name. -/
def appendTable (stem : String) (table : List (String × Value)) : Option (List (String × Value)) :=
  match Fields.get? table stem with
  | none => some (Fields.insert table stem (.list [.object []]))
  | some (.list items) => some (Fields.insert table stem (.list (items ++ [.object []])))
  | some _ => none

/-- Opens another table of an array of tables; names below it may be declared anew. -/
def Book.openItem (book : Book) (path : List String) (rest : List Char) : Except Failure Book :=
  if isFrozen book.frozen path then fail (.immutable path) rest
  else
    match modifyAt true (appendTable (path.getLastD "")) path.dropLast book.table with
    | none => fail .overwritten rest
    | some table =>
      .ok { book with
        table
        header := path
        declared := path :: book.declared.filter fun name => !path.isPrefixOf name
        frozen := book.frozen.filter fun name => !path.isPrefixOf name }

/-- Whether a statement starting with this character is a key/value pair. -/
def startsKey (c : Char) : Bool := isBareKeyChar c || c == '"' || c == '\''

/-- Reads the statement at the head of the text, which does not start with a blank or a line feed. -/
def statement (book : Book) (cs : List Char) : Except Failure (Book × List Char) :=
  match cs with
  | '[' :: '[' :: rest => do
    let (path, rest) ← key (skipBlank rest)
    let book ← book.settle.openItem path rest
    match rest with
    | ']' :: ']' :: rest => return (book, skipBlank rest)
    | rest => fail .expectedArrayTableEnd rest
  | '[' :: rest => do
    let (path, rest) ← key (skipBlank rest)
    let book ← book.settle.openTable path rest
    match rest with
    | ']' :: rest => return (book, skipBlank rest)
    | rest => fail .expectedTableEnd rest
  | '#' :: _ => .ok (book, cs)
  | c :: _ =>
    if startsKey c then do
      let (path, v, rest) ← pair (2 * cs.length + 2) cs
      let book ← book.write path v rest
      return (book, skipBlank rest)
    else fail .invalidStatement cs
  | [] => .ok (book, [])

/-- Reads statements to the end of the document; `fuel` exceeds the number of characters. -/
def statements : Nat → Book → List Char → Except Failure Book
  | 0, book, _ => .ok book
  | fuel + 1, book, cs =>
    match skipBlank cs with
    | [] => .ok book
    | '\n' :: rest => statements fuel book rest
    | cs => do
      let (book, rest) ← statement book cs
      match ← skipComment rest with
      | [] => return book
      | '\n' :: rest => statements fuel book rest
      | rest => fail .expectedLineEnd rest

/-- A carriage return before a line feed is dropped. -/
def joinLineEnds : List Char → List Char
  | [] => []
  | '\r' :: '\n' :: rest => '\n' :: joinLineEnds rest
  | c :: rest => c :: joinLineEnds rest

/-- Reads a document; a failure is a message with its position. -/
def read (text : List Char) : Except String (List (String × Value)) :=
  let text := joinLineEnds text
  match statements (text.length + 1) .empty text with
  | .ok book => .ok book.table
  | .error f => .error (f.message text)

/-- Reads the bytes of a document. -/
def readBytes (bytes : List Nat) : Except String (List (String × Value)) :=
  match Text.decodeUtf8 bytes with
  | .error e => .error e.message
  | .ok text => read text

end CodeMetrics.Toml
