import CodeMetrics.Json.Reader
import CodeMetrics.Text.Markup
import CodeMetrics.Text.Utf8

/-!
# Errors

Everything that can go wrong, by cause. A `Problem` is a finding about the input that the tool reports in its own
words: a file, a tree, a type graph or a setting is not as it should be. A `Rejection` is a value outside what an
operation takes. The remaining errors come from values of a kind that an operation is not made for.

`Error.message` is the one place where the wording lives.
-/

namespace CodeMetrics

open Number

/-- Why a document is no syntax tree. -/
inductive TreeFault where
  | notAnObject (kind : String)
  | missingType
  | incompleteLocation
  | lineNotInteger
  | invalidSpan (start stop : Num)
  | invalidJson (fault : Json.Fault) (line : Nat)
  deriving DecidableEq, Repr

/-- Why a file cannot be used. -/
inductive FileFault where
  | missing
  | directory
  | notDirectory
  | nameTooLong
  | occupied
  /-- The file or a directory on the way to it is closed to the run. -/
  | denied
  deriving DecidableEq, Repr

/-- A value outside what an operation takes. -/
inductive Rejection where
  | undecodable (error : Text.Utf8Error)
  | integerTooLong (digits : Nat)
  /-- A value with an integer in it that is too long to be written out. -/
  | unwritable
  | invalidSpan (start : Num) (stop : Value)
  | unknownUnitKind (given : Value)
  | unknownNodeKind (given : Value)
  | methodCount (given : Value) (actual : Nat)
  | unorderedUnits
  | unknownFormat (name : String)
  | notTruthValue (text : String)
  | notInteger (text : String)
  | notDouble (text : String)
  | formatSpecifier (decimals : Num) (kind : String)
  /-- A value that is no number where decimal places are asked for. -/
  | formatCode (kind : String)
  | missingPrecision
  /-- A path with a null character in it. -/
  | embeddedNull

/-- A value of a kind that an operation is not made for. -/
inductive Mismatch where
  | unknownArgument (name : String)
  /-- An argument that has its value already. -/
  | repeatedArgument (name : String)
  | missingArgument
  | notOrdered (operator left right : String)
  | unhashable
  | notText
  | notNumber
  deriving DecidableEq, Repr

/-- Why the settings cannot be loaded. -/
inductive SettingsFault where
  | noFile (path : String)
  | invalidFile (path cause : String)
  | invalidSection (path : String)
  | invalidVariable (name cause : String)
  | invalidArguments (mismatch : Mismatch)
  deriving DecidableEq, Repr

/-- A finding that the tool reports in its own words. -/
inductive Problem where
  | fileAccess (path reason : String)
  | treeFormat (reason : TreeFault) (location : String)
  | inheritanceCycle (types : List String) (passes : Nat)
  | settings (fault : SettingsFault)
  | invalidSetting (key : String) (value : Value) (reason : String)

/-- What can go wrong. -/
inductive Error where
  | problem (p : Problem)
  | rejected (r : Rejection)
  | mismatch (m : Mismatch)
  /-- A clause list with an empty place where a node is needed. -/
  | absentNode
  /-- A field that is not there. -/
  | absentField
  /-- A position outside a graph. -/
  | absentPosition
  /-- An integer beyond every double where a double is needed. -/
  | overflow
  /-- A file that cannot be opened, or of which it cannot be told whether it is there. -/
  | file (fault : FileFault) (path : String)
  /-- A home directory that cannot be told. -/
  | unknownHome
  /-- Tags that do not go together in text that is shown. -/
  | markup

/-- A text that is no whole number. -/
def Rejection.ofInteger (text : String) : Text.IntegerFault → Rejection
  | .malformed => notInteger text
  | .tooLong digits => integerTooLong digits

/-- What cannot be shown as markup. -/
def Error.ofMarkup : Text.Markup.Fault → Error
  | .malformed => markup
  | .number text cause => rejected (.ofInteger text cause)

/-! ## Wording -/

def TreeFault.message : TreeFault → String
  | notAnObject kind => "expected a JSON object, got " ++ kind
  | missingType => "node is missing a string 'type'"
  | incompleteLocation => "loc must have start.line and end.line"
  | lineNotInteger => "loc lines must be integers"
  | invalidSpan start stop => "Invalid span: " ++ start.text ++ "-" ++ stop.text
  | invalidJson fault line => "invalid JSON: " ++ fault.message ++ " at line " ++ natText line

def FileFault.message (path : String) : FileFault → String
  | missing => "[Errno 2] No such file or directory: " ++ Text.quoted path
  | directory => "[Errno 21] Is a directory: " ++ Text.quoted path
  | notDirectory => "[Errno 20] Not a directory: " ++ Text.quoted path
  | nameTooLong => "[Errno 36] File name too long: " ++ Text.quoted path
  | occupied => "[Errno 17] File exists: " ++ Text.quoted path
  | denied => "[Errno 13] Permission denied: " ++ Text.quoted path

/-- The text of an integer literal in a message is cut after 200 characters. -/
def literalText (text : String) : String := String.ofList ((Text.quoted text).toList.take 200)

def Rejection.message : Rejection → String
  | undecodable error => error.message
  | integerTooLong digits => (Json.Fault.integerTooLong digits).message
  | unwritable =>
    "Exceeds the limit (4300 digits) for integer string conversion; "
      ++ "use sys.set_int_max_str_digits() to increase the limit"
  | invalidSpan start stop => "Invalid span: " ++ start.text ++ "-" ++ stop.text
  | unknownUnitKind given => given.inner ++ " is not a valid FunctionKind"
  | unknownNodeKind given => given.inner ++ " is not a valid NodeKind"
  | methodCount given actual =>
    "method_count (" ++ given.text ++ ") does not match number of functions (" ++ natText actual ++ ")"
  | unorderedUnits => "functions must be ordered by start_line"
  | unknownFormat name => "Unknown format '" ++ name ++ "' (expected one of: json, table)"
  | notTruthValue text => "expected true/false, got '" ++ text ++ "'"
  | notInteger text => "invalid literal for int() with base 10: " ++ literalText text
  | notDouble text => "could not convert string to float: " ++ Text.quoted text
  | formatSpecifier decimals kind =>
    "Invalid format specifier '." ++ decimals.text ++ "f' for object of type '" ++ kind ++ "'"
  | formatCode kind => "Unknown format code 'f' for object of type '" ++ kind ++ "'"
  | missingPrecision => "Format specifier missing precision"
  | embeddedNull => "embedded null byte"

def Mismatch.message : Mismatch → String
  | unknownArgument name => "AnalysisConfig.__init__() got an unexpected keyword argument '" ++ name ++ "'"
  | repeatedArgument name => "AnalysisConfig.__init__() got multiple values for argument '" ++ name ++ "'"
  | missingArgument => "missing argument"
  | notOrdered operator left right =>
    "'" ++ operator ++ "' not supported between instances of '" ++ left ++ "' and '" ++ right ++ "'"
  | unhashable => "unhashable type"
  | notText => "expected string"
  | notNumber => "must be real number"

def SettingsFault.message : SettingsFault → String
  | noFile path => "Config file not found: " ++ path
  | invalidFile path cause => "Invalid config file '" ++ path ++ "': " ++ cause
  | invalidSection path => "Invalid [qualytics] section in '" ++ path ++ "'"
  | invalidVariable name cause => "Invalid " ++ name ++ ": " ++ cause
  | invalidArguments mismatch => "Invalid configuration: " ++ mismatch.message

/-- A headline with named details. -/
structure Notice where
  headline : String
  details : List (String × Value)

namespace Notice

/-- The headline, followed by the details in brackets if there are any. -/
def text (n : Notice) : String :=
  if n.details.isEmpty then n.headline
  else n.headline ++ " (" ++ String.intercalate ", " (n.details.map fun (k, v) => k ++ "=" ++ v.text) ++ ")"

def fileAccess (path : String) (reason : Value) : Notice :=
  ⟨"Cannot access file: " ++ path, [("filepath", .str path), ("reason", reason)]⟩

/-- A location that counts as absent is left out. -/
def treeFormat (reason location : Value) : Notice :=
  ⟨"Malformed syntax tree", ("reason", reason) :: (if location.truthy then [("location", location)] else [])⟩

def inheritanceCycle (types : List String) (passes : Value) : Notice :=
  ⟨"Inheritance graph did not converge",
    [("types", .str (String.intercalate ", " types)), ("passes", .str passes.text)]⟩

def invalidSetting (key value reason : Value) : Notice :=
  ⟨"Invalid configuration for " ++ key.text ++ ": " ++ value.text,
    [("key", key), ("value", .str value.text), ("reason", reason)]⟩

end Notice

def Problem.notice : Problem → Notice
  | fileAccess path reason => .fileAccess path (.str reason)
  | treeFormat reason location => .treeFormat (.str reason.message) (.str location)
  | inheritanceCycle types passes => .inheritanceCycle types (.int passes)
  | settings fault => ⟨fault.message, []⟩
  | invalidSetting key value reason => .invalidSetting (.str key) value (.str reason)

def Problem.message (p : Problem) : String := p.notice.text

def Error.message : Error → String
  | problem p => p.message
  | rejected r => r.message
  | mismatch m => m.message
  | absentNode => "absent node"
  | absentField => "absent field"
  | absentPosition => "absent position"
  | overflow => "int too large to convert to float"
  | file fault path => fault.message path
  | unknownHome => "Could not determine home directory."
  | markup => "closing tag doesn't match any open tag"

end CodeMetrics
