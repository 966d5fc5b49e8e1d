/-!
# File paths

Paths are shown in a normal form: repeated slashes and `.` components go away, `..` stays, and an empty path is `.`.
`absolutePath` goes further and takes every `..` back, going by the text of the path alone.
-/

namespace CodeMetrics.Text

/-- The components of a path that are neither empty nor `.`. -/
def pathParts (path : String) : List String :=
  ((path.toList.splitOn '/').map String.ofList).filter fun part => part != "" && part != "."

/-- What an absolute path starts with: one slash, or exactly two. -/
def pathRoot (path : String) : String :=
  match path.toList with
  | '/' :: '/' :: '/' :: _ => "/"
  | '/' :: '/' :: _ => "//"
  | '/' :: _ => "/"
  | _ => ""

/-- The normal form of a path. -/
def normalPath (path : String) : String :=
  let text := pathRoot path ++ String.intercalate "/" (pathParts path)
  if text = "" then "." else text

/-- The components passed on the way after one more. -/
def pathStep (passed : List String) (part : String) : List String :=
  if part = ".." then passed.dropLast else passed ++ [part]

/-- Where a path leads from a directory on, if each `..` takes back the component before it. Whether the components
exist is not looked at. -/
def absolutePath (work path : String) : String :=
  let whole := if path.startsWith "/" then path else work ++ "/" ++ path
  pathRoot whole ++ String.intercalate "/" ((pathParts whole).foldl pathStep [])

/-- The directory that a path lies in. -/
def parentPath (path : String) : String :=
  normalPath (pathRoot path ++ String.intercalate "/" (pathParts path).dropLast)

/-- The path of a name in a directory. In the directory where the run takes place it is the name alone. -/
def childPath (directory name : String) : String :=
  if directory = "." then name
  else if directory.toList.getLast? = some '/' then directory ++ name
  else directory ++ "/" ++ name

/-- No file can have a path with a null character in it. -/
def hasNull (path : String) : Bool := path.toList.contains '\x00'

end CodeMetrics.Text
