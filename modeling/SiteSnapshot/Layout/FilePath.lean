/-!
# File paths

A file path is text, and it is kept exactly as built, because error messages show it. Its
**components** are what it means: the names between slashes without empty ones and without
`.`, except that a relative path may start with `.`. The last component decides the name
and the extension of a file.
-/

namespace SiteSnapshot

/-- A file path as written. -/
abbrev FilePath := String

namespace FilePath

/-- True for a path from the root of the file system. -/
def isAbsolute (path : FilePath) : Bool :=
  path.toList.head? == some '/'

/-- A path below a directory. An absolute path stands for itself, and an empty one leaves a
slash at the end. -/
def join (dir path : FilePath) : FilePath :=
  if isAbsolute path then path
  else if dir.isEmpty || dir.toList.getLast? == some '/' then dir ++ path
  else dir ++ "/" ++ path

/-- The reversed text without slashes and `.` components at its end. A `.` that starts the
path is kept, and so is the slash of the root. -/
def trimEnd : List Char → List Char
  | [] => []
  | ['/'] => ['/']
  | '/' :: rest => trimEnd rest
  | ['.', '/'] => ['/']
  | '.' :: '/' :: rest => trimEnd rest
  | text => text

/-- The last component of a path and what stands before it, trimmed; none for the root and
for an empty path. -/
def splitLast (path : FilePath) : Option (FilePath × String) :=
  let text := trimEnd path.toList.reverse
  let name := text.takeWhile (· != '/')
  if name.isEmpty then none
  else
    let before := trimEnd (text.drop name.length)
    some (String.ofList before.reverse, String.ofList name.reverse)

/-- The directory of a path. -/
def parent? (path : FilePath) : Option FilePath :=
  (splitLast path).map (·.1)

/-- The name of a file: the last component, unless that is a step up or the place
itself. -/
def fileName? (path : FilePath) : Option String :=
  match splitLast path with
  | some (_, name) => if name = ".." ∨ name = "." then none else some name
  | none => none

/-- The extension of a name: what follows its last dot, if the dot is not at the start. -/
def nameExtension? (name : String) : Option String :=
  let text := name.toList.reverse
  let extension := text.takeWhile (· != '.')
  if name = ".." ∨ text.length ≤ extension.length + 1 then none
  else some (String.ofList extension.reverse)

/-- The extension of a file path. -/
def extension? (path : FilePath) : Option String :=
  (fileName? path).bind nameExtension?

end FilePath

end SiteSnapshot
