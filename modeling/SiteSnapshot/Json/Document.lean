import SiteSnapshot.FileTree.Access
import SiteSnapshot.Json.Read

/-!
# Files of JSON

A file of JSON can be unreadable, or its text unusable for what it is read for.
-/

namespace SiteSnapshot

/-- Why a file of JSON cannot be used. -/
inductive DocumentError where
  | unreadable (cause : FileError)
  | unusable (problem : JsonProblem)
deriving DecidableEq, Repr, Inhabited

/-- The wording of an error, from the outside in: `kind` says what the file is for. -/
def DocumentError.messages (kind : String) (path : FilePath) : DocumentError → List String
  | .unreadable cause => ["reading " ++ kind ++ " " ++ path, cause.message]
  | .unusable problem => ["parsing " ++ kind ++ " " ++ path, problem.message]

/-- Reads a file of JSON as a value of some type. -/
def FileTree.readJson {α : Type} (t : FileTree) (path : FilePath)
    (value? : Json → Except JsonProblem α) : Except DocumentError α :=
  match t.readText path with
  | .error e => .error (.unreadable e)
  | .ok text =>
    match Json.readAs text value? with
    | .error p => .error (.unusable p)
    | .ok value => .ok value

end SiteSnapshot
