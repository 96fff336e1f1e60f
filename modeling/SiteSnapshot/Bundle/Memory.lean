import SiteSnapshot.Failure
import SiteSnapshot.Text.Blank
import SiteSnapshot.Text.Utf8

/-!
# Bundles in memory

A bundle of files and directories that are added one by one. The directories above a file
are part of the bundle, those above an added directory are not.
-/

namespace SiteSnapshot

/-- An item of a bundle, by its path below the bundle. -/
structure BundleItem where
  path : String
  isDir : Bool
deriving DecidableEq, Repr, Inhabited

/-- Files and directories by their paths. -/
structure MemoryBundle where
  files : List (String × Bytes) := []
  dirs : List String := []
deriving DecidableEq, Repr, Inhabited

namespace MemoryBundle

/-- What stands before each slash of a path. -/
def ancestors (path : String) : List String :=
  go [] path.toList
where
  /-- Goes on after the given characters, latest first. -/
  go (done : List Char) : List Char → List String
    | [] => []
    | c :: rest =>
      if c = '/' then String.ofList done.reverse :: go (c :: done) rest else go (c :: done) rest

/-- Adds a file and the directories above it. A file of the same path is replaced. -/
def addFile (b : MemoryBundle) (path : String) (octets : Bytes) : MemoryBundle :=
  let path := trimSlashes path
  { files := (path, octets) :: b.files.filter (·.1 != path)
    dirs := ancestors path ++ b.dirs }

/-- Adds a directory. -/
def addDir (b : MemoryBundle) (path : String) : MemoryBundle :=
  { b with dirs := trimSlashes path :: b.dirs }

/-- Every directory and every file once, in the order of their paths, a directory before a
file of the same path. -/
def walk (b : MemoryBundle) : List BundleItem :=
  let dirs := b.dirs.eraseDups.map fun path => ⟨path, true⟩
  let files := b.files.map fun f => ⟨f.1, false⟩
  (dirs ++ files).mergeSort fun i j => decide (i.path ≤ j.path)

/-- The contents of a file. -/
def read (b : MemoryBundle) (path : String) : Except Failure Bytes :=
  match b.files.lookup path with
  | some octets => .ok octets
  | none => .error (.file path .notInBundle)

end MemoryBundle

end SiteSnapshot
