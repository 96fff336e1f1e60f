import SiteSnapshot.Failure
import SiteSnapshot.FileTree.Access

/-!
# Output files

A file is written together with the directories above it. A failure names the path at
which it happened, and what was made before it stays.
-/

namespace SiteSnapshot.Output

/-- Makes a directory and those above it. The empty path is there already. -/
def ensureDir (t : FileTree) (dir : FilePath) : FileTree × Except Failure Unit :=
  if dir.isEmpty then (t, .ok ())
  else
    match t.makeDirs dir with
    | (t, none) => (t, .ok ())
    | (t, some e) => (t, .error (.file dir e))

/-- Writes a file where its directory exists. -/
def writeFile (t : FileTree) (path : FilePath) (octets : Bytes) :
    FileTree × Except Failure Unit :=
  match t.write path octets with
  | .ok t => (t, .ok ())
  | .error e => (t, .error (.file path e))

/-- Writes a file and makes the directories above it. -/
def write (t : FileTree) (path : FilePath) (octets : Bytes) : FileTree × Except Failure Unit :=
  match FilePath.parent? path with
  | none => writeFile t path octets
  | some dir =>
    match ensureDir t dir with
    | (t, .ok ()) => writeFile t path octets
    | (t, .error e) => (t, .error e)

end SiteSnapshot.Output
