import SiteSnapshot.Bundle.Memory
import SiteSnapshot.FileTree.Access

/-!
# Bundles of assets

A bundle is a tree of files that the site publishes under one name. It is held in memory or
it is a directory of the file tree; a directory is read as it is at the time of reading.
-/

namespace SiteSnapshot

/-- A bundle of assets. -/
inductive Bundle where
  | memory (b : MemoryBundle)
  | directory (root : FilePath)
deriving Repr, Inhabited

namespace Bundle

/-- The directories and files of a bundle. -/
def walk (t : FileTree) : Bundle → Except Failure (List BundleItem)
  | .memory b => .ok b.walk
  | .directory root =>
    if t.isDir root then
      .ok ((t.walk root).map fun (loc, e) => ⟨"/".intercalate loc, e == .directory⟩)
    else .error (.file root .missingBundle)

/-- The contents of a file of a bundle. -/
def read (t : FileTree) (path : String) : Bundle → Except Failure Bytes
  | .memory b => b.read path
  | .directory root =>
    match t.read (FilePath.join root path) with
    | .ok octets => .ok octets
    | .error e => .error (.file (FilePath.join root path) e)

end Bundle

end SiteSnapshot
