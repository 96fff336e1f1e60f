import SiteSnapshot.Asset.Transform
import SiteSnapshot.Bundle.Basic
import SiteSnapshot.Layout.Output

/-!
# Copying a bundle

A bundle is copied to the directory of its **mount**, the name under which the site
publishes it. Directories are made, style sheets and scripts are relocated for their place,
and all other files are copied as they are.
-/

namespace SiteSnapshot.Bundle

/-- What is written for a file of a bundle. -/
def written (mount path : String) (octets : Bytes) : Bytes :=
  let sitePath := mount ++ "/" ++ path
  if Asset.isRelocatable sitePath then Asset.transform octets sitePath else octets

/-- Copies items to a directory and counts the files. -/
def copyItems (bundle : Bundle) (mount : String) (root : FilePath) :
    FileTree → Nat → List BundleItem → FileTree × Except Failure Nat
  | t, count, [] => (t, .ok count)
  | t, count, item :: rest =>
    let dest := FilePath.join root item.path
    if item.isDir then
      match Output.ensureDir t dest with
      | (t, .ok ()) => copyItems bundle mount root t count rest
      | (t, .error e) => (t, .error e)
    else
      match bundle.read t item.path with
      | .error e => (t, .error e)
      | .ok octets =>
        match Output.write t dest (written mount item.path octets) with
        | (t, .ok ()) => copyItems bundle mount root t (count + 1) rest
        | (t, .error e) => (t, .error e)

/-- Copies a bundle below an output directory and counts the files. -/
def copy (t : FileTree) (bundle : Bundle) (mount : String) (out : FilePath) :
    FileTree × Except Failure Nat :=
  let root := FilePath.join out mount
  match Output.ensureDir t root with
  | (t, .error e) => (t, .error e)
  | (t, .ok ()) =>
    match bundle.walk t with
    | .error e => (t, .error e)
    | .ok items => copyItems bundle mount root t 0 items

end SiteSnapshot.Bundle
