import SiteSnapshot.Catalog.Sorted
import SiteSnapshot.Catalog.Source
import SiteSnapshot.FileTree.Access
import SiteSnapshot.Text.Blank

/-!
# Directories as sources

A directory with one directory per entry is a source: the units of an entry are the
directories below its own that hold files, itself included. Hidden names do not count, and
links are not followed.
-/

namespace SiteSnapshot

/-- A directory that holds a directory per entry. -/
structure SourceDirectory where
  root : FilePath
  /-- The extension that a file must have to count, if any. -/
  extension : Option String := none
deriving DecidableEq, Repr, Inhabited

namespace SourceDirectory

/-- The name of the source. -/
def name (d : SourceDirectory) : String :=
  "dir:" ++ d.root

/-- True for a file that counts by its name. -/
def counts (d : SourceDirectory) (file : String) : Bool :=
  match d.extension with
  | none => true
  | some e => FilePath.nameExtension? file == some (String.ofList (e.toList.dropWhile (· == '.')))

/-- True for a hidden name. -/
def isHidden (name : String) : Bool :=
  name.toList.head? == some '.'

/-- The directory of an item below the directory of an entry, if the item makes it a
unit. -/
def unitOf (d : SourceDirectory) (item : Location × Entry) : Option Location :=
  match item.2, item.1.getLast? with
  | .file _, some file =>
    if item.1.any isHidden || !d.counts file then none else some item.1.dropLast
  | _, _ => none

/-- The directory as a source. -/
def source (d : SourceDirectory) (t : FileTree) : Source where
  name := d.name
  units entry :=
    let entry := trimSlashes entry
    let directory := FilePath.join d.root entry
    if entry.isEmpty || !t.isDir directory then
      .error (.noUnits d.name entry "no such directory")
    else
      .ok (sortedSet ((t.walk directory).filterMap fun item =>
        (d.unitOf item).map fun loc => "/".intercalate (entry :: loc)))

end SourceDirectory

end SiteSnapshot
