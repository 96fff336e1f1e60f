import SiteSnapshot.FileTree.Basic
import SiteSnapshot.Layout.FilePath

/-!
# Resolving file paths

A file path is read from left to right, from the root if it starts with a slash and else
from the current directory. Every name but the last has to lead to a directory; `..` leads
to the directory above, and the root has itself above it. A symbolic link on the way is
replaced by its target, at most forty times; whether one at the end is, depends on the
operation (`LastName`). A slash at the end of a path, or of the target of a link, says that
it leads to a directory.
-/

namespace SiteSnapshot

/-- Why a file operation fails. -/
inductive FileError where
  | notFound
  | alreadyExists
  | notDirectory
  | isDirectory
  | nameTooLong
  | linkLoop
  | nulInName
  | notText
  | missingBundle
  | notInBundle
deriving DecidableEq, Repr, Inhabited

/-- The wording of a failure. -/
def FileError.message : FileError → String
  | .notFound => "No such file or directory (os error 2)"
  | .alreadyExists => "File exists (os error 17)"
  | .notDirectory => "Not a directory (os error 20)"
  | .isDirectory => "Is a directory (os error 21)"
  | .nameTooLong => "File name too long (os error 36)"
  | .linkLoop => "Too many levels of symbolic links (os error 40)"
  | .nulInName => "file name contained an unexpected NUL byte"
  | .notText => "stream did not contain valid UTF-8"
  | .missingBundle => "bundle directory missing"
  | .notInBundle => "not in bundle"

namespace FileTree

/-- Where a path leads: to an entry, or to a free name in a directory. -/
inductive Target where
  | present (loc : Location) (e : Entry)
  | free (dir : Location) (name : String)
deriving DecidableEq, Repr

/-- The longest name, in octets. -/
def maxName : Nat := 255

/-- The longest path, in octets. -/
def maxPath : Nat := 4095

/-- How many links are followed. -/
def maxLinks : Nat := 40

/-- The names of a path without empty ones. -/
def namesOf (path : FilePath) : List String :=
  ((path.toList.splitOn '/').filter (!·.isEmpty)).map String.ofList

/-- True for a path that ends with a slash, and so names a directory. -/
def endsWithSlash (path : FilePath) : Bool :=
  path.toList.getLast? == some '/'

/-- The steps of a path: its names, and an empty one for a slash at the end. -/
def stepsOf (path : FilePath) : List String :=
  namesOf path ++ if endsWithSlash path then [""] else []

/-- What an operation does with a link at the end of a path: it works on the link itself,
it follows the link, or it follows the link to write a file. -/
inductive LastName where
  | kept
  | followed
  | written
deriving DecidableEq, Repr

/-- Takes steps from a directory. `links` is how many more links may be followed. A file to
be written cannot have a slash behind its name, whether or not there is a directory. -/
def follow (t : FileTree) (last : LastName) (links : Nat) (dir : Location) :
    List String → Except FileError Target
  | [] => .ok (.present dir ((t.get? dir).getD .directory))
  | name :: rest =>
    if name = "" ∨ name = "." then follow t last links dir rest
    else if name = ".." then follow t last links dir.dropLast rest
    else if last = .written ∧ rest = [""] then .error .isDirectory
    else if name.utf8ByteSize > maxName then .error .nameTooLong
    else
      match t.get? (dir ++ [name]) with
      | none => if rest.isEmpty then .ok (.free dir name) else .error .notFound
      | some .directory => follow t last links (dir ++ [name]) rest
      | some (.file octets) =>
        if rest.isEmpty then .ok (.present (dir ++ [name]) (.file octets))
        else .error .notDirectory
      | some (.link target) =>
        if rest.isEmpty ∧ last = .kept then .ok (.present (dir ++ [name]) (.link target))
        else
          match links with
          | 0 => .error .linkLoop
          | links + 1 =>
            let start := if FilePath.isAbsolute target then [] else dir
            follow t last links start (stepsOf target ++ rest)
termination_by names => (links, names.length)

/-- The directory that a path starts from, if it can be a path at all. -/
def start (t : FileTree) (path : FilePath) : Except FileError Location :=
  if path.any (· == '\x00') then .error .nulInName
  else if path.isEmpty then .error .notFound
  else if path.utf8ByteSize > maxPath then .error .nameTooLong
  else .ok (if FilePath.isAbsolute path then [] else t.current)

/-- Where a path leads. -/
def resolve (t : FileTree) (last : LastName) (path : FilePath) : Except FileError Target := do
  follow t last maxLinks (← t.start path) (stepsOf path)

/-- Where a path leads whose last name is to be made. A slash behind it does not count. -/
def resolveNew (t : FileTree) (path : FilePath) : Except FileError Target := do
  follow t .kept maxLinks (← t.start path) (namesOf path)

end FileTree

end SiteSnapshot
