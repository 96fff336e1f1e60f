import SiteSnapshot.FileTree.Resolve

/-!
# Reading and writing a file tree

The operations that a run is made of. Writing replaces a whole file, and directories are
made together with those above them; both follow links on the way. An operation that fails
half-way keeps what it has done, so making directories answers with the tree in either
case.
-/

namespace SiteSnapshot.FileTree

/-- True for a path that leads to a directory. -/
def isDir (t : FileTree) (path : FilePath) : Bool :=
  match t.resolve .followed path with
  | .ok (.present _ .directory) => true
  | _ => false

/-- The contents of a file. -/
def read (t : FileTree) (path : FilePath) : Except FileError Bytes :=
  match t.resolve .followed path with
  | .ok (.present _ (.file octets)) => .ok octets
  | .ok (.present _ .directory) => .error .isDirectory
  | .ok (.present _ (.link _)) => .error .linkLoop
  | .ok (.free _ _) => .error .notFound
  | .error e => .error e

/-- The contents of a file as text. -/
def readText (t : FileTree) (path : FilePath) : Except FileError String :=
  match t.read path with
  | .ok octets =>
    match Utf8.decode? octets with
    | some text => .ok text
    | none => .error .notText
  | .error e => .error e

/-- Makes one directory. -/
def makeDir (t : FileTree) (path : FilePath) : Except FileError FileTree :=
  match t.resolveNew path with
  | .ok (.present _ _) => .error .alreadyExists
  | .ok (.free dir name) => .ok (t.put dir name .directory)
  | .error e => .error e

/-- Makes a directory and those above it, for paths of bounded length. -/
def makeDirsWithin : Nat → FileTree → FilePath → FileTree × Option FileError
  | 0, t, _ => (t, some .notFound)
  | bound + 1, t, path =>
    if path.isEmpty then (t, none)
    else
      match t.makeDir path with
      | .ok t => (t, none)
      | .error .notFound =>
        match FilePath.parent? path with
        | none => (t, some .notFound)
        | some parent =>
          match makeDirsWithin bound t parent with
          | (t, some e) => (t, some e)
          | (t, none) =>
            match t.makeDir path with
            | .ok t => (t, none)
            | .error e => (t, if t.isDir path then none else some e)
      | .error e => (t, if t.isDir path then none else some e)

/-- Makes a directory and those above it. A directory that exists is no failure. -/
def makeDirs (t : FileTree) (path : FilePath) : FileTree × Option FileError :=
  makeDirsWithin (path.length + 1) t path

/-- Writes a file in place of one that is there. -/
def write (t : FileTree) (path : FilePath) (octets : Bytes) : Except FileError FileTree :=
  match t.resolve .written path with
  | .error e => .error e
  | .ok (.free dir name) => .ok (t.put dir name (.file octets))
  | .ok (.present _ .directory) => .error .isDirectory
  | .ok (.present loc _) =>
    match loc.getLast? with
    | some name => .ok (t.put loc.dropLast name (.file octets))
    | none => .error .isDirectory

/-- Makes a symbolic link. -/
def link (t : FileTree) (path : FilePath) (target : String) : Except FileError FileTree :=
  match t.resolveNew path with
  | .ok (.present _ _) => .error .alreadyExists
  | .ok (.free dir name) => .ok (t.put dir name (.link target))
  | .error e => .error e

/-- What lies below a directory, by the names that lead there, a directory before its
contents and siblings in the order of their names. Links below are not followed. -/
def walk (t : FileTree) (path : FilePath) : List (Location × Entry) :=
  match t.resolve .followed path with
  | .ok (.present loc .directory) => t.below loc
  | _ => []

end SiteSnapshot.FileTree
