import SiteSnapshot.Failure

/-!
# Sources

A catalog entry is a name such as `github.com/user/repo`. A **source** knows the units of
some entries, which are the pages that the entry has. A `Manifest` lists them.
-/

namespace SiteSnapshot

/-- Tells the units of an entry. -/
structure Source where
  name : String
  units : String → Except Failure (List String)

/-- Entries with their units. Of an entry listed twice the last one counts. -/
structure Manifest where
  entries : List (String × List String) := []
deriving DecidableEq, Repr, Inhabited

namespace Manifest

/-- The units of an entry. -/
def get? (m : Manifest) (entry : String) : Option (List String) :=
  m.entries.reverse.lookup entry

/-- A manifest as a source. -/
def source (m : Manifest) (name : String) : Source where
  name := name
  units entry :=
    match m.get? entry with
    | some units => .ok units
    | none => .error (.noUnits name entry "entry not listed")

end Manifest

end SiteSnapshot
