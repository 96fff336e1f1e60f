import SiteSnapshot.Catalog.Source
import SiteSnapshot.Json.Document

/-!
# Manifest files

A manifest file is a JSON object with a list of units for each entry.
-/

namespace SiteSnapshot

namespace Manifest

/-- The manifest that a JSON value describes. -/
def ofJson : Json → Except JsonProblem Manifest
  | .object members ending => do
    let entries ← members.mapM fun (entry, units) =>
      (Json.list? Json.string? units).map (entry, ·)
    Json.closed? ending
    return ⟨entries⟩
  | .broken p => .error p
  | _ => .error .data

/-- The source that a manifest file describes, named after the file. -/
def load (t : FileTree) (path : FilePath) : Except DocumentError Source :=
  (t.readJson path ofJson).map (·.source ("manifest:" ++ path))

end Manifest

end SiteSnapshot
