import SiteSnapshot.Json.Document

/-!
# The configuration of a run

A configuration file is a JSON object. Every field has a default; a field that is unknown or
that occurs twice is refused, and so is a value of another type. A list of values in the
order of the fields is accepted in place of the object.
-/

namespace SiteSnapshot

/-- What a site owner may set for a run. -/
structure ExportConfig where
  /-- Pages that are rendered right after the homepage. -/
  staticPages : List String := ["/about", "/license-policy", "/search-help"]
  /-- The file of a bundle that is copied to `favicon.ico` at the root of the output. -/
  favicon : Option String := some "static/shared/icon/favicon.ico"
  /-- How many pages may be in progress at once. -/
  jobs : Nat := 1
  /-- How long a request may take. -/
  requestTimeoutSecs : Nat := 30
deriving DecidableEq, Repr, Inhabited

namespace ExportConfig

/-- The fields, in the order of a list of values. -/
inductive Field where
  | staticPages
  | favicon
  | jobs
  | requestTimeoutSecs
deriving DecidableEq, Repr

/-- The names of the fields. -/
def fields : List (String × Field) :=
  [("static_pages", .staticPages), ("favicon", .favicon), ("jobs", .jobs),
   ("request_timeout_secs", .requestTimeoutSecs)]

/-- Sets a field to a JSON value. -/
def set (c : ExportConfig) (value : Json) : Field → Except JsonProblem ExportConfig
  | .staticPages =>
    (Json.list? Json.string? value).map fun pages => { c with staticPages := pages }
  | .favicon => (Json.optional? Json.string? value).map fun icon => { c with favicon := icon }
  | .jobs => (Json.natural? value).map fun n => { c with jobs := n }
  | .requestTimeoutSecs =>
    (Json.natural? value).map fun n => { c with requestTimeoutSecs := n }

/-- Sets the fields of an object, of which some are set already. -/
def setMembers (c : ExportConfig) (done : List Field) :
    List (String × Json) → Except JsonProblem ExportConfig
  | [] => .ok c
  | (key, value) :: rest =>
    match fields.lookup key with
    | none => .error .data
    | some field =>
      if field ∈ done then .error .data
      else
        match c.set value field with
        | .error p => .error p
        | .ok c => setMembers c (field :: done) rest

/-- Sets fields to the items of a list. A list with more items is no list of values. -/
def setItems (c : ExportConfig) : List Field → List Json → Except JsonProblem ExportConfig
  | _, [] => .ok c
  | [], _ :: _ => .error .malformed
  | field :: fields, value :: rest =>
    match c.set value field with
    | .error p => .error p
    | .ok c => setItems c fields rest

/-- The configuration that a JSON value describes; at least one page is in progress. -/
def ofJson (value : Json) : Except JsonProblem ExportConfig := do
  let c ←
    match value with
    | .object members ending => do
      let c ← setMembers {} [] members
      Json.closed? ending
      pure c
    | .array items ending => do
      let c ← setItems {} (fields.map (·.2)) items
      Json.closed? ending
      pure c
    | .broken p => throw p
    | _ => throw .data
  return { c with jobs := max 1 c.jobs }

/-- The configuration that a text describes. -/
def ofText (text : String) : Except JsonProblem ExportConfig :=
  Json.readAs text ofJson

/-- The configuration that a file describes. -/
def load (t : FileTree) (path : FilePath) : Except DocumentError ExportConfig :=
  t.readJson path ofJson

end ExportConfig

end SiteSnapshot
