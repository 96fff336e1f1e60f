import SiteSnapshot.Catalog.Entries
import SiteSnapshot.Catalog.Enumerate
import SiteSnapshot.Catalog.Manifest
import SiteSnapshot.Cli.Command
import SiteSnapshot.Cli.Table
import SiteSnapshot.Crawl.Site
import SiteSnapshot.Export.Run

/-!
# Running a command

Everything that a command needs is checked before it has any effect, in a fixed order: the
configuration, the entries file, the manifest, that entries have a source, the base URL, and
the two directories of bundles. The exit code tells a complete export from one with failed
pages and from one that could not start or was stopped.
-/

namespace SiteSnapshot.Cli

/-- Why a command did not run to its end. -/
inductive RunError where
  | config (path : FilePath) (cause : DocumentError)
  | entriesFile (path : FilePath) (cause : FileError)
  | manifest (path : FilePath) (cause : DocumentError)
  | entriesWithoutSource
  | baseUrl (cause : BaseUrlError)
  | missingBundle (mount : String) (path : FilePath)
  | stopped (out : FilePath) (cause : Failure)
deriving DecidableEq, Repr, Inhabited

/-- The messages of an error and its causes, from the outside in. -/
def RunError.messages : RunError → List String
  | .config path cause => cause.messages "config" path
  | .entriesFile path cause => ["reading entries file " ++ path, cause.message]
  | .manifest path cause => cause.messages "manifest" path
  | .entriesWithoutSource =>
    ["catalog entries given but no --manifest or --source-dir to look them up in"]
  | .baseUrl cause => [cause.message]
  | .missingBundle mount path => [mount ++ " directory " ++ path ++ " does not exist"]
  | .stopped out cause =>
    ["exporting to " ++ out, cause.message] ++
      match cause with
      | .file _ reason => [reason.message]
      | _ => []

/-- What a command leaves behind: its output or its error, the files, and what it did. -/
structure Outcome where
  output : Except RunError (String × Bool)
  tree : FileTree
  events : List Event := []

namespace Outcome

/-- All that was printed. -/
def stdout (o : Outcome) : String :=
  match o.output with
  | .ok (text, _) => text
  | .error _ => ""

/-- The messages of the error. -/
def stderr (o : Outcome) : List String :=
  match o.output with
  | .ok _ => []
  | .error e => e.messages

/-- The exit code. -/
def exitCode (o : Outcome) : Nat :=
  match o.output with
  | .ok (_, true) => 0
  | .ok (_, false) => 1
  | .error _ => 2

end Outcome

/-! ### The catalog stage -/

/-- The configuration of a run. -/
def loadConfig (t : FileTree) : Option FilePath → Except RunError ExportConfig
  | none => .ok {}
  | some path => (ExportConfig.load t path).mapError (.config path)

/-- The entries of the catalog. -/
def catalogEntries (t : FileTree) (c : CatalogArgs) : Except RunError (List String) :=
  match c.entriesFile with
  | none => .ok c.entries
  | some path =>
    match t.readText path with
    | .ok text => .ok (c.entries ++ Catalog.parseEntries text)
    | .error e => .error (.entriesFile path e)

/-- The sources of the catalog: the manifest is asked first, then the directories. -/
def catalogSources (t : FileTree) (c : CatalogArgs) : Except RunError (List Source) :=
  let dirs := c.sourceDirs.map fun root => SourceDirectory.source ⟨root, c.extension⟩ t
  match c.manifest with
  | none => .ok dirs
  | some path =>
    match Manifest.load t path with
    | .ok source => .ok (source :: dirs)
    | .error e => .error (.manifest path e)

/-- The units of the catalog. -/
def catalogUnits (t : FileTree) (c : CatalogArgs) : Except RunError (List String) := do
  let entries ← catalogEntries t c
  let sources ← catalogSources t c
  if !entries.isEmpty && sources.isEmpty then throw .entriesWithoutSource
  return Catalog.enumerate entries sources

/-! ### The commands -/

/-- The mount of a directory, if one is given. -/
def mountDirectory (t : FileTree) (name : String) :
    Option FilePath → Except RunError (List Mount)
  | none => .ok []
  | some root =>
    if t.isDir root then .ok [Mount.named name (.directory root)]
    else .error (.missingBundle name root)

/-- All that an export needs: what to export, and the units of the catalog. -/
def prepare (web : Web) (args : ExportArgs) (t : FileTree) :
    Except RunError (Export × List String) := do
  let config ← loadConfig t args.config
  let config := { config with jobs := (args.jobs.map (max 1)).getD config.jobs }
  let units ← catalogUnits t args.catalog
  let site ← (Site.ofText args.baseUrl).mapError .baseUrl
  let static ← mountDirectory t "static" args.staticDir
  let thirdParty ← mountDirectory t "third_party" args.thirdPartyDir
  return ({ router := site.router web, config, out := args.out, mounts := static ++ thirdParty },
    units)

/-- Prints a report. -/
def printReport (args : ExportArgs) (report : Report) : String :=
  if args.json then printJson (jsonOfReport report) else printTable report args.out

/-- Runs an export. -/
def runExport (web : Web) (args : ExportArgs) (t : FileTree) : Outcome :=
  match prepare web args t with
  | .error e => { output := .error e, tree := t }
  | .ok (e, units) =>
    let outcome := e.run units t
    let output :=
      match outcome.result with
      | .ok report => .ok (printReport args report, report.isOk)
      | .error cause => .error (.stopped args.out cause)
    { output, tree := outcome.tree, events := outcome.events }

/-- The pages that an export with the same arguments would render. -/
def listing (args : PathsArgs) (t : FileTree) : Except RunError (List String) := do
  let config ← loadConfig t args.config
  let units ← catalogUnits t args.catalog
  return Catalog.planPages config.staticPages units

/-- Lists the pages of an export. -/
def runPaths (args : PathsArgs) (t : FileTree) : Outcome :=
  let print (paths : List String) : String :=
    if args.json then printJson (jsonOfPaths paths) else printLines paths
  { output := (listing args t).map fun paths => (print paths, true), tree := t }

/-- Runs a command on a web and a file tree. -/
def run (web : Web) (t : FileTree) : Command → Outcome
  | .export args => runExport web args t
  | .paths args => runPaths args t

end SiteSnapshot.Cli
