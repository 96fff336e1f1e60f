import Std.Async.DNS
import Std.Async.TCP
import SiteSnapshot.Cli.Run
import SiteSnapshot.Crawl.Recording
import SiteSnapshot.Crawl.Wire

/-!
# The program

The outer layer: it reads the files that a command names, runs the command on them, and
writes back what changed. An export asks its site for pages first, in rounds, until a run on
the recorded answers lacks none (`Recording`); only then are files written.
-/

namespace SiteSnapshot.Program

/-! ### Files -/

/-- A location as an absolute path. -/
def pathOf (loc : Location) : FilePath :=
  "/" ++ "/".intercalate loc

/-- The files and directories that a command names. -/
def namedPaths : Cli.Command → List FilePath
  | .paths args => catalogPaths args.catalog ++ args.config.toList
  | .export args =>
    catalogPaths args.catalog ++ args.config.toList ++ args.staticDir.toList ++
      args.thirdPartyDir.toList ++ [args.out]
where
  /-- Those of the catalog. -/
  catalogPaths (c : Cli.CatalogArgs) : List FilePath :=
    c.entriesFile.toList ++ c.manifest.toList ++ c.sourceDirs

/-- Reads what lies under a name of a directory into a tree, a directory without its
contents. A link leads straight to what it stands for in the end. -/
def loadEntry (t : FileTree) (dir : Location) (name : String) : IO FileTree := do
  let entry : IO.FS.DirEntry := ⟨pathOf dir, name⟩
  match ← entry.path.symlinkMetadata.toBaseIO with
  | .error _ => return t
  | .ok found =>
    match found.type with
    | .dir => return t.put dir name .directory
    | .file => return t.put dir name (.file (← IO.FS.readBinFile entry.path).toList)
    | .symlink =>
      match ← (IO.FS.realPath entry.path).toBaseIO with
      | .ok target => return t.put dir name (.link target.toString)
      | .error _ => return t
    | .other => return t

/-- Reads what lies along some names from a directory, and answers with where they lead. -/
partial def loadAlong (t : FileTree) (dir : Location) :
    List String → IO (FileTree × Option Location)
  | [] => return (t, some dir)
  | "." :: rest => loadAlong t dir rest
  | ".." :: rest => loadAlong t dir.dropLast rest
  | name :: rest => do
    let t ← loadEntry t dir name
    match t.get? (dir ++ [name]) with
    | some .directory => loadAlong t (dir ++ [name]) rest
    | some (.link target) => loadAlong t [] (FileTree.namesOf target ++ rest)
    | _ => return (t, none)

/-- Reads all that lies below a directory. The directories `seen` are not read again. -/
partial def loadBelow (t : FileTree) (dir : Location) (seen : List Location) :
    IO (FileTree × List Location) := do
  if seen.contains dir then return (t, seen)
  let mut tree := t
  let mut seen := dir :: seen
  for entry in ← (← IO.FS.realPath (pathOf dir)).readDir do
    tree ← loadEntry tree dir entry.fileName
    let (next, place) ← loadAlong tree dir [entry.fileName]
    tree := next
    if let some place := place then
      let (next, more) ← loadBelow tree place seen
      tree := next
      seen := more
  return (tree, seen)

/-- Reads some files and directories with all that lies below them. -/
def load (paths : List FilePath) : IO FileTree := do
  let current := FileTree.namesOf (← IO.currentDir).toString
  let (tree, _) ← loadAlong .empty [] current
  let mut tree := tree.enter current
  let mut seen := []
  for path in paths do
    let start := if FilePath.isAbsolute path then [] else current
    let (next, place) ← loadAlong tree start (FileTree.namesOf path)
    tree := next
    if let some place := place then
      let (next, more) ← loadBelow tree place seen
      tree := next
      seen := more
  return tree

/-- Writes what differs between two trees. -/
def save (before after : FileTree) : IO Unit := do
  for (loc, entry) in after.entries do
    if before.get? loc ≠ some entry then
      match entry with
      | .directory => IO.FS.createDirAll (pathOf loc)
      | .file octets => IO.FS.writeBinFile (pathOf loc) octets.toByteArray
      | .link _ => pure ()

/-! ### The network -/

/-- Receives until the connection ends. -/
partial def receive (client : Std.Async.TCP.Socket.Client) (done : ByteArray) : IO ByteArray := do
  match ← (client.recv? 65536).block with
  | none => return done
  | some more => receive client (done ++ more)

/-- The address of a host at a port. -/
def socketAddress (port : UInt16) : Std.Net.IPAddr → Std.Net.SocketAddress
  | .v4 address => .v4 ⟨address, port⟩
  | .v6 address => .v6 ⟨address, port⟩

/-- Sends a request to the host of a URL and reads the response. -/
def exchange (url : Url) : IO Bytes := do
  let host := (url.host.elim "" (·.text)).toList.filter fun c => c != '[' && c != ']'
  let port := (url.port.getD 80).toUInt16
  let addresses ← (Std.Async.DNS.getAddrInfo (String.ofList host) "").block
  match addresses[0]? with
  | none => throw (IO.userError "no address for the host")
  | some address =>
    let client ← Std.Async.TCP.Socket.Client.mk
    (client.connect (socketAddress port address)).block
    (client.send (Wire.request "GET" url).toByteArray).block
    return (← receive client .empty).toList

/-- The answer to a request, or why there is none. -/
def ask (url : Url) : IO (Except String WebResponse) := do
  let failed (reason : String) : Except String WebResponse :=
    .error ("error sending request for url (" ++ url.text ++ "): " ++ reason)
  if url.scheme ≠ "http" then return Web.unreachable "GET" url
  match ← (exchange url).toBaseIO with
  | .error e => return failed (toString e)
  | .ok octets => return (Wire.response octets).mapError fun e => e.message

/-- Records what a command asks its site for. -/
def record (tree : FileTree) (command : Cli.Command) (site : Site) : IO Recording := do
  let mut recording : Recording := {}
  for _ in [0:maxRedirects + 1] do
    let outcome := Cli.run recording.web tree command
    for url in recording.missing site outcome.events do
      recording := recording.add url (← ask url)
  return recording

/-- The web that a command needs; a listing and a faulty base URL need none. -/
def webOf (tree : FileTree) (command : Cli.Command) : IO Web := do
  match command with
  | .paths _ => return Web.unreachable
  | .export args =>
    match Site.ofText args.baseUrl with
    | .error _ => return Web.unreachable
    | .ok site => return (← record tree command site).web

/-! ### The terminal -/

/-- What is said about arguments that are no command. -/
def usageText : Cli.Usage → String
  | .displayHelp | .displayHelpOnMissingArgument =>
    "Usage: site-snapshot [-v] export --base-url <URL> --out <DIR> [OPTIONS]\n" ++
      "       site-snapshot [-v] paths [OPTIONS]"
  | .displayVersion => "site-snapshot 0.1.0"
  | .missingRequiredArgument => "error: required arguments were not provided"
  | .missingSubcommand => "error: a subcommand is required but was not provided"
  | .unknownArgument => "error: unexpected argument found"
  | .invalidSubcommand => "error: unrecognized subcommand"
  | .invalidValue => "error: a value is required but none was supplied"
  | .valueValidation => "error: invalid value"
  | .argumentConflict => "error: an argument cannot be used multiple times"
  | .tooManyValues => "error: unexpected value for an argument"

/-- The line about an event of a run. -/
def progressLine? : Event → Option String
  | .start total => some ("Generating " ++ toString total ++ " pages...")
  | .page index total path =>
    some ("  [" ++ toString index ++ "/" ++ toString total ++ "] " ++ path)
  | .stage message => some message
  | .request _ => none

/-- True for a command that reports in JSON, without lines about its progress. -/
def isQuiet : Cli.Command → Bool
  | .export args => args.json
  | .paths _ => true

/-- Runs a command on the files and the network. -/
def execute (command : Cli.Command) : IO UInt32 := do
  let tree ← load (namedPaths command)
  let outcome := Cli.run (← webOf tree command) tree command
  save tree outcome.tree
  if !isQuiet command then
    for line in outcome.events.filterMap progressLine? do IO.eprintln line
  IO.print outcome.stdout
  if !outcome.stderr.isEmpty then IO.eprintln ("Error: " ++ ": ".intercalate outcome.stderr)
  return outcome.exitCode.toUInt32

end SiteSnapshot.Program

/-- Runs the program on its arguments. -/
def main (args : List String) : IO UInt32 := do
  match SiteSnapshot.Cli.parse args with
  | .ok invocation => SiteSnapshot.Program.execute invocation.command
  | .error usage =>
    let text := SiteSnapshot.Program.usageText usage
    if usage.exitCode = 0 then IO.println text else IO.eprintln text
    return usage.exitCode.toUInt32
