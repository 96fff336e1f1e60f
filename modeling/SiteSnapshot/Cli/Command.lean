import SiteSnapshot.Cli.Options
import SiteSnapshot.Layout.FilePath

/-!
# Commands

The program has two commands: `export` writes the snapshot of a site, and `paths` lists the
pages that an export would render. Both take the same catalog arguments.
-/

namespace SiteSnapshot.Cli

/-- Which entries the catalog has, and where their units are looked up. -/
structure CatalogArgs where
  entries : List String := []
  entriesFile : Option FilePath := none
  manifest : Option FilePath := none
  sourceDirs : List FilePath := []
  extension : Option String := none
deriving DecidableEq, Repr, Inhabited

/-- The arguments of an export. -/
structure ExportArgs where
  baseUrl : String
  out : FilePath
  catalog : CatalogArgs := {}
  staticDir : Option FilePath := none
  thirdPartyDir : Option FilePath := none
  config : Option FilePath := none
  jobs : Option Nat := none
  json : Bool := false
deriving DecidableEq, Repr, Inhabited

/-- The arguments of a listing. -/
structure PathsArgs where
  catalog : CatalogArgs := {}
  config : Option FilePath := none
  json : Bool := false
deriving DecidableEq, Repr, Inhabited

/-- A command with its arguments. -/
inductive Command where
  | export (args : ExportArgs)
  | paths (args : PathsArgs)
deriving DecidableEq, Repr, Inhabited

/-- What the program is asked to do. -/
structure Invocation where
  verbose : Bool := false
  command : Command
deriving DecidableEq, Repr, Inhabited

/-! ### Options -/

/-- The switch for detailed logging, of all commands. -/
def verboseOption : OptionSpec := { name := "verbose", letter := some 'v', kind := .switch }

/-- The request for help, of all commands. -/
def helpOption : OptionSpec := { name := "help", letter := some 'h', kind := .help }

/-- The options before the command. -/
def programOptions : List OptionSpec :=
  [verboseOption, helpOption, { name := "version", letter := some 'V', kind := .version }]

/-- The options that describe the catalog. -/
def catalogOptions : List OptionSpec :=
  [{ name := "entry", kind := .text, repeatable := true },
   { name := "entries-file", kind := .path },
   { name := "manifest", kind := .path },
   { name := "source-dir", kind := .path, repeatable := true },
   { name := "extension", kind := .text }]

/-- The options of a listing. -/
def pathsOptions : List OptionSpec :=
  catalogOptions ++
    [{ name := "config", kind := .path }, { name := "json", kind := .switch }, verboseOption,
     helpOption]

/-- The options of an export. -/
def exportOptions : List OptionSpec :=
  [{ name := "base-url", kind := .text, required := true },
   { name := "out", letter := some 'o', kind := .path, required := true },
   { name := "static-dir", kind := .path },
   { name := "third-party-dir", kind := .path },
   { name := "jobs", letter := some 'j', kind := .number }] ++ pathsOptions

/-! ### From options to commands -/

/-- The catalog arguments. -/
def catalogOf (r : Reading) : CatalogArgs where
  entries := r.values "entry"
  entriesFile := r.value? "entries-file"
  manifest := r.value? "manifest"
  sourceDirs := r.values "source-dir"
  extension := r.value? "extension"

/-- The arguments of a listing. -/
def pathsOf (r : Reading) : PathsArgs where
  catalog := catalogOf r
  config := r.value? "config"
  json := r.isSet "json"

/-- The arguments of an export. -/
def exportOf (r : Reading) : ExportArgs where
  baseUrl := (r.value? "base-url").getD ""
  out := (r.value? "out").getD ""
  catalog := catalogOf r
  staticDir := r.value? "static-dir"
  thirdPartyDir := r.value? "third-party-dir"
  config := r.value? "config"
  jobs := (r.value? "jobs").bind parseNumber?
  json := r.isSet "json"

/-- Reads the arguments of a command, which takes options only. -/
def readCommand (options : List OptionSpec) (command : Reading → Command) (verbose : Bool)
    (args : List String) : Except Usage Invocation := do
  match ← Reading.readUntilPlain options {} args with
  | (_, some _) => throw .unknownArgument
  | (r, none) =>
    let r ← r.finish options
    return { verbose := verbose || r.isSet verboseOption.name, command := command r }

/-- The names of the commands. -/
def commandNames : List String := ["export", "paths", "help"]

/-- What follows `help`: at most one command. -/
def readHelp : List String → Usage
  | [] => .displayHelp
  | [name] => if commandNames.contains name then .displayHelp else .invalidSubcommand
  | _ => .invalidSubcommand

/-- Reads the arguments of the program. -/
def parse (args : List String) : Except Usage Invocation := do
  match ← Reading.readUntilPlain programOptions {} args with
  | (r, none) =>
    throw (if r.settings.isEmpty then .displayHelpOnMissingArgument else .missingSubcommand)
  | (_, some (name, true, _)) =>
    throw (if commandNames.contains name then .unknownArgument else .invalidSubcommand)
  | (r, some (name, false, rest)) =>
    let verbose := r.isSet verboseOption.name
    if name = "export" then readCommand exportOptions (.export ∘ exportOf) verbose rest
    else if name = "paths" then readCommand pathsOptions (.paths ∘ pathsOf) verbose rest
    else if name = "help" then throw (readHelp rest)
    else throw .invalidSubcommand

end SiteSnapshot.Cli
