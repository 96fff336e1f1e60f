import Mathlib.Logic.Basic
import Mathlib.Tactic.SplitIfs
import SiteSnapshot.Cli.Run

/-!
# Checks before an export

Seven things are checked before an export has any effect. `Check.error?` says of each of them, apart
from the others, what is wrong with the arguments on a file tree, and `Check.all` is their order.

A stage of the preparation `FailsWith` the error of its checks, and stages one after the other fail
with the first error of theirs (`FailsWith.bind`). So an export is prepared exactly if no check
fails, and else the error is that of the first check that does (`failsWith_prepare`), and the run
has no effect (`run_unstarted`).
-/

namespace SiteSnapshot.Cli

/-! ### Computations that may fail -/

/-- The error of a computation. -/
def errorOf? {ε α : Type} : Except ε α → Option ε
  | .ok _ => none
  | .error e => some e

/-- A computation that fails with an error, or gives a result if there is none. -/
def FailsWith {ε α : Type} (x : Except ε α) : Option ε → Prop
  | none => ∃ a, x = .ok a
  | some e => x = .error e

namespace FailsWith

variable {ε α β : Type} {x : Except ε α} {f : α → Except ε β} {r r' : Option ε}

/-- What comes after a computation fails only if the computation does not. -/
theorem bind (h : FailsWith x r) (hf : ∀ a, x = .ok a → FailsWith (f a) r') :
    FailsWith (x >>= f) (r.or r') := by
  cases r with
  | none =>
    obtain ⟨a, rfl⟩ := h
    exact hf a rfl
  | some e =>
    obtain rfl : x = .error e := h
    exact rfl

theorem exists_of_bind {b : β} (h : x >>= f = .ok b) : ∃ a, x = .ok a ∧ f a = .ok b := by
  cases x with
  | error e => cases h
  | ok a => exact ⟨a, rfl, h⟩

theorem ok (a : α) : FailsWith (.ok a : Except ε α) none :=
  ⟨a, rfl⟩

theorem mapError {ε' : Type} (x : Except ε α) (f : ε → ε') :
    FailsWith (x.mapError f) ((errorOf? x).map f) := by
  cases x with
  | ok a => exact ⟨a, rfl⟩
  | error e => exact rfl

theorem eq_error_iff (h : FailsWith x r) {e : ε} : x = .error e ↔ r = some e := by
  cases r with
  | none =>
    obtain ⟨a, rfl⟩ := h
    exact ⟨nofun, nofun⟩
  | some e' =>
    obtain rfl : x = .error e' := h
    simp

end FailsWith

/-! ### The checks -/

/-- Something that is checked before an export starts. -/
inductive Check where
  | config
  | entriesFile
  | manifest
  | entriesWithoutSource
  | baseUrl
  | staticDirectory
  | thirdPartyDirectory
deriving DecidableEq

/-- The entries that can be read: those of the arguments and those of the file, if it is text. -/
def readableEntries (t : FileTree) (c : CatalogArgs) : List String :=
  c.entries ++
    match c.entriesFile with
    | none => []
    | some path =>
      match t.readText path with
      | .ok text => Catalog.parseEntries text
      | .error _ => []

/-- The error of a bundle that is given and is no directory. -/
def missingBundle? (t : FileTree) (mount : String) (given : Option FilePath) : Option RunError :=
  given.bind fun dir => if t.isDir dir then none else some (.missingBundle mount dir)

namespace Check

/-- The checks of the catalog in their order. -/
def ofCatalog : List Check :=
  [.config, .entriesFile, .manifest, .entriesWithoutSource]

/-- The checks in their order. -/
def all : List Check :=
  ofCatalog ++ [.baseUrl, .staticDirectory, .thirdPartyDirectory]

/-- What a check finds wrong, whatever other checks do. -/
def error? (args : ExportArgs) (t : FileTree) : Check → Option RunError
  | .config => args.config.bind fun path =>
    (errorOf? (ExportConfig.load t path)).map (.config path)
  | .entriesFile => args.catalog.entriesFile.bind fun path =>
    (errorOf? (t.readText path)).map (.entriesFile path)
  | .manifest => args.catalog.manifest.bind fun path =>
    (errorOf? (Manifest.load t path)).map (.manifest path)
  | .entriesWithoutSource =>
    if readableEntries t args.catalog ≠ [] ∧ args.catalog.manifest = none ∧
        args.catalog.sourceDirs = [] then some .entriesWithoutSource
    else none
  | .baseUrl => (errorOf? (Site.ofText args.baseUrl)).map .baseUrl
  | .staticDirectory => missingBundle? t "static" args.staticDir
  | .thirdPartyDirectory => missingBundle? t "third_party" args.thirdPartyDir

/-- The error of the first of some checks that fails. -/
def firstError? (args : ExportArgs) (t : FileTree) (checks : List Check) : Option RunError :=
  checks.findSome? (error? args t)

variable {args : ExportArgs} {t : FileTree}

theorem firstError?_nil : firstError? args t [] = none := rfl

theorem firstError?_cons (c : Check) (checks : List Check) :
    firstError? args t (c :: checks) = (c.error? args t).or (firstError? args t checks) := by
  rw [firstError?, firstError?, List.findSome?_cons]
  cases c.error? args t <;> rfl

theorem firstError?_append (checks more : List Check) :
    firstError? args t (checks ++ more) =
      (firstError? args t checks).or (firstError? args t more) :=
  List.findSome?_append

end Check

open Check

variable {args : ExportArgs} {t : FileTree} {web : Web}

/-! ### The stages -/

theorem failsWith_loadConfig :
    FailsWith (loadConfig t args.config) (Check.config.error? args t) := by
  rw [error?]
  cases args.config with
  | none => exact .ok _
  | some path => exact .mapError _ _

theorem failsWith_catalogEntries :
    FailsWith (catalogEntries t args.catalog) (Check.entriesFile.error? args t) := by
  rw [catalogEntries, error?]
  cases args.catalog.entriesFile with
  | none => exact .ok _
  | some path =>
    simp only [Option.bind_some]
    cases t.readText path with
    | ok text => exact .ok _
    | error cause => exact rfl

theorem failsWith_catalogSources :
    FailsWith (catalogSources t args.catalog) (Check.manifest.error? args t) := by
  rw [catalogSources, error?]
  cases args.catalog.manifest with
  | none => exact .ok _
  | some path =>
    simp only [Option.bind_some]
    cases Manifest.load t path with
    | ok source => exact .ok _
    | error cause => exact rfl

/-- The entries that were read are those that can be. -/
theorem eq_readableEntries {entries : List String}
    (h : catalogEntries t args.catalog = .ok entries) :
    entries = readableEntries t args.catalog := by
  rw [catalogEntries] at h
  rw [readableEntries]
  cases hfile : args.catalog.entriesFile with
  | none =>
    rw [hfile] at h
    rw [← Except.ok.inj h]
    exact (List.append_nil _).symm
  | some path =>
    simp only [hfile] at h ⊢
    cases hread : t.readText path with
    | ok text =>
      rw [hread] at h
      exact (Except.ok.inj h).symm
    | error cause =>
      rw [hread] at h
      cases h

/-- There are no sources exactly if none are given. -/
theorem sources_eq_nil_iff {sources : List Source}
    (h : catalogSources t args.catalog = .ok sources) :
    sources = [] ↔ args.catalog.manifest = none ∧ args.catalog.sourceDirs = [] := by
  rw [catalogSources] at h
  cases hmanifest : args.catalog.manifest with
  | none =>
    rw [hmanifest] at h
    rw [← Except.ok.inj h]
    simp
  | some path =>
    simp only [hmanifest] at h
    cases hload : Manifest.load t path with
    | ok source =>
      rw [hload] at h
      rw [← Except.ok.inj h]
      simp
    | error cause =>
      rw [hload] at h
      cases h

theorem failsWith_catalogUnits : FailsWith (catalogUnits t args.catalog)
    (firstError? args t [.entriesFile, .manifest, .entriesWithoutSource]) := by
  rw [catalogUnits, firstError?_cons, firstError?_cons, firstError?_cons]
  refine failsWith_catalogEntries.bind fun entries hentries =>
    failsWith_catalogSources.bind fun sources hsources => ?_
  have hnone : (!entries.isEmpty && sources.isEmpty) = true ↔
      readableEntries t args.catalog ≠ [] ∧ args.catalog.manifest = none ∧
        args.catalog.sourceDirs = [] := by
    rw [Bool.and_eq_true, Bool.not_eq_true', List.isEmpty_eq_false_iff, List.isEmpty_iff,
      sources_eq_nil_iff hsources, eq_readableEntries hentries]
  rw [error?, ← if_congr hnone rfl rfl, firstError?_nil, Option.or_none]
  split_ifs
  · exact rfl
  · exact .ok _

theorem failsWith_mountDirectory (name : String) (dir : Option FilePath) :
    FailsWith (mountDirectory t name dir) (missingBundle? t name dir) := by
  cases dir with
  | none => exact .ok _
  | some dir =>
    rw [mountDirectory, missingBundle?, Option.bind_some]
    split_ifs
    · exact .ok _
    · exact rfl

/-- **An export is prepared** exactly if no check fails, and else the first one says why not. -/
theorem failsWith_prepare : FailsWith (prepare web args t) (firstError? args t all) := by
  have hall : firstError? args t all = (Check.config.error? args t).or
      ((firstError? args t [.entriesFile, .manifest, .entriesWithoutSource]).or
        ((Check.baseUrl.error? args t).or ((Check.staticDirectory.error? args t).or
          (Check.thirdPartyDirectory.error? args t)))) := by
    rw [all, ofCatalog, firstError?_append, firstError?_cons, firstError?_cons .baseUrl,
      firstError?_cons .staticDirectory, firstError?_cons .thirdPartyDirectory, firstError?_nil,
      Option.or_none, Option.or_assoc]
  rw [prepare, hall]
  refine failsWith_loadConfig.bind fun config _ => failsWith_catalogUnits.bind fun units _ => ?_
  refine (FailsWith.mapError _ _).bind fun site _ => ?_
  refine (failsWith_mountDirectory _ _).bind fun static _ => ?_
  rw [← Option.or_none (o := Check.thirdPartyDirectory.error? args t)]
  exact (failsWith_mountDirectory _ _).bind fun thirdParty _ => .ok _

/-! ### Runs that do not start -/

/-- An export that is not prepared does nothing. -/
theorem runExport_of_prepare_error {e : RunError} (h : prepare web args t = .error e) :
    runExport web args t = { output := .error e, tree := t } := by
  rw [runExport, h]

theorem Check.mem_all (c : Check) : c ∈ all := by
  cases c <;> decide

/-- **A run that cannot start has no effect.** If any check fails, whatever it is and whichever
others do, then the error of the run is that of the first check in order that fails. Nothing is
printed but its messages, nothing is requested from the site or announced, the file tree stays as it
is, and the exit code is that of an error. -/
theorem run_unstarted (web : Web) {c : Check} {e : RunError} (h : c.error? args t = some e) :
    ∃ before first after cause, Check.all = before ++ first :: after ∧
      (∀ b ∈ before, b.error? args t = none) ∧ first.error? args t = some cause ∧
      (run web t (.export args)).output = .error cause ∧
      (run web t (.export args)).stderr = cause.messages ∧
      (run web t (.export args)).stdout = "" ∧
      (run web t (.export args)).events = [] ∧
      (run web t (.export args)).tree = t ∧
      (run web t (.export args)).exitCode = 2 := by
  have hfails : firstError? args t all ≠ none := fun hnone => by
    rw [firstError?, List.findSome?_eq_none_iff] at hnone
    exact Option.some_ne_none e (h.symm.trans (hnone c c.mem_all))
  obtain ⟨cause, hcause⟩ := Option.ne_none_iff_exists'.mp hfails
  have hrun : run web t (.export args) = { output := .error cause, tree := t } :=
    runExport_of_prepare_error (failsWith_prepare.eq_error_iff.mpr hcause)
  obtain ⟨before, first, after, hall, hfirst, hbefore⟩ := List.findSome?_eq_some_iff.mp hcause
  rw [hrun]
  exact ⟨before, first, after, cause, hall, hbefore, hfirst, rfl, rfl, rfl, rfl, rfl, rfl⟩

/-- An export with two faults: an entry to be looked up nowhere, and a base URL that is none. -/
def misguided : ExportArgs where
  baseUrl := "go.dev"
  out := "out"
  catalog := { entries := ["std"] }

theorem run_unstarted_misguided :
    (run .unreachable .empty (.export misguided)).output = .error .entriesWithoutSource ∧
      (run .unreachable .empty (.export misguided)).stdout = "" ∧
      (run .unreachable .empty (.export misguided)).events = [] ∧
      (run .unreachable .empty (.export misguided)).tree = .empty ∧
      (run .unreachable .empty (.export misguided)).exitCode = 2 := by
  have hbase : Check.baseUrl.error? misguided .empty =
      some (.baseUrl (.invalid "go.dev" .noBase)) := by decide
  obtain ⟨-, -, -, -, -, -, -, -, -, hstdout, hevents, htree, hcode⟩ :=
    run_unstarted .unreachable hbase
  exact ⟨rfl, hstdout, hevents, htree, hcode⟩

end SiteSnapshot.Cli
