import SiteSnapshot.Bundle.Copy
import SiteSnapshot.Catalog.Plan
import SiteSnapshot.Crawl.Render
import SiteSnapshot.Export.Config
import SiteSnapshot.Export.Report
import SiteSnapshot.Layout.MapPath
import SiteSnapshot.Page.Transform

/-!
# Exporting a site

A run renders every planned page and writes it, copies the bundles to their mounts, and
copies the favicon. A page that cannot be rendered is reported and the run goes on; a
failure to read or write a file stops the run, and what was written before it stays.
-/

namespace SiteSnapshot

/-- A bundle and the name that the site publishes it under. -/
structure Mount where
  name : String
  bundle : Bundle
deriving Repr, Inhabited

/-- A bundle under a name, which has no slashes at its ends. -/
def Mount.named (name : String) (bundle : Bundle) : Mount :=
  ⟨trimSlashes name, bundle⟩

/-- What is exported, and where to. -/
structure Export where
  router : Router
  config : ExportConfig := {}
  out : FilePath
  mounts : List Mount := []

/-- A run in progress: the file tree, the report so far, and what was done in order. -/
structure Progress where
  tree : FileTree
  report : Report := {}
  events : List Event := []

/-- How a run ended: what it left behind and the failure that stopped it, if any. -/
structure Outcome where
  progress : Progress
  stopped : Option Failure := none

namespace Outcome

/-- The file tree that a run left behind. -/
def tree (o : Outcome) : FileTree := o.progress.tree

/-- The events of a run. -/
def events (o : Outcome) : List Event := o.progress.events

/-- The report of a run that was not stopped. -/
def result (o : Outcome) : Except Failure Report :=
  match o.stopped with
  | none => .ok o.progress.report
  | some e => .error e

end Outcome

namespace Export

/-- The pages of a run. -/
def plan (e : Export) (units : List String) : List String :=
  Catalog.planPages e.config.staticPages units

/-- The file of a page. -/
def pageFile (e : Export) (path : String) : FilePath :=
  FilePath.join e.out (mapPath path)

/-- What is written for a rendered page: HTML is relocated for its place, and anything else
is kept. -/
def pageContent (page : RenderedPage) : Bytes :=
  if page.isHtml then Page.transform page.body page.path else page.body

/-- Renders a page and writes it. -/
def exportPage (e : Export) (t : FileTree) (path : String) : FileTree × Except Failure Unit :=
  match Crawl.render e.router path with
  | .error f => (t, .error f)
  | .ok page => Output.write t (e.pageFile path) (pageContent page)

/-- The requests that rendering a page makes. -/
def pageRequests (e : Export) (path : String) : List Event :=
  (Crawl.visit e.router path).requested.map .request

/-- Exports the pages from an index on, of so many. -/
def exportPages (e : Export) (total : Nat) : Nat → List String → Progress → Outcome
  | _, [], p => ⟨p, none⟩
  | index, path :: rest, p =>
    let events := p.events ++ .page index total path :: e.pageRequests path
    let (tree, result) := e.exportPage p.tree path
    match p.report.addPage path result with
    | .ok report => exportPages e total (index + 1) rest { tree, report, events }
    | .error f => ⟨{ p with tree, events }, some f⟩

/-- Copies the bundles of mounts. -/
def copyMounts (e : Export) : List Mount → Progress → Outcome
  | [], p => ⟨p, none⟩
  | mount :: rest, p =>
    match mount.bundle.copy p.tree mount.name e.out with
    | (tree, .error f) => ⟨{ p with tree }, some f⟩
    | (tree, .ok count) =>
      let report := { p.report with assetsWritten := p.report.assetsWritten + count }
      copyMounts e rest { p with tree, report }

/-- The mount and the path below it that the favicon is configured to, if it is mounted. -/
def favicon? (e : Export) : Option (Mount × String) := do
  let favicon ← e.config.favicon
  let text := favicon.toList.dropWhile (· == '/')
  let name := text.takeWhile (· != '/')
  let path ← (text.drop name.length).tail?
  let mount ← e.mounts.find? (·.name == String.ofList name)
  return (mount, String.ofList path)

/-- Copies the favicon to the root of the output. That there is none is no failure. -/
def copyFavicon (e : Export) (p : Progress) : Outcome :=
  match e.favicon? with
  | none => ⟨p, none⟩
  | some (mount, path) =>
    match mount.bundle.read p.tree path with
    | .error _ => ⟨p, none⟩
    | .ok octets =>
      match Output.write p.tree (FilePath.join e.out "favicon.ico") octets with
      | (tree, .error f) => ⟨{ p with tree }, some f⟩
      | (tree, .ok ()) =>
        let report := { p.report with assetsWritten := p.report.assetsWritten + 1 }
        ⟨{ p with tree, report }, none⟩

/-- Adds an event. -/
def announce (event : Event) (p : Progress) : Progress :=
  { p with events := p.events ++ [event] }

/-- Goes on unless the run was stopped. -/
def andThen (o : Outcome) (next : Progress → Outcome) : Outcome :=
  match o.stopped with
  | none => next o.progress
  | some _ => o

/-- Exports the site to a file tree. -/
def run (e : Export) (units : List String) (t : FileTree) : Outcome :=
  let plan := e.plan units
  let pages := e.exportPages plan.length 1 plan (announce (.start plan.length) { tree := t })
  let bundles := andThen pages fun p =>
    copyMounts e e.mounts
      (if e.mounts.isEmpty then p else announce (.stage "Copying static assets...") p)
  let favicon := andThen bundles (copyFavicon e)
  andThen favicon fun p =>
    ⟨announce (.stage ("Static site generated in " ++ e.out)) p, none⟩

end Export

end SiteSnapshot
