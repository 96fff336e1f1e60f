import SiteSnapshot.Export.Run

/-!
# Exporting pages at the same time

With several jobs the pages of a run are tasks that take turns. A task is **announced** under
the next index, renders its page, makes the directory of its file, writes the file, and is
finished; other tasks may move between any two of these steps, and at most as many tasks as
there are jobs are under way. A `Schedule` is a situation of all tasks, `Schedule.advance`
moves one of them, and `Schedule.Reaches` is any number of moves, so that what holds of every
reachable schedule holds however the tasks take turns.

`Export.run` is the case of one job, in which every task is finished before the next is
announced.
-/

namespace SiteSnapshot

/-- How far the task of a page has come. -/
inductive PageStage where
  | waiting
  | announced
  | rendered (page : RenderedPage)
  | placed (page : RenderedPage)
  | finished
deriving DecidableEq, Repr, Inhabited

namespace PageStage

/-- True for a task under way. -/
def isRunning : PageStage → Bool
  | .waiting | .finished => false
  | _ => true

end PageStage

/-- The task of a page. -/
structure PageTask where
  path : String
  stage : PageStage := .waiting
deriving DecidableEq, Repr, Inhabited

/-- The tasks of a run, the number of those announced, and what they have done together. -/
structure Schedule where
  tasks : List PageTask
  announced : Nat := 0
  outcome : Outcome

namespace Schedule

/-- No task has been announced. -/
def start (plan : List String) (t : FileTree) : Schedule where
  tasks := plan.map fun path => { path }
  outcome := { progress := { tree := t, events := [.start plan.length] } }

/-- The number of tasks under way. -/
def running (s : Schedule) : Nat :=
  s.tasks.countP (·.stage.isRunning)

/-- Moves a task to a stage, with what the run has done by then. -/
def move (s : Schedule) (i : Nat) (path : String) (stage : PageStage) (p : Progress) : Schedule :=
  { s with
    tasks := s.tasks.set i { path, stage }
    outcome := { s.outcome with progress := p } }

/-- Finishes a task with its result. A failure to write a file stops all tasks. -/
def finish (s : Schedule) (i : Nat) (path : String) (p : Progress)
    (result : Except Failure Unit) : Schedule :=
  match p.report.addPage path result with
  | .ok report => s.move i path .finished { p with report }
  | .error f =>
    let s := s.move i path .finished p
    { s with outcome := { s.outcome with stopped := some f } }

/-- Announces a task under the next index. -/
def announce (s : Schedule) (i : Nat) (path : String) : Schedule :=
  let index := s.announced + 1
  let event := Event.page index s.tasks.length path
  { s.move i path .announced (Export.announce event s.outcome.progress) with announced := index }

/-- Renders the page of a task. -/
def render (e : Export) (s : Schedule) (i : Nat) (path : String) : Schedule :=
  let p := s.outcome.progress
  let p := { p with events := p.events ++ e.pageRequests path }
  match Crawl.render e.router path with
  | .error f => s.finish i path p (.error f)
  | .ok page => s.move i path (.rendered page) p

/-- Makes the directory of the file of a task. -/
def place (e : Export) (s : Schedule) (i : Nat) (path : String) (page : RenderedPage) : Schedule :=
  let p := s.outcome.progress
  match FilePath.parent? (e.pageFile path) with
  | none => s.move i path (.placed page) p
  | some dir =>
    match Output.ensureDir p.tree dir with
    | (tree, .ok ()) => s.move i path (.placed page) { p with tree }
    | (tree, .error f) => s.finish i path { p with tree } (.error f)

/-- Writes the file of a task. -/
def write (e : Export) (s : Schedule) (i : Nat) (path : String) (page : RenderedPage) : Schedule :=
  let p := s.outcome.progress
  let (tree, result) := Output.writeFile p.tree (e.pageFile path) (Export.pageContent page)
  s.finish i path { p with tree } result

/-- Moves one task by one step, if it can move: a run that was stopped stays as it is, and a
task is announced only while there is a job for it. -/
def advance (e : Export) (i : Nat) (s : Schedule) : Option Schedule :=
  if s.outcome.stopped.isSome then none
  else
    match s.tasks[i]? with
    | none => none
    | some task =>
      match task.stage with
      | .waiting => if s.running < max 1 e.config.jobs then some (s.announce i task.path) else none
      | .announced => some (s.render e i task.path)
      | .rendered page => some (s.place e i task.path page)
      | .placed page => some (s.write e i task.path page)
      | .finished => none

/-- What the tasks can come to from a schedule, in whatever order they take turns. -/
inductive Reaches (e : Export) : Schedule → Schedule → Prop where
  | refl (s : Schedule) : Reaches e s s
  | step {s t u : Schedule} (i : Nat) (advanced : advance e i s = some t)
      (rest : Reaches e t u) : Reaches e s u

end Schedule

end SiteSnapshot
