import Mathlib.Algebra.Ring.Nat
import Mathlib.Data.List.Perm.Basic
import SiteSnapshot.Proofs.Export.Events
import SiteSnapshot.Proofs.Export.PageReport

/-!
# What the tasks of a run have done together

However the tasks of a run take turns, each page that has come to a stage has been counted there
once (`Tally`): the pages that were announced, under one number after the other; those whose paths
were requested; and those that are finished, which are either written or listed with their failure.
Only the order of the pages depends on the turns.

`Tally.advance` is the step and `Tally.reaches` the run. Every run comes to its end
(`exists_reaches_end`), and unless something has stopped it, every task is finished then
(`stage_eq_finished`).
-/

namespace SiteSnapshot

namespace PageStage

/-- True for a task that was announced. -/
def isAnnounced : PageStage → Bool
  | .waiting => false
  | _ => true

/-- True for a task whose page was rendered, with success or not. -/
def isRendered : PageStage → Bool
  | .waiting | .announced => false
  | _ => true

/-- True for a task that has come to its end. -/
def isFinished : PageStage → Bool
  | .finished => true
  | _ => false

/-- How many moves a task has before it. -/
def movesLeft : PageStage → ℕ
  | .waiting => 4
  | .announced => 3
  | .rendered _ => 2
  | .placed _ => 1
  | .finished => 0

end PageStage

namespace Schedule

variable {e : Export} {plan : List String} {s s' : Schedule} {i : ℕ} {task : PageTask}

/-! ### Pages at a stage -/

/-- The pages of the tasks at some stages. -/
def pathsAt (p : PageStage → Bool) (tasks : List PageTask) : List String :=
  tasks.flatMap fun task => if p task.stage then [task.path] else []

/-- What a task that moves adds to the pages that are counted. -/
theorem pathsAt_set {p : PageStage → Bool} {tasks : List PageTask} (htask : tasks[i]? = some task)
    {stage : PageStage} {order more : List String} (horder : order.Perm (pathsAt p tasks))
    (hmore : (if p stage then [task.path] else []) =
      (if p task.stage then [task.path] else []) ++ more) :
    (order ++ more).Perm (pathsAt p (tasks.set i ⟨task.path, stage⟩)) := by
  obtain ⟨hlt, hget⟩ := List.getElem?_eq_some_iff.mp htask
  have hold := hget ▸ (List.getElem_cons_eraseIdx_perm hlt).symm
  have hnew := List.set_perm_cons_eraseIdx hlt (⟨task.path, stage⟩ : PageTask)
  refine ((horder.trans (hold.flatMap_right _)).append_right _).trans
    (.trans ?_ (hnew.flatMap_right _).symm)
  rw [List.flatMap_cons, List.flatMap_cons, hmore, List.append_assoc, List.append_assoc]
  exact List.Perm.append_left _ List.perm_append_comm

theorem pathsAt_of_forall {p : PageStage → Bool} {tasks : List PageTask}
    (h : ∀ task ∈ tasks, p task.stage = true) : pathsAt p tasks = tasks.map (·.path) := by
  induction tasks with
  | nil => rfl
  | cons task rest ih =>
    obtain ⟨htask, hrest⟩ := List.forall_mem_cons.mp h
    have hcons := ih hrest
    rw [pathsAt] at hcons ⊢
    rw [List.flatMap_cons, hcons, if_pos htask]
    rfl

/-! ### The tally -/

/-- What the tasks of a run that was not stopped have done together: every page that has come to a
stage counts once. -/
structure Tally (e : Export) (plan : List String) (s : Schedule) : Prop where
  paths : s.tasks.map (·.path) = plan
  announced : ∃ order : List String,
    Event.announcements s.outcome.events =
        .start plan.length :: Event.numbered plan.length 1 order ∧
      order.length = s.announced ∧ order.Perm (pathsAt (·.isAnnounced) s.tasks)
  requested : ∃ order : List String,
    Event.requests s.outcome.events =
        order.flatMap (fun path => (Crawl.visit e.router path).requested) ∧
      order.Perm (pathsAt (·.isRendered) s.tasks)
  finished : ∃ order : List String,
    s.outcome.progress.report.failures = order.filterMap e.failure? ∧
      s.outcome.progress.report.pagesWritten + (order.filterMap e.failure?).length = order.length ∧
        order.Perm (pathsAt (·.isFinished) s.tasks)
  rendered : ∀ task ∈ s.tasks, ∀ page, task.stage = .rendered page ∨ task.stage = .placed page →
    Crawl.render e.router task.path = .ok page

/-- What placing a task comes to: there is no directory to make, or it is made, or not. -/
theorem place_cases (e : Export) (s : Schedule) (i : ℕ) (path : String) (page : RenderedPage) :
    (FilePath.parent? (e.pageFile path) = none ∧
        s.place e i path page = s.move i path (.placed page) s.outcome.progress) ∨
      ∃ dir tree, FilePath.parent? (e.pageFile path) = some dir ∧
        ((Output.ensureDir s.outcome.tree dir = (tree, .ok ()) ∧
            s.place e i path page =
              s.move i path (.placed page) { s.outcome.progress with tree }) ∨
          ∃ f, Output.ensureDir s.outcome.tree dir = (tree, .error f) ∧
            s.place e i path page =
              s.finish i path { s.outcome.progress with tree } (.error f)) := by
  cases hparent : FilePath.parent? (e.pageFile path) with
  | none =>
    refine Or.inl ⟨rfl, ?_⟩
    delta place
    rw [hparent]
  | some dir =>
    obtain ⟨⟨tree, made⟩, hdir⟩ : ∃ result, Output.ensureDir s.outcome.tree dir = result := ⟨_, rfl⟩
    refine Or.inr ⟨dir, tree, rfl, ?_⟩
    cases made with
    | ok u => exact Or.inl ⟨hdir, place_of_ok hparent hdir⟩
    | error f => exact Or.inr ⟨f, hdir, place_of_error hparent hdir⟩

/-- A task that does not stop the run is finished with its result in the report. -/
theorem finish_eq_move {path : String} {p : Progress}
    {result : Except Failure Unit} (hrunning : (s.finish i path p result).outcome.stopped = none) :
    ∃ report, p.report.addPage path result = .ok report ∧
      s.finish i path p result = s.move i path .finished { p with report } := by
  rw [Schedule.finish] at hrunning ⊢
  cases hadd : p.report.addPage path result with
  | ok report => exact ⟨report, rfl, rfl⟩
  | error f => simp [hadd] at hrunning

namespace Tally

/-- No task has been announced. -/
theorem start (e : Export) (plan : List String) (t : FileTree) :
    Tally e plan (start plan t) := by
  have hnone : ∀ p : PageStage → Bool, p .waiting = false →
      pathsAt p (plan.map fun path => { path }) = [] := by
    intro p hp
    rw [pathsAt, List.flatMap_eq_nil_iff]
    intro task htask
    obtain ⟨path, -, rfl⟩ := List.mem_map.mp htask
    simp [hp]
  refine ⟨?_, ⟨[], rfl, rfl, ?_⟩, ⟨[], rfl, ?_⟩, ⟨[], rfl, rfl, ?_⟩, ?_⟩
  · rw [Schedule.start, List.map_map]
    exact List.map_id plan
  · rw [Schedule.start, hnone _ rfl]
  · rw [Schedule.start, hnone _ rfl]
  · rw [Schedule.start, hnone _ rfl]
  · intro task htask page hstage
    obtain ⟨path, -, rfl⟩ := List.mem_map.mp htask
    simp at hstage

section Set

variable (h : Tally e plan s) (htask : s.tasks[i]? = some task) {stage : PageStage}
  (htasks : s'.tasks = s.tasks.set i ⟨task.path, stage⟩)

include h htask htasks

theorem paths_set : s'.tasks.map (·.path) = plan := by
  rw [htasks, ← h.paths]
  refine List.ext_getElem? fun j => ?_
  have hlt : i < s.tasks.length := (List.getElem?_eq_some_iff.mp htask).1
  rw [List.getElem?_map, List.getElem?_map, List.getElem?_set]
  split_ifs with hij
  · rw [← hij, htask]
    rfl
  · rfl

omit htask in
theorem rendered_set
    (hrendered : ∀ page, stage = .rendered page ∨ stage = .placed page →
      Crawl.render e.router task.path = .ok page) :
    ∀ task ∈ s'.tasks, ∀ page, task.stage = .rendered page ∨ task.stage = .placed page →
      Crawl.render e.router task.path = .ok page := by
  intro other hother
  rw [htasks] at hother
  rcases List.mem_or_eq_of_mem_set hother with hmem | rfl
  · exact h.rendered other hmem
  · exact hrendered

/-- A task that was announced goes on to another stage, and to its end if it comes to a result. -/
theorem set (hannounced : task.stage.isAnnounced = true ∧ stage.isAnnounced = true)
    (hindex : s'.announced = s.announced)
    (hevents : Event.announcements s'.outcome.events = Event.announcements s.outcome.events)
    (hrequests : ∃ more : List String,
      (if stage.isRendered then [task.path] else []) =
          (if task.stage.isRendered then [task.path] else []) ++ more ∧
        Event.requests s'.outcome.events = Event.requests s.outcome.events ++
          more.flatMap fun path => (Crawl.visit e.router path).requested)
    (hreport : ∃ more : List String,
      (if stage.isFinished then [task.path] else []) =
          (if task.stage.isFinished then [task.path] else []) ++ more ∧
        s'.outcome.progress.report.failures =
          s.outcome.progress.report.failures ++ more.filterMap e.failure? ∧
        s'.outcome.progress.report.pagesWritten + (more.filterMap e.failure?).length =
          s.outcome.progress.report.pagesWritten + more.length)
    (hrendered : ∀ page, stage = .rendered page ∨ stage = .placed page →
      Crawl.render e.router task.path = .ok page) : Tally e plan s' := by
  refine ⟨h.paths_set htask htasks, ?_, ?_, ?_, h.rendered_set htasks hrendered⟩
  · obtain ⟨order, hnumbered, hlength, horder⟩ := h.announced
    refine ⟨order, hevents.trans hnumbered, hlength.trans hindex.symm, ?_⟩
    rw [htasks, ← List.append_nil order]
    refine pathsAt_set htask horder ?_
    rw [hannounced.1, hannounced.2, List.append_nil]
  · obtain ⟨order, hasked, horder⟩ := h.requested
    obtain ⟨more, hmore, hrequests⟩ := hrequests
    refine ⟨order ++ more, ?_, htasks ▸ pathsAt_set htask horder hmore⟩
    rw [hrequests, hasked, List.flatMap_append]
  · obtain ⟨order, hfailures, hcount, horder⟩ := h.finished
    obtain ⟨more, hmore, hlisted, hcounted⟩ := hreport
    refine ⟨order ++ more, ?_, ?_, htasks ▸ pathsAt_set htask horder hmore⟩
    · rw [hlisted, hfailures, List.filterMap_append]
    · rw [List.filterMap_append, List.length_append, List.length_append]
      omega

end Set

/-- A task is announced under the next number. -/
theorem announce (h : Tally e plan s) (htask : s.tasks[i]? = some task)
    (hstage : task.stage = .waiting) : Tally e plan (s.announce i task.path) := by
  have htasks : (s.announce i task.path).tasks = s.tasks.set i ⟨task.path, .announced⟩ := rfl
  have htotal : s.tasks.length = plan.length := by rw [← h.paths, List.length_map]
  obtain ⟨order, hnumbered, hlength, horder⟩ := h.announced
  obtain ⟨asked, hasked, hperm⟩ := h.requested
  obtain ⟨ended, hfailures, hcount, hperm'⟩ := h.finished
  have hevents : (s.announce i task.path).outcome.events =
      s.outcome.events ++ [.page (s.announced + 1) plan.length task.path] := by
    rw [← htotal]
    rfl
  refine ⟨h.paths_set htask htasks, ⟨order ++ [task.path], ?_, ?_, ?_⟩, ⟨asked, ?_, ?_⟩,
    ⟨ended, hfailures, hcount, ?_⟩, h.rendered_set htasks (by simp)⟩
  · rw [hevents, Event.announcements_append, hnumbered, Event.numbered_append, ← hlength,
      Nat.add_comm order.length 1]
    rfl
  · rw [List.length_append, hlength]
    rfl
  · exact htasks ▸ pathsAt_set htask horder (by simp [hstage, PageStage.isAnnounced])
  · rw [hevents, Event.requests_append, hasked]
    exact List.append_nil _
  · rw [htasks, ← List.append_nil asked]
    exact pathsAt_set htask hperm (by simp [hstage, PageStage.isRendered])
  · rw [htasks, ← List.append_nil ended]
    exact pathsAt_set htask hperm' (by simp [hstage, PageStage.isFinished])

/-- A task comes to its result. Either its page is written, or it fails. -/
theorem finish (h : Tally e plan s) (htask : s.tasks[i]? = some task)
    (hannounced : task.stage.isAnnounced = true) (hunfinished : task.stage.isFinished = false)
    {p : Progress} {result : Except Failure Unit}
    (hrunning : (s.finish i task.path p result).outcome.stopped = none)
    (hreport : p.report = s.outcome.progress.report)
    (hevents : Event.announcements p.events = Event.announcements s.outcome.events)
    (hrequests : ∃ more : List String,
      [task.path] = (if task.stage.isRendered then [task.path] else []) ++ more ∧
        Event.requests p.events = Event.requests s.outcome.events ++
          more.flatMap fun path => (Crawl.visit e.router path).requested)
    (hresult : (result = .ok () ∧ e.failure? task.path = none) ∨
      ∃ f, result = .error f ∧ (f.isFatal = true ∨ e.failure? task.path = some ⟨task.path, f⟩)) :
    Tally e plan (s.finish i task.path p result) := by
  obtain ⟨report, hadd, hmove⟩ := finish_eq_move hrunning
  rw [hreport] at hadd
  rw [hmove]
  refine h.set htask rfl ⟨hannounced, rfl⟩ rfl hevents hrequests ⟨[task.path], ?_, ?_⟩ (by simp)
  · rw [hunfinished]
    rfl
  rcases hresult with ⟨rfl, hnone⟩ | ⟨f, rfl, hfatal | hfailure⟩
  · obtain rfl := Except.ok.inj hadd
    simp [hnone]
  · simp [Report.addPage, hfatal] at hadd
  · simp only [Report.addPage] at hadd
    split_ifs at hadd
    obtain rfl := Except.ok.inj hadd
    simp [hfailure]

/-- A page is rendered. -/
theorem render (h : Tally e plan s) (htask : s.tasks[i]? = some task)
    (hstage : task.stage = .announced)
    (hrunning : (s.render e i task.path).outcome.stopped = none) :
    Tally e plan (s.render e i task.path) := by
  have hevents : Event.announcements (s.outcome.events ++ e.pageRequests task.path) =
      Event.announcements s.outcome.events := by
    rw [Event.announcements_append, Event.announcements_pageRequests, List.append_nil]
  have hrequests : ∃ more : List String,
      [task.path] = (if task.stage.isRendered then [task.path] else []) ++ more ∧
        Event.requests (s.outcome.events ++ e.pageRequests task.path) =
          Event.requests s.outcome.events ++
            more.flatMap fun path => (Crawl.visit e.router path).requested := by
    refine ⟨[task.path], by simp [hstage, PageStage.isRendered], ?_⟩
    rw [Event.requests_append, Event.requests_pageRequests, List.flatMap_singleton]
  rw [Schedule.render] at hrunning ⊢
  cases hrender : Crawl.render e.router task.path with
  | error f =>
    simp only [hrender] at hrunning
    refine h.finish htask (by rw [hstage]; rfl) (by rw [hstage]; rfl) hrunning rfl hevents hrequests
      (Or.inr ⟨f, rfl, Or.inr ?_⟩)
    rw [Export.failure?, hrender]
  | ok page =>
    refine h.set htask rfl (by rw [hstage]; exact ⟨rfl, rfl⟩) rfl hevents hrequests
      ⟨[], by rw [hstage]; rfl, by simp⟩ ?_
    intro page' hpage'
    rcases hpage' with hpage' | hpage'
    · rw [← PageStage.rendered.inj hpage', hrender]
    · cases hpage'

/-- The directory of a page is made. -/
theorem place (h : Tally e plan s) (htask : s.tasks[i]? = some task) {page : RenderedPage}
    (hstage : task.stage = .rendered page)
    (hrunning : (s.place e i task.path page).outcome.stopped = none) :
    Tally e plan (s.place e i task.path page) := by
  have hrender := h.rendered task (List.mem_of_getElem? htask) page (Or.inl hstage)
  -- making the directory neither announces nor requests anything, and comes to no result
  have hmove : ∀ tree, Tally e plan
      (s.move i task.path (.placed page) { s.outcome.progress with tree }) := by
    intro tree
    refine h.set htask rfl (by rw [hstage]; exact ⟨rfl, rfl⟩) rfl rfl
      ⟨[], by rw [hstage]; rfl, by simp [Outcome.events]⟩ ⟨[], by rw [hstage]; rfl, by simp⟩ ?_
    rintro page' (hpage' | hpage')
    · cases hpage'
    · rw [← PageStage.placed.inj hpage', hrender]
  rcases place_cases e s i task.path page with
    ⟨-, hplace⟩ | ⟨dir, tree, -, ⟨-, hplace⟩ | ⟨f, hdir, hplace⟩⟩
  · rw [hplace]
    exact hmove s.outcome.tree
  · rw [hplace]
    exact hmove tree
  · rw [hplace, stopped_finish_of_isFatal (Output.isFatal_of_ensureDir hdir)] at hrunning
    cases hrunning

/-- The file of a page is written. -/
theorem write (h : Tally e plan s) (htask : s.tasks[i]? = some task) {page : RenderedPage}
    (hstage : task.stage = .placed page)
    (hrunning : (s.write e i task.path page).outcome.stopped = none) :
    Tally e plan (s.write e i task.path page) := by
  have hrender := h.rendered task (List.mem_of_getElem? htask) page (Or.inr hstage)
  obtain ⟨⟨tree, result⟩, hwrite⟩ : ∃ result, Output.writeFile s.outcome.tree
      (e.pageFile task.path) (Export.pageContent page) = result := ⟨_, rfl⟩
  rw [write_of_eq hwrite] at hrunning ⊢
  refine h.finish htask (by rw [hstage]; rfl) (by rw [hstage]; rfl) hrunning rfl rfl
    ⟨[], by rw [hstage]; rfl, by simp [Outcome.events]⟩ ?_
  cases result with
  | ok u => exact Or.inl ⟨rfl, by rw [Export.failure?, hrender]⟩
  | error f =>
    exact Or.inr ⟨f, rfl, Or.inl (Output.isFatal_of_writeFile (congrArg Prod.snd hwrite))⟩

/-- **The step**: a move that does not stop the run keeps the tally. -/
theorem advance (h : Tally e plan s) (hadvance : advance e i s = some s')
    (hrunning : s'.outcome.stopped = none) : Tally e plan s' := by
  obtain ⟨-, task, htask, hmove⟩ := advance_eq_some hadvance
  rcases hmove with
    ⟨hstage, -, hmove⟩ | ⟨hstage, hmove⟩ | ⟨page, hstage, hmove⟩ | ⟨page, hstage, hmove⟩
  · rw [hmove]
    exact h.announce htask hstage
  · rw [hmove] at hrunning ⊢
    exact h.render htask hstage hrunning
  · rw [hmove] at hrunning ⊢
    exact h.place htask hstage hrunning
  · rw [hmove] at hrunning ⊢
    exact h.write htask hstage hrunning

end Tally

/-- A run that was stopped does not go on. -/
theorem stopped_eq_none_of_reaches (h : Reaches e s s') (hrunning : s'.outcome.stopped = none) :
    s.outcome.stopped = none := by
  cases h with
  | refl => exact hrunning
  | step i hadvance _ => exact (advance_eq_some hadvance).1

/-- **The run**: the tally holds of every schedule that is reached, unless the run was stopped. -/
theorem Tally.reaches (h : Tally e plan s) (hreaches : Reaches e s s')
    (hrunning : s'.outcome.stopped = none) : Tally e plan s' := by
  induction hreaches with
  | refl s => exact h
  | step i hadvance hrest ih =>
    exact ih (h.advance hadvance (stopped_eq_none_of_reaches hrest hrunning)) hrunning

/-! ### The end of a run -/

/-- How many moves the tasks have before them, at most. -/
def movesLeft (s : Schedule) : ℕ :=
  (s.tasks.map (·.stage.movesLeft)).sum

theorem movesLeft_set {stage : PageStage} (htask : s.tasks[i]? = some task)
    (htasks : s'.tasks = s.tasks.set i ⟨task.path, stage⟩)
    (hless : stage.movesLeft < task.stage.movesLeft) : s'.movesLeft < s.movesLeft := by
  obtain ⟨hlt, hget⟩ := List.getElem?_eq_some_iff.mp htask
  have hold := hget ▸ (List.getElem_cons_eraseIdx_perm hlt).symm
  have hnew := List.set_perm_cons_eraseIdx hlt (⟨task.path, stage⟩ : PageTask)
  rw [movesLeft, movesLeft, htasks, (hnew.map _).sum_nat, (hold.map _).sum_nat, List.map_cons,
    List.map_cons, List.sum_cons, List.sum_cons]
  exact Nat.add_lt_add_right hless _

/-- Every move brings a run nearer to its end. -/
theorem movesLeft_advance (h : advance e i s = some s') : s'.movesLeft < s.movesLeft := by
  obtain ⟨-, task, htask, hmove⟩ := advance_eq_some h
  -- a move takes its task to a later stage
  obtain ⟨stage, htasks, hless⟩ : ∃ stage, s'.tasks = s.tasks.set i ⟨task.path, stage⟩ ∧
      stage.movesLeft < task.stage.movesLeft := by
    rcases hmove with
      ⟨hstage, -, hmove⟩ | ⟨hstage, hmove⟩ | ⟨page, hstage, hmove⟩ | ⟨page, hstage, hmove⟩
    · exact ⟨.announced, by rw [hmove]; rfl, by rw [hstage]; decide⟩
    · rw [hmove, render, hstage]
      cases Crawl.render e.router task.path with
      | ok page => exact ⟨.rendered page, rfl, by simp [PageStage.movesLeft]⟩
      | error f => exact ⟨.finished, tasks_finish .., by decide⟩
    · rw [hmove, hstage]
      rcases place_cases e s i task.path page with
        ⟨-, hplace⟩ | ⟨dir, tree, -, ⟨-, hplace⟩ | ⟨f, -, hplace⟩⟩
      · exact ⟨.placed page, by rw [hplace]; rfl, by simp [PageStage.movesLeft]⟩
      · exact ⟨.placed page, by rw [hplace]; rfl, by simp [PageStage.movesLeft]⟩
      · exact ⟨.finished, by rw [hplace, tasks_finish], by simp [PageStage.movesLeft]⟩
    · rw [hmove, write, hstage]
      exact ⟨.finished, tasks_finish .., by simp [PageStage.movesLeft]⟩
  exact movesLeft_set htask htasks hless

/-- **Every run comes to its end**, in whatever order its tasks take turns. -/
theorem exists_reaches_end (e : Export) (s : Schedule) :
    ∃ s', Reaches e s s' ∧ ∀ i, advance e i s' = none := by
  induction hleft : s.movesLeft using Nat.strong_induction_on generalizing s with
  | _ n ih =>
    by_cases hend : ∀ i, advance e i s = none
    · exact ⟨s, .refl s, hend⟩
    · obtain ⟨i, hi⟩ := not_forall.mp hend
      obtain ⟨s', hadvance⟩ := Option.ne_none_iff_exists'.mp hi
      obtain ⟨s'', hreaches, hend'⟩ := ih _ (hleft ▸ movesLeft_advance hadvance) s' rfl
      exact ⟨s'', .step i hadvance hreaches, hend'⟩

/-- **No task waits forever**: when no task can move and nothing has stopped the run, every task is
finished. -/
theorem stage_eq_finished (hrunning : s.outcome.stopped = none)
    (hend : ∀ i, advance e i s = none) : ∀ task ∈ s.tasks, task.stage = .finished := by
  have hmoves : ∀ task ∈ s.tasks, task.stage = .waiting ∨ task.stage = .finished := by
    intro task htask
    obtain ⟨i, hi⟩ := List.mem_iff_getElem?.mp htask
    have hstuck := hend i
    rw [Schedule.advance, hrunning, hi] at hstuck
    cases hstage : task.stage with
    | waiting => exact Or.inl rfl
    | finished => exact Or.inr rfl
    | _ => simp [hstage] at hstuck
  -- so no task is under way, and a waiting one could be announced
  have hidle : s.running = 0 := by
    rw [running, List.countP_eq_zero]
    intro task htask
    rcases hmoves task htask with hstage | hstage <;> simp [hstage, PageStage.isRunning]
  intro task htask
  rcases hmoves task htask with hstage | hstage
  · obtain ⟨i, hi⟩ := List.mem_iff_getElem?.mp htask
    have hstuck := hend i
    rw [Schedule.advance, hrunning, hi] at hstuck
    simp [hstage, hidle] at hstuck
  · exact hstage

/-- Where every task is finished, none can move. -/
theorem advance_eq_none (hend : ∀ task ∈ s.tasks, task.stage = .finished) (i : ℕ) :
    advance e i s = none := by
  rw [Option.eq_none_iff_forall_ne_some]
  intro s' hadvance
  obtain ⟨-, task, htask, hmove⟩ := advance_eq_some hadvance
  have hstage := hend task (List.mem_of_getElem? htask)
  rcases hmove with ⟨hmove, -⟩ | ⟨hmove, -⟩ | ⟨page, hmove, -⟩ | ⟨page, hmove, -⟩
  all_goals
    rw [hstage] at hmove
    cases hmove

/-- At the end every page has come to every stage. -/
theorem Tally.pathsAt_eq (h : Tally e plan s) (hend : ∀ task ∈ s.tasks, task.stage = .finished)
    {p : PageStage → Bool} (hp : p .finished = true) : pathsAt p s.tasks = plan := by
  rw [← h.paths]
  exact pathsAt_of_forall fun task htask => by rw [hend task htask, hp]

end Schedule

end SiteSnapshot
