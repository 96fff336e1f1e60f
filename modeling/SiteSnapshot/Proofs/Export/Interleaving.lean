import SiteSnapshot.Export.Schedule
import SiteSnapshot.Proofs.Export.Destination

/-!
# Pages at the same time

The tasks of a run share one file tree. Whatever the order in which they take turns, every
schedule that a run of separate pages to a fresh destination comes to is **sound** (`Sound`): the
tree holds only what the pages write, a task whose directory was made finds it, and a finished
task has its file there, unless its page was the one that stopped the run. A page that stops a run
would have failed on its own as well.

`Sound.advance` is the step and `Sound.reaches` the run.
-/

namespace SiteSnapshot

open FileTree

namespace Schedule

variable {e : Export} {s s' : Schedule} {i : ℕ} {task : PageTask}

/-! ### Moves -/

/-- What a move can be. -/
theorem advance_eq_some (h : advance e i s = some s') :
    s.outcome.stopped = none ∧ ∃ task, s.tasks[i]? = some task ∧
      ((task.stage = .waiting ∧ s.running < max 1 e.config.jobs ∧ s' = s.announce i task.path) ∨
        (task.stage = .announced ∧ s' = s.render e i task.path) ∨
        (∃ page, task.stage = .rendered page ∧ s' = s.place e i task.path page) ∨
        ∃ page, task.stage = .placed page ∧ s' = s.write e i task.path page) := by
  rw [advance] at h
  by_cases hstopped : s.outcome.stopped.isSome = true
  · simp [hstopped] at h
  rw [if_neg hstopped] at h
  refine ⟨by simpa using hstopped, ?_⟩
  cases htask : s.tasks[i]? with
  | none => simp [htask] at h
  | some task =>
    refine ⟨task, rfl, ?_⟩
    simp only [htask] at h
    cases hstage : task.stage with
    | waiting =>
      simp only [hstage, Option.ite_none_right_eq_some, Option.some.injEq] at h
      exact Or.inl ⟨rfl, h.1, h.2.symm⟩
    | announced =>
      simp only [hstage, Option.some.injEq] at h
      exact Or.inr (Or.inl ⟨rfl, h.symm⟩)
    | rendered page =>
      simp only [hstage, Option.some.injEq] at h
      exact Or.inr (Or.inr (Or.inl ⟨page, rfl, h.symm⟩))
    | placed page =>
      simp only [hstage, Option.some.injEq] at h
      exact Or.inr (Or.inr (Or.inr ⟨page, rfl, h.symm⟩))
    | finished => simp [hstage] at h

@[simp]
theorem tasks_move (s : Schedule) (i : ℕ) (path : String) (stage : PageStage) (p : Progress) :
    (s.move i path stage p).tasks = s.tasks.set i ⟨path, stage⟩ := rfl

@[simp]
theorem outcome_move (s : Schedule) (i : ℕ) (path : String) (stage : PageStage) (p : Progress) :
    (s.move i path stage p).outcome = ⟨p, s.outcome.stopped⟩ := rfl

@[simp]
theorem tasks_finish (s : Schedule) (i : ℕ) (path : String) (p : Progress)
    (result : Except Failure Unit) :
    (s.finish i path p result).tasks = s.tasks.set i ⟨path, .finished⟩ := by
  rw [finish]
  split <;> rfl

@[simp]
theorem tree_finish (s : Schedule) (i : ℕ) (path : String) (p : Progress)
    (result : Except Failure Unit) : (s.finish i path p result).outcome.tree = p.tree := by
  rw [finish]
  split <;> rfl

/-- A run is only stopped by the failure of the task that moves. -/
theorem stopped_finish {path : String} {p : Progress} {result : Except Failure Unit} {f : Failure}
    (hrunning : s.outcome.stopped = none)
    (h : (s.finish i path p result).outcome.stopped = some f) : result = .error f := by
  rw [finish] at h
  cases result with
  | ok u => simp [Report.addPage, hrunning] at h
  | error f' =>
    by_cases hfatal : f'.isFatal = true
    · simp only [Report.addPage, hfatal, if_true, Option.some.injEq] at h
      rw [h]
    · simp [Report.addPage, hfatal, hrunning] at h

/-- A fatal failure stops a run. -/
theorem stopped_finish_of_isFatal {f : Failure} (hfatal : f.isFatal = true) (s : Schedule) (i : ℕ)
    (path : String) (p : Progress) : (s.finish i path p (.error f)).outcome.stopped = some f := by
  simp [finish, Report.addPage, hfatal]

/-- Tasks of different pages have different paths. -/
theorem path_ne_of_ne (hnodup : (s.tasks.map (·.path)).Nodup) (htask : s.tasks[i]? = some task)
    {j : ℕ} {other : PageTask} (hother : s.tasks[j]? = some other) (hij : i ≠ j) :
    other.path ≠ task.path := by
  intro heq
  have hlt : i < s.tasks.length := (List.getElem?_eq_some_iff.mp htask).1
  refine hij ((List.getElem?_inj (l := s.tasks.map (·.path)) (by simpa using hlt) hnodup).mp ?_)
  rw [List.getElem?_map, List.getElem?_map, htask, hother, Option.map_some, Option.map_some, heq]

section Steps

variable {path : String} {page : RenderedPage} {dir : FilePath} {tree : FileTree}

/-- A task whose directory is made is placed. -/
theorem place_of_ok (hparent : FilePath.parent? (e.pageFile path) = some dir)
    (hdir : Output.ensureDir s.outcome.tree dir = (tree, .ok ())) :
    s.place e i path page = s.move i path (.placed page) { s.outcome.progress with tree } := by
  rw [Outcome.tree] at hdir
  delta place
  rw [hparent]
  simp only [hdir]

/-- A task whose directory cannot be made is finished. -/
theorem place_of_error {f : Failure} (hparent : FilePath.parent? (e.pageFile path) = some dir)
    (hdir : Output.ensureDir s.outcome.tree dir = (tree, .error f)) :
    s.place e i path page = s.finish i path { s.outcome.progress with tree } (.error f) := by
  rw [Outcome.tree] at hdir
  delta place
  rw [hparent]
  simp only [hdir]

/-- A task is finished with the result of writing its file. -/
theorem write_of_eq {result : Except Failure Unit}
    (hwrite : Output.writeFile s.outcome.tree (e.pageFile path) (Export.pageContent page) =
      (tree, result)) :
    s.write e i path page = s.finish i path { s.outcome.progress with tree } result := by
  rw [Outcome.tree] at hwrite
  rw [write, hwrite]

end Steps

/-! ### Sound schedules -/

/-- What holds of a task at its stage, given what the run has come to. -/
def StageSound (e : Export) (d : Destination) (t : FileTree) (o : Outcome) (path : String) :
    PageStage → Prop
  | .waiting => True
  | .announced => True
  | .rendered page => Crawl.render e.router path = .ok page
  | .placed page => Crawl.render e.router path = .ok page ∧
      Output.placeFault? (d.base.below (d.dir path)).top (d.dir path) = none ∧
        AllDirectories o.tree d.root (d.dir path)
  | .finished => ∀ octets, e.content path = some octets →
      (d.fault? path = none ∧ o.tree.get? (d.root ++ d.file path) = some (.file octets)) ∨
        ∃ f, o.stopped = some f ∧ (e.exportPage t path).2 = .error f

/-- What holds of every schedule that a run comes to. -/
structure Sound (e : Export) (d : Destination) (pages : List String) (t : FileTree)
    (s : Schedule) : Prop where
  paths : s.tasks.map (·.path) = pages
  holds : Holds d pages e.content t s.outcome.tree
  stages : ∀ task ∈ s.tasks, StageSound e d t s.outcome task.path task.stage
  stopped : ∀ f, s.outcome.stopped = some f → ∃ page ∈ pages, (e.exportPage t page).2 = .error f

variable {d : Destination} {pages : List String} {t : FileTree}

theorem Sound.path_mem (h : Sound e d pages t s) (htask : task ∈ s.tasks) : task.path ∈ pages := by
  rw [← h.paths]
  exact List.mem_map_of_mem htask

/-- What holds of a task goes on to hold while directories are kept, and its own file. -/
theorem StageSound.mono {o o' : Outcome} {path : String} {stage : PageStage}
    (h : StageSound e d t o path stage) (hrunning : o.stopped = none)
    (hplaces : KeepsPlaces o.tree o'.tree)
    (hfile : ∀ octets, o.tree.get? (d.root ++ d.file path) = some (.file octets) →
      o'.tree.get? (d.root ++ d.file path) = some (.file octets)) :
    StageSound e d t o' path stage := by
  cases stage with
  | waiting => trivial
  | announced => trivial
  | rendered page => exact h
  | placed page =>
    -- directories that were made are kept
    obtain ⟨hrender, hfault, hdirs⟩ := h
    exact ⟨hrender, hfault, fun above habove => hplaces.kept _ _ (by simp) (hdirs above habove)⟩
  | finished =>
    intro octets hcontent
    -- a run that was stopped does not move, so the file is there
    rcases h octets hcontent with ⟨hfault, hget⟩ | ⟨f, hstopped, -⟩
    · exact Or.inl ⟨hfault, hfile octets hget⟩
    · rw [hrunning] at hstopped
      cases hstopped

/-- **A move keeps a schedule sound** if it does so for its task and the tree, and leaves the
files of the other pages alone. -/
theorem Sound.set (h : Sound e d pages t s) (hnodup : pages.Nodup)
    (hrunning : s.outcome.stopped = none) (htask : s.tasks[i]? = some task) {stage : PageStage}
    (htasks : s'.tasks = s.tasks.set i ⟨task.path, stage⟩)
    (hholds : Holds d pages e.content t s'.outcome.tree)
    (hplaces : KeepsPlaces s.outcome.tree s'.outcome.tree)
    (hfiles : ∀ page ∈ pages, page ≠ task.path → ∀ octets,
      s.outcome.tree.get? (d.root ++ d.file page) = some (.file octets) →
        s'.outcome.tree.get? (d.root ++ d.file page) = some (.file octets))
    (hstage : StageSound e d t s'.outcome task.path stage)
    (hstopped : ∀ f, s'.outcome.stopped = some f → (e.exportPage t task.path).2 = .error f) :
    Sound e d pages t s' := by
  have hlt : i < s.tasks.length := (List.getElem?_eq_some_iff.mp htask).1
  have hpath := h.path_mem (List.mem_of_getElem? htask)
  refine ⟨?_, hholds, fun other hother => ?_, fun f hf => ⟨task.path, hpath, hstopped f hf⟩⟩
  · -- the pages of the tasks are what they were
    rw [htasks, ← h.paths]
    refine List.ext_getElem? fun j => ?_
    rw [List.getElem?_map, List.getElem?_map, List.getElem?_set]
    split_ifs with hij
    · rw [← hij, htask]
      rfl
    · rfl
  · obtain ⟨j, hj⟩ := List.mem_iff_getElem?.mp (htasks ▸ hother)
    rw [List.getElem?_set] at hj
    split_ifs at hj with hij
    · rw [← Option.some.inj hj]
      exact hstage
    · -- another task is for another page
      have hne := path_ne_of_ne (h.paths.symm ▸ hnodup) htask hj hij
      have hmem' := List.mem_of_getElem? hj
      exact (h.stages other hmem').mono hrunning hplaces
        (hfiles other.path (h.path_mem hmem') hne)

/-- No task has done anything yet. -/
theorem Sound.start (e : Export) (d : Destination) (pages : List String) (t : FileTree) :
    Sound e d pages t (start pages t) where
  paths := by
    rw [Schedule.start, List.map_map]
    exact List.map_id pages
  holds := .refl d pages e.content t
  stages := by
    intro task htask
    obtain ⟨path, -, rfl⟩ := List.mem_map.mp htask
    trivial
  stopped := by
    intro f hf
    cases hf

section Step

variable (hserves : e.Serves d pages) (hfresh : d.Fresh t) (hnodup : pages.Nodup)
  (h : Sound e d pages t s) (hrunning : s.outcome.stopped = none) (htask : s.tasks[i]? = some task)

include hnodup h hrunning htask

/-- **Finishing a task** keeps a schedule sound if the task has written its file, or if it fails
as it would on its own. -/
theorem Sound.finish {p : Progress} {result : Except Failure Unit}
    (hholds : Holds d pages e.content t p.tree) (hplaces : KeepsPlaces s.outcome.tree p.tree)
    (hfiles : ∀ page ∈ pages, page ≠ task.path → ∀ octets,
      s.outcome.tree.get? (d.root ++ d.file page) = some (.file octets) →
        p.tree.get? (d.root ++ d.file page) = some (.file octets))
    (hown : ∀ octets, e.content task.path = some octets →
      (d.fault? task.path = none ∧
        p.tree.get? (d.root ++ d.file task.path) = some (.file octets)) ∨
          ∃ f, result = .error f ∧ f.isFatal = true)
    (hfails : ∀ f, result = .error f → (e.exportPage t task.path).2 = .error f) :
    Sound e d pages t (s.finish i task.path p result) := by
  have htree := tree_finish s i task.path p result
  refine h.set hnodup hrunning htask (tasks_finish s i task.path p result) ?_ ?_ ?_
    (fun octets hcontent => ?_) fun f hf => hfails f (stopped_finish hrunning hf)
  · rwa [htree]
  · rwa [htree]
  · rwa [htree]
  · rw [htree]
    rcases hown octets hcontent with hwritten | ⟨f, rfl, hfatal⟩
    · exact Or.inl hwritten
    · exact Or.inr ⟨f, stopped_finish_of_isFatal hfatal s i _ p, hfails f rfl⟩

/-- Announcing a task. -/
theorem Sound.announce : Sound e d pages t (s.announce i task.path) := by
  refine h.set hnodup hrunning htask rfl h.holds (.refl _) (fun _ _ _ _ hget => hget) trivial ?_
  intro f hf
  rw [Schedule.announce, outcome_move, hrunning] at hf
  cases hf

/-- Rendering a page. -/
theorem Sound.render : Sound e d pages t (s.render e i task.path) := by
  rw [Schedule.render]
  cases hrender : Crawl.render e.router task.path with
  | error f =>
    refine h.finish hnodup hrunning htask h.holds (.refl _) (fun _ _ _ _ hget => hget) ?_ ?_
    · intro octets hcontent
      simp [Export.content, hrender, Except.toOption] at hcontent
    · intro f' hf'
      rw [Export.exportPage, hrender]
      exact hf'
  | ok page =>
    refine h.set hnodup hrunning htask rfl h.holds (.refl _) (fun _ _ _ _ hget => hget) hrender ?_
    intro f hf
    rw [outcome_move, hrunning] at hf
    cases hf

include hserves hfresh

/-- Making the directory of a page. -/
theorem Sound.place {page : RenderedPage} (hstage : task.stage = .rendered page) :
    Sound e d pages t (s.place e i task.path page) := by
  have hmem : task ∈ s.tasks := List.mem_of_getElem? htask
  have hpath := h.path_mem hmem
  have hrender : Crawl.render e.router task.path = .ok page := by
    have hsound := h.stages task hmem
    rwa [hstage] at hsound
  have hcontent : (e.content task.path).isSome := by simp [Export.content_of_render hrender]
  have hplain := hserves.plain hpath
  have hparent := hserves.parent?_pageFile hpath
  -- the tree that the others have left has nothing in the way of the directory
  obtain ⟨t', hgrows, hresult, hmade⟩ := Output.ensureDir_below (h.holds.leads hfresh)
    (fun s hs => hplain s (List.mem_append_left _ hs)) (h.holds.clear hserves.serves hpath hfresh)
  have hholds := h.holds.of_growsTo hpath hcontent hgrows
  have hfiles : ∀ page ∈ pages, page ≠ task.path → ∀ octets,
      s.outcome.tree.get? (d.root ++ d.file page) = some (.file octets) →
        t'.get? (d.root ++ d.file page) = some (.file octets) :=
    fun _ _ _ _ hget => hgrows.get? hget
  cases hfault : Output.placeFault? (d.base.below (d.dir task.path)).top (d.dir task.path) with
  | none =>
    rw [hfault, Option.elim_none] at hresult
    rw [place_of_ok hparent hresult]
    refine h.set hnodup hrunning htask rfl hholds hgrows.keepsPlaces hfiles
      ⟨hrender, hfault, hmade hfault⟩ ?_
    intro f hf
    rw [outcome_move, hrunning] at hf
    cases hf
  | some f =>
    rw [hfault, Option.elim_some] at hresult
    rw [place_of_error hparent hresult]
    refine h.finish hnodup hrunning htask hholds hgrows.keepsPlaces hfiles
      (fun _ _ => Or.inr ⟨f, rfl, Output.isFatal_of_placeFault? hfault⟩) ?_
    rintro f' hf'
    obtain rfl := Except.error.inj hf'
    -- on its own the page fails at the same place, since the fault is one of its path
    rw [Export.exportPage_snd hserves hfresh hpath hcontent, Destination.fault?, Output.fault?,
      hfault]
    rfl

/-- Writing the file of a page. -/
theorem Sound.write {page : RenderedPage} (hstage : task.stage = .placed page) :
    Sound e d pages t (s.write e i task.path page) := by
  have hmem : task ∈ s.tasks := List.mem_of_getElem? htask
  have hpath := h.path_mem hmem
  obtain ⟨hrender, hplace, hdirs⟩ :
      Crawl.render e.router task.path = .ok page ∧
        Output.placeFault? (d.base.below (d.dir task.path)).top (d.dir task.path) = none ∧
          AllDirectories s.outcome.tree d.root (d.dir task.path) := by
    have hsound := h.stages task hmem
    rwa [hstage] at hsound
  have hcontent := Export.content_of_render hrender
  have halone := Export.exportPage_snd hserves hfresh hpath (by rw [hcontent]; rfl)
  have hroom := h.holds.hasRoom hserves.serves hpath hfresh hdirs
  have hwrite := Output.writeFile_below (h.holds.leads hfresh) (hserves.plain hpath) hroom
    (Export.pageContent page)
  rw [← hserves.pageFile_eq _ hpath] at hwrite
  rw [Destination.fault?, Output.fault?, hplace, Option.none_or,
    ← hserves.pageFile_eq _ hpath] at halone
  cases hfault : wayFault? (e.pageFile task.path) (d.dir task.path ++ [d.name task.path]) with
  | none =>
    rw [hfault, Option.elim_none] at hwrite
    rw [write_of_eq hwrite]
    refine h.finish hnodup hrunning htask (h.holds.put hpath hcontent hroom) hroom.keepsPlaces
      ?_ ?_ (by simp)
    -- the files of other pages are elsewhere
    · intro other hother hne octets hget
      have hplace' : d.root ++ d.file other ≠ d.root ++ d.file task.path := fun heq =>
        hne (hserves.serves.separate other hother _ hpath
          (List.append_cancel_left heq ▸ List.prefix_rfl))
      rw [hroom.get?_put, d.dir_append_name, if_neg hplace', hget]
    · intro octets hcontent'
      refine Or.inl ⟨?_, ?_⟩
      · rw [Destination.fault?, Output.fault?, hplace, ← hserves.pageFile_eq _ hpath, hfault]
        rfl
      · rw [hroom.get?_put, d.dir_append_name, if_pos rfl,
          Option.some.inj (hcontent.symm.trans hcontent')]
  | some cause =>
    rw [hfault, Option.elim_some] at hwrite
    rw [hfault] at halone
    rw [write_of_eq hwrite]
    refine h.finish hnodup hrunning htask h.holds (.refl _) (fun _ _ _ _ hget => hget)
      (fun _ _ => Or.inr ⟨_, rfl, rfl⟩) ?_
    rintro f hf
    obtain rfl := Except.error.inj hf
    exact halone

end Step

/-- **The step**: every move keeps a schedule sound. -/
theorem Sound.advance (hserves : e.Serves d pages) (hfresh : d.Fresh t) (hnodup : pages.Nodup)
    (h : Sound e d pages t s) (hadvance : advance e i s = some s') : Sound e d pages t s' := by
  obtain ⟨hrunning, task, htask, hmove⟩ := advance_eq_some hadvance
  rcases hmove with ⟨-, -, hmove⟩ | ⟨-, hmove⟩ | ⟨page, hstage, hmove⟩ | ⟨page, hstage, hmove⟩
  · rw [hmove]
    exact h.announce hnodup hrunning htask
  · rw [hmove]
    exact h.render hnodup hrunning htask
  · rw [hmove]
    exact h.place hserves hfresh hnodup hrunning htask hstage
  · rw [hmove]
    exact h.write hserves hfresh hnodup hrunning htask hstage

/-- **The run**: every schedule that is reached is sound. -/
theorem Sound.reaches (hserves : e.Serves d pages) (hfresh : d.Fresh t) (hnodup : pages.Nodup)
    (h : Sound e d pages t s) (hreaches : Reaches e s s') : Sound e d pages t s' := by
  induction hreaches with
  | refl s => exact h
  | step i hadvance _ ih => exact ih (h.advance hserves hfresh hnodup hadvance)

end Schedule

end SiteSnapshot
