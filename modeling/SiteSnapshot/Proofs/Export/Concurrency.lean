import SiteSnapshot.Proofs.Export.Phases
import SiteSnapshot.Proofs.Export.SeparatePages
import SiteSnapshot.Proofs.Export.SharedTree
import SiteSnapshot.Proofs.Export.Stops
import SiteSnapshot.Proofs.Layout.Frame

/-!
# Concurrent runs

What one run has left behind says enough about all other runs of the same pages: every schedule of
another run develops into it (`Tracks.into_reaches`), and no file stops the other run if every link
leads somewhere (`Tracks.running_reaches`). So two runs that come to their end leave the same tree
behind if no two pages have their files at one place (`Tracks.tree_eq`).

`concurrent_run` compares in this way any order in which the tasks of a run take turns with one page
after the other. What it asks of links is needed: a link that leads nowhere can stop one order and
not another, and a link can join the files of pages whose paths are separate.
-/

namespace SiteSnapshot

open FileTree

namespace Schedule

variable {e : Export} {plan : List String} {t : FileTree} {s s' : Schedule} {i : ℕ}
  {task : PageTask}

namespace Tracks

/-! ### Two runs of the same pages -/

/-- A tree that has the file of every page that can be rendered. -/
def HasPages (e : Export) (plan : List String) (u : FileTree) : Prop :=
  ∀ page ∈ plan, ∀ octets, e.content page = some octets →
    ∃ place o, FileAt u (e.pageFile page) place o

/-- A run that has come to its end has the file of every page that can be rendered. -/
theorem hasPages (h : Tracks e plan t s) (hend : ∀ task ∈ s.tasks, task.stage = .finished) :
    HasPages e plan s.outcome.tree := by
  intro page hpage octets hcontent
  rw [← h.tally.paths] at hpage
  obtain ⟨task, htask, rfl⟩ := List.mem_map.mp hpage
  obtain ⟨place, o, hfile, -⟩ := h.written task htask (hend task htask) octets hcontent
  exact ⟨place, o, hfile⟩

/-- Of a run that has come to its end no page fails in a way that stops runs. -/
theorem isFatal_of_render (h : Tracks e plan t s) (hend : ∀ task ∈ s.tasks, task.stage = .finished)
    {page : String} (hpage : page ∈ plan) {f : Failure}
    (hrender : Crawl.render e.router page = .error f) : f.isFatal = false := by
  rw [← h.tally.paths] at hpage
  obtain ⟨task, htask, rfl⟩ := List.mem_map.mp hpage
  exact h.failed task htask (hend task htask) f hrender

section Into

variable {u : FileTree} (hcurrent : t.get? t.current = some .directory) (hnodup : plan.Nodup)
  (hpages : HasPages e plan u)

/-- The file of a task whose page was rendered is there in the end. -/
theorem exists_fileAt_of_rendered (hpages : HasPages e plan u) (h : Tracks e plan t s)
    (htask : s.tasks[i]? = some task) {page : RenderedPage}
    (hstage : task.stage = .rendered page ∨ task.stage = .placed page) :
    ∃ place o, FileAt u (e.pageFile task.path) place o := by
  have hmem := List.mem_of_getElem? htask
  have hpath : task.path ∈ plan := by
    rw [← h.tally.paths]
    exact List.mem_map_of_mem hmem
  exact hpages _ hpath _ (Export.content_of_render (h.tally.rendered task hmem page hstage))

include hcurrent hpages

/-- A move goes towards a tree that has the files of all pages. -/
theorem into_advance (h : Tracks e plan t s) (hinto : Develops s.outcome.tree u)
    (hadvance : Schedule.advance e i s = some s') : Develops s'.outcome.tree u := by
  have hhere := h.get?_current hcurrent
  have hend := hinto.get?_current hhere
  obtain ⟨-, task, htask, hmove⟩ := advance_eq_some hadvance
  rcases hmove with
    ⟨-, -, hmove⟩ | ⟨-, hmove⟩ | ⟨page, hstage, hmove⟩ | ⟨page, hstage, hmove⟩
  · rw [hmove]
    exact hinto
  · rw [hmove, Schedule.render]
    cases Crawl.render e.router task.path with
    | ok page => exact hinto
    | error f =>
      dsimp only
      rw [tree_finish]
      exact hinto
  · obtain ⟨place, o, hfile⟩ := exists_fileAt_of_rendered hpages h htask (Or.inl hstage)
    rw [hmove]
    rcases place_cases e s i task.path page with
      ⟨-, hplace⟩ | ⟨dir, tree, hparent, hmade⟩
    · rw [hplace]
      exact hinto
    · obtain ⟨-, loc, hleads⟩ := hfile.exists_leadsTo hend hparent
      have hdevelops := Output.develops_ensureDir hinto hhere hleads
      rcases hmade with ⟨hdir, hplace⟩ | ⟨f, hdir, hplace⟩
      · rw [hdir] at hdevelops
        rw [hplace]
        exact hdevelops
      · rw [hdir] at hdevelops
        rw [hplace, tree_finish]
        exact hdevelops
  · obtain ⟨place, o, hfile⟩ := exists_fileAt_of_rendered hpages h htask (Or.inr hstage)
    have hput := Output.develops_writeFile hinto hhere hfile (Export.pageContent page)
    obtain ⟨⟨tree, result⟩, hwrite⟩ : ∃ result, Output.writeFile s.outcome.tree
        (e.pageFile task.path) (Export.pageContent page) = result := ⟨_, rfl⟩
    rw [hwrite] at hput
    rw [hmove, write_of_eq hwrite, tree_finish]
    exact hput

/-- **No move stops a run** towards a tree that has the files of all pages, if every link leads
somewhere. -/
theorem running_advance (hlinks : t.LinksLead)
    (hmild : ∀ page ∈ plan, ∀ f, Crawl.render e.router page = .error f → f.isFatal = false)
    (h : Tracks e plan t s) (hinto : Develops s.outcome.tree u)
    (hadvance : Schedule.advance e i s = some s') : s'.outcome.stopped = none := by
  have hhere := h.get?_current hcurrent
  have hend := hinto.get?_current hhere
  obtain ⟨hrunning, task, htask, hmove⟩ := advance_eq_some hadvance
  have hmem := List.mem_of_getElem? htask
  -- only a failure that is fatal stops a run
  have hfinish : ∀ p result, (∀ f, result = .error f → f.isFatal = false) →
      (s.finish i task.path p result).outcome.stopped = none := by
    intro p result hresult
    rw [Schedule.finish]
    cases result with
    | ok done => exact hrunning
    | error f => simp [Report.addPage, hresult f rfl, hrunning]
  rcases hmove with
    ⟨-, -, hmove⟩ | ⟨-, hmove⟩ | ⟨page, hstage, hmove⟩ | ⟨page, hstage, hmove⟩
  · rw [hmove]
    exact hrunning
  · rw [hmove, Schedule.render]
    cases hrender : Crawl.render e.router task.path with
    | ok page => exact hrunning
    | error f =>
      refine hfinish _ _ fun f' hf' => ?_
      rw [← Except.error.inj hf']
      exact hmild _ (by rw [← h.tally.paths]; exact List.mem_map_of_mem hmem) f hrender
  · obtain ⟨place, o, hfile⟩ := exists_fileAt_of_rendered hpages h htask (Or.inl hstage)
    rw [hmove]
    rcases place_cases e s i task.path page with
      ⟨-, hplace⟩ | ⟨dir, tree, hparent, ⟨-, hplace⟩ | ⟨f, hdir, -⟩⟩
    · rw [hplace]
      exact hrunning
    · rw [hplace]
      exact hrunning
    · -- the directory is there in the end, so it can be made now
      obtain ⟨hfault, loc, hleads⟩ := hfile.exists_leadsTo hend hparent
      obtain ⟨-, -, htrimmed, -⟩ := FilePath.exists_of_parent? hparent
      have hmade := Output.ensureDir_snd hlinks h.develops hinto hhere hleads hfault htrimmed
      rw [hdir] at hmade
      cases hmade
  · obtain ⟨place, o, hfile⟩ := exists_fileAt_of_rendered hpages h htask (Or.inr hstage)
    obtain ⟨dir, -, -, hparent, -⟩ := hfile.exists_parent hend
    obtain ⟨loc, hleads⟩ := h.placed task hmem page hstage dir hparent
    obtain ⟨tree, hwrite⟩ := exists_write_eq hlinks h.develops hinto hhere hfile hparent hleads
      (Export.pageContent page)
    rw [hmove, write_of_eq (Output.writeFile_of_ok hwrite)]
    exact hfinish _ _ (by simp)

include hnodup

/-- **Every schedule of another run develops into the tree of a run that has come to its end.** -/
theorem into_reaches (h : Tracks e plan t s) (hinto : Develops s.outcome.tree u)
    (hreaches : Reaches e s s') (hrunning : s'.outcome.stopped = none) :
    Develops s'.outcome.tree u := by
  induction hreaches with
  | refl s => exact hinto
  | step i hadvance hrest ih =>
    have hrunning' := stopped_eq_none_of_reaches hrest hrunning
    exact ih (h.advance hcurrent hnodup hadvance hrunning')
      (h.into_advance hcurrent hpages hinto hadvance) hrunning

/-- No move ever stops such a run. -/
theorem running_reaches (hlinks : t.LinksLead)
    (hmild : ∀ page ∈ plan, ∀ f, Crawl.render e.router page = .error f → f.isFatal = false)
    (h : Tracks e plan t s) (hrunning : s.outcome.stopped = none)
    (hinto : Develops s.outcome.tree u) (hreaches : Reaches e s s') :
    s'.outcome.stopped = none := by
  induction hreaches with
  | refl s => exact hrunning
  | step i hadvance _ ih =>
    have hrunning' := h.running_advance hcurrent hpages hlinks hmild hinto hadvance
    exact ih (h.advance hcurrent hnodup hadvance hrunning') hrunning'
      (h.into_advance hcurrent hpages hinto hadvance)

end Into

/-! ### The same tree -/

/-- Pages of which no two have their files at one place. -/
def Apart (e : Export) (plan : List String) (u : FileTree) : Prop :=
  ∀ p ∈ plan, ∀ q ∈ plan, p ≠ q → ∀ place o o', FileAt u (e.pageFile p) place o →
    ¬FileAt u (e.pageFile q) place o'

/-- A file with the content of a page in one run has it in every run. -/
theorem get?_of_get? (hcurrent : t.get? t.current = some .directory) {s₁ s₂ : Schedule}
    (h₁ : Tracks e plan t s₁) (h₂ : Tracks e plan t s₂)
    (hend : ∀ task ∈ s₂.tasks, task.stage = .finished)
    (h₁₂ : Develops s₁.outcome.tree s₂.outcome.tree) (hapart : Apart e plan s₂.outcome.tree)
    {place : Location} {page : String} {octets : Bytes} (hpage : page ∈ plan)
    (hcontent : e.content page = some octets)
    (hfile : FileAt s₁.outcome.tree (e.pageFile page) place octets) :
    s₂.outcome.tree.get? place = some (.file octets) := by
  rw [← h₂.tally.paths] at hpage
  obtain ⟨task, htask, rfl⟩ := List.mem_map.mp hpage
  obtain ⟨place', octets', hfile', hown⟩ := h₂.written task htask (hend task htask) octets hcontent
  obtain ⟨o, hsame⟩ := h₁₂.exists_fileAt (h₁.get?_current hcurrent) hfile
  obtain ⟨rfl, -⟩ := hsame.eq hfile'
  rcases hown with rfl | ⟨other, hother, hne, o', hover⟩
  · exact hfile'.get? (h₂.get?_current hcurrent)
  · exact absurd hfile' (hapart other hother _ (by rwa [← h₂.tally.paths]) hne _ _ _ hover)

/-- **Two runs that come to their end leave the same tree behind**, if no two pages have their files
at one place. -/
theorem tree_eq (hcurrent : t.get? t.current = some .directory) {s₁ s₂ : Schedule}
    (h₁ : Tracks e plan t s₁) (h₂ : Tracks e plan t s₂)
    (hend₁ : ∀ task ∈ s₁.tasks, task.stage = .finished)
    (hend₂ : ∀ task ∈ s₂.tasks, task.stage = .finished)
    (h₁₂ : Develops s₁.outcome.tree s₂.outcome.tree)
    (h₂₁ : Develops s₂.outcome.tree s₁.outcome.tree)
    (hapart : Apart e plan s₂.outcome.tree) : s₁.outcome.tree = s₂.outcome.tree := by
  have hapart₁ : Apart e plan s₁.outcome.tree := by
    intro p hp q hq hne place o o' hpfile hqfile
    obtain ⟨_, hp'⟩ := h₁₂.exists_fileAt (h₁.get?_current hcurrent) hpfile
    obtain ⟨_, hq'⟩ := h₁₂.exists_fileAt (h₁.get?_current hcurrent) hqfile
    exact hapart p hp q hq hne place _ _ hp' hq'
  have hfile : ∀ place octets octets', s₁.outcome.tree.get? place = some (.file octets) →
      s₂.outcome.tree.get? place = some (.file octets') → octets = octets' := by
    intro place octets octets' hget₁ hget₂
    -- a file that one of the runs has written is in both; any other is that of before
    rcases h₁.files place octets hget₁ with hold | ⟨page, hpage, hcontent, hfile⟩
    · rcases h₂.files place octets' hget₂ with hold' | ⟨page, hpage, hcontent, hfile⟩
      · exact Entry.file.inj (Option.some.inj (hold.symm.trans hold'))
      · have hget := get?_of_get? hcurrent h₂ h₁ hend₁ h₂₁ hapart₁ hpage hcontent hfile
        exact Entry.file.inj (Option.some.inj (hget₁.symm.trans hget))
    · have hget := get?_of_get? hcurrent h₁ h₂ hend₂ h₁₂ hapart hpage hcontent hfile
      exact Entry.file.inj (Option.some.inj (hget.symm.trans hget₂))
  refine ext_get? h₂₁.current fun place => ?_
  cases hget : s₁.outcome.tree.get? place with
  | some entry =>
    cases entry with
    | directory => exact (h₁₂.directory hget).symm
    | link text => exact (h₁₂.link.mpr hget).symm
    | file octets =>
      obtain ⟨octets', hget'⟩ := h₁₂.file hget
      rw [hget', hfile place octets octets' hget hget']
  | none =>
    by_contra hne
    exact h₂₁.get?_ne_none (fun hnone => hne hnone.symm) hget

end Tracks

end Schedule

/-! ### Pages that are apart -/

/-- **Separate pages are apart** below an output directory without links. -/
theorem Schedule.Tracks.apart_of_separate {e : Export} {plan : List String} {u : FileTree}
    (hcurrent : u.get? u.current = some .directory)
    (hplain : ∀ page ∈ plan, ∀ s ∈ namesOf (mapPath page), IsPlain s) (hseparate : Separate plan)
    (hlinks : ∀ loc, LeadsTo u e.out loc → NoLinks u loc) : Apart e plan u := by
  -- the place of a file is given by the names of its path
  have hplace : ∀ page ∈ plan, ∀ place o, FileAt u (e.pageFile page) place o →
      ∃ loc, LeadsTo u e.out loc ∧ place = loc ++ namesOf (mapPath page) := by
    intro page hpage place o hfile
    obtain ⟨loc, hleads, hstays⟩ := hfile.exists_pagePlace hcurrent
    refine ⟨loc, hleads, hstays loc [] (List.append_nil loc).symm (hlinks loc hleads) _ ?_⟩
    rw [Link.follow_of_forall_isPlain (hplain page hpage), List.nil_append]
  intro p hp q hq hne place o o' hpfile hqfile
  obtain ⟨loc, hleads, hpplace⟩ := hplace p hp place o hpfile
  obtain ⟨loc', hleads', hqplace⟩ := hplace q hq place o' hqfile
  obtain ⟨rfl, -⟩ := Target.present.inj (Except.ok.inj (hleads.reached.symm.trans hleads'.reached))
  have hnames := List.append_cancel_left (hpplace.symm.trans hqplace)
  refine (hseparate p hp q hq hne).2 ?_
  rw [hnames]

/-! ### Any order of turns -/

open Schedule Catalog

/-- One page after the other is one of the orders in which tasks can take turns. -/
theorem exists_reaches_pagePhase (e : Export) (units : List String) (t : FileTree) :
    ∃ s, Reaches e (Schedule.start (e.plan units) t) s ∧ s.outcome = e.pagePhase units t ∧
      (s.outcome.stopped = none → ∀ task ∈ s.tasks, task.stage = .finished) := by
  have hlined : (Schedule.start (e.plan units) t).tasks = lined [] (e.plan units) := rfl
  have hlength : (Schedule.start (e.plan units) t).tasks.length = (e.plan units).length :=
    List.length_map _
  obtain ⟨s, hreaches, houtcome, hfinished⟩ := exists_reaches_exportPages (e := e) hlined rfl rfl
  rw [hlength] at houtcome
  refine ⟨s, hreaches, houtcome, fun hrunning task htask => ?_⟩
  rw [hfinished hrunning, lined, List.map_nil, List.append_nil] at htask
  obtain ⟨path, -, rfl⟩ := List.mem_map.mp htask
  rfl

/-- **Concurrency does not change the result.** Take any run of the pages, with any number of jobs
and any order in which their tasks take turns, that has come to its end without a file that could
not be read or written. Every task is finished; every planned page was announced once, under the
numbers from one on; and the site got the requests of each page once. The pages that are listed as
failed are those that cannot be rendered, and the others count as written.

One page after the other gives the same, as far as links allow it. That run is not stopped either if
every link leads somewhere. If it is not stopped, it counts as many pages and lists the same
failures; and if no two pages have their files at one place, it leaves the same tree behind, after
the pages and in the end. That is so when the paths of the files have no steps and are separate and
there is no link in the output directory. -/
theorem concurrent_run {e : Export} {units : List String} {t : FileTree}
    (hcurrent : t.get? t.current = some .directory) {s : Schedule}
    (hreaches : Reaches e (Schedule.start (e.plan units) t) s)
    (hend : ∀ i, advance e i s = none) (hrunning : s.outcome.stopped = none) :
    (∀ task ∈ s.tasks, task.stage = .finished) ∧
      (∃ order, order.Perm (e.plan units) ∧ order.Nodup ∧
        Event.announcements s.outcome.events =
          .start (e.plan units).length :: Event.numbered (e.plan units).length 1 order) ∧
      (Event.requests s.outcome.events).Perm
        ((e.plan units).flatMap fun page => (Crawl.visit e.router page).requested) ∧
      s.outcome.progress.report.failures.Perm ((e.plan units).filterMap e.failure?) ∧
      s.outcome.progress.report.pagesWritten + s.outcome.progress.report.failures.length =
        (e.plan units).length ∧
      (t.LinksLead → (e.pagePhase units t).stopped = none) ∧
      ((e.pagePhase units t).stopped = none →
        s.outcome.progress.report.pagesWritten =
            (e.pagePhase units t).progress.report.pagesWritten ∧
          s.outcome.progress.report.failures.Perm
            (e.pagePhase units t).progress.report.failures ∧
          (Tracks.Apart e (e.plan units) s.outcome.tree →
            s.outcome.tree = (e.pagePhase units t).tree ∧
              (e.afterPages s.outcome).tree = (e.run units t).tree)) ∧
      ((∀ page ∈ e.plan units, ∀ s ∈ namesOf (mapPath page), IsPlain s) →
        Separate (e.plan units) →
        (∀ loc, LeadsTo s.outcome.tree e.out loc → NoLinks s.outcome.tree loc) →
          Tracks.Apart e (e.plan units) s.outcome.tree) := by
  have hnodup : (e.plan units).Nodup := nodup_planPages _ _
  have htracks := (Tracks.start e (e.plan units) t).reaches hcurrent hnodup hreaches hrunning
  have hfinished := stage_eq_finished hrunning hend
  -- what the run has done together
  obtain ⟨order, hnumbered, -, horder⟩ := htracks.tally.announced
  obtain ⟨asked, hasked, haskedPerm⟩ := htracks.tally.requested
  obtain ⟨ended, hfailures, hcount, hendedPerm⟩ := htracks.tally.finished
  rw [htracks.tally.pathsAt_eq hfinished rfl] at horder haskedPerm hendedPerm
  have hlisted : s.outcome.progress.report.failures.Perm ((e.plan units).filterMap e.failure?) :=
    hfailures ▸ hendedPerm.filterMap _
  have hcounted : s.outcome.progress.report.pagesWritten +
      s.outcome.progress.report.failures.length = (e.plan units).length := by
    rw [hfailures, hcount, hendedPerm.length_eq]
  -- one page after the other is another run towards the same tree
  obtain ⟨s₁, hreaches₁, hphase, hend₁⟩ := exists_reaches_pagePhase e units t
  have hinto : ∀ u, Tracks.HasPages e (e.plan units) u → Develops t u → ∀ s',
      Reaches e (Schedule.start (e.plan units) t) s' → s'.outcome.stopped = none →
        Develops s'.outcome.tree u := fun u hpages htu s' hreaches' hrunning' =>
    (Tracks.start e (e.plan units) t).into_reaches hcurrent hnodup hpages htu hreaches' hrunning'
  have hpages := htracks.hasPages hfinished
  refine ⟨hfinished, ⟨order, horder, horder.nodup_iff.mpr hnodup, hnumbered⟩,
    hasked ▸ haskedPerm.flatMap_right _, hlisted, hcounted, fun hlinks => ?_, fun hrunning₁ => ?_,
    fun hplain hseparate hlinks => ?_⟩
  · rw [← hphase]
    exact (Tracks.start e (e.plan units) t).running_reaches hcurrent hnodup hpages hlinks
      (fun page hpage f => htracks.isFatal_of_render hfinished hpage) rfl htracks.develops hreaches₁
  · obtain ⟨hlisted₁, hcounted₁⟩ := Export.report_exportPages hrunning₁
    have hfailures₁ : (e.pagePhase units t).progress.report.failures =
        (e.plan units).filterMap e.failure? := hlisted₁
    have hwritten₁ : (e.pagePhase units t).progress.report.pagesWritten +
        ((e.plan units).filterMap e.failure?).length = (e.plan units).length :=
      hcounted₁.trans (Nat.zero_add _)
    have hlength := hlisted.length_eq
    refine ⟨by omega, hfailures₁ ▸ hlisted, fun hapart => ?_⟩
    rw [← hphase] at hrunning₁
    have htracks₁ := (Tracks.start e (e.plan units) t).reaches hcurrent hnodup hreaches₁ hrunning₁
    have hpages₁ := htracks₁.hasPages (hend₁ hrunning₁)
    have htree : s₁.outcome.tree = s.outcome.tree :=
      Tracks.tree_eq hcurrent htracks₁ htracks (hend₁ hrunning₁) hfinished
        (hinto _ hpages htracks.develops s₁ hreaches₁ hrunning₁)
        (hinto _ hpages₁ htracks₁.develops s hreaches hrunning) hapart
    rw [hphase] at htree hrunning₁
    refine ⟨htree.symm, ?_⟩
    rw [Export.run_eq_afterPages]
    exact (e.afterPages_congr ⟨htree.symm, hrunning.trans hrunning₁.symm⟩).1
  · exact Tracks.apart_of_separate (htracks.get?_current hcurrent) hplain hseparate hlinks

/-- A site of two pages that answers every request with the same text, exported by two jobs. -/
def twoJobs : Export :=
  { oneText with config := { staticPages := ["/about"], jobs := 2 } }

/-- Both pages are under way at the same time, and whatever happens then, the run ends with both
written and with the tree of one page after the other. -/
theorem concurrent_run_of_two_jobs :
    ∃ both s, Reaches twoJobs (Schedule.start (twoJobs.plan []) .empty) both ∧ both.running = 2 ∧
      Reaches twoJobs both s ∧ s.outcome.progress.report.pagesWritten = 2 ∧
        s.outcome.tree = (twoJobs.pagePhase [] .empty).tree := by
  have hplan : twoJobs.plan [] = ["/", "/about"] := by decide
  have hboth : Reaches twoJobs (Schedule.start (twoJobs.plan []) .empty)
      (((Schedule.start (twoJobs.plan []) .empty).announce 0 "/").announce 1 "/about") := by
    rw [hplan]
    exact .step 0 rfl (.step 1 rfl (.refl _))
  obtain ⟨s, hreaches, hend⟩ := exists_reaches_end twoJobs
    (((Schedule.start (twoJobs.plan []) .empty).announce 0 "/").announce 1 "/about")
  have hrun := hboth.trans hreaches
  -- no page fails on its own, so nothing stops the run
  have hfresh : outDirectory.Fresh .empty := by
    refine ⟨⟨?_, rfl⟩, fun above hne _ => Or.inl (get?_empty hne), fun more _ => ?_⟩
    · rw [outDirectory, namesOf_empty, follow]
      rfl
    · exact get?_empty (by simp [outDirectory])
  have hserves : twoJobs.Serves outDirectory (twoJobs.plan []) :=
    Export.serves_plan (by decide) (by decide) (Or.inl rfl) (by decide)
  have hsound := (Sound.start twoJobs outDirectory (twoJobs.plan []) .empty).reaches hserves hfresh
    (nodup_planPages _ _) hrun
  have hrunning : s.outcome.stopped = none := by
    rw [Option.eq_none_iff_forall_ne_some]
    intro f hf
    obtain ⟨page, hpage, hfails⟩ := hsound.stopped f hf
    have hfault : ∀ page ∈ twoJobs.plan [], outDirectory.fault? page = none := by
      rw [hplan]
      decide +kernel
    rw [Export.exportPage_snd hserves hfresh hpage rfl, hfault page hpage] at hfails
    cases hfails
  have hnolink : ∀ loc text, FileTree.empty.get? loc ≠ some (.link text) := noLinks_empty []
  have htracks := (Tracks.start twoJobs (twoJobs.plan []) .empty).reaches rfl (nodup_planPages _ _)
    hrun hrunning
  obtain ⟨-, -, -, hlisted, hcount, hsequential, hsame, hapart⟩ :=
    concurrent_run rfl hrun hend hrunning
  have hphase := hsequential fun dir name text hlink => absurd hlink (hnolink _ text)
  have htree := (hsame hphase).2.2 (hapart (by decide) (by decide) fun loc _ names text hlink =>
    hnolink _ text (htracks.develops.link.mp hlink))
  refine ⟨_, s, hboth, by rw [hplan]; rfl, hreaches, ?_, htree.1⟩
  have hnone : (twoJobs.plan []).filterMap twoJobs.failure? = [] := by
    rw [hplan]
    decide +kernel
  rw [hlisted.length_eq, hnone, hplan] at hcount
  exact hcount

/-! ### Runs that differ through links -/

/-- A site that answers every request with its path, exported with a job for each of three pages. -/
def linked : Export where
  router := fun _ path => .ok { contentType := some "text/plain", body := Utf8.encode path }
  config := { staticPages := [], favicon := none, jobs := 3 }
  out := "out"

/-- An output directory with a link that leads nowhere. -/
def danglingOut : FileTree :=
  (FileTree.empty.put [] "out" .directory).put ["out"] "x" (.link "y")

/-- The same directory with another one to which the link leads. -/
def joinedOut : FileTree :=
  danglingOut.put ["out"] "y" .directory

theorem exportPage_linked (t : FileTree) (page : String) :
    linked.exportPage t page = Output.write t (linked.pageFile page) (Utf8.encode page) := by
  have hrender : Crawl.render linked.router page =
      .ok ⟨page, page, Utf8.encode page, "text/plain", 200⟩ := rfl
  have hcontent : Export.pageContent ⟨page, page, Utf8.encode page, "text/plain", 200⟩ =
      Utf8.encode page := by
    rw [Export.pageContent, RenderedPage.isHtml, if_neg]
    exact (by decide : ¬("text/plain".isEmpty || hasInfix "text/html".toList "text/plain".toList))
  rw [Export.exportPage, hrender]
  dsimp only
  rw [hcontent]

/-- A tree with the link in the output directory. -/
structure HasLink (t : FileTree) : Prop where
  current : t.current = []
  out : t.get? ["out"] = some .directory
  link : t.get? ["out", "x"] = some (.link "y")

theorem hasLink_danglingOut : HasLink danglingOut := ⟨rfl, rfl, rfl⟩

theorem hasLink_joinedOut : HasLink joinedOut := ⟨rfl, rfl, rfl⟩

namespace HasLink

variable {t t' : FileTree} {loc : Location} {names : List String} {octets : Bytes}

/-- A file elsewhere leaves the link alone. -/
theorem of_adds (h : HasLink t) (hadds : Adds t loc names (.file octets) t')
    (hout : loc ++ names ≠ ["out"]) (hlink : ¬["out", "x"] <+: loc ++ names) : HasLink t' := by
  refine ⟨hadds.current.trans h.current, ?_, ?_⟩
  · rw [hadds.get?_eq, if_neg hout.symm, h.out, ite_self]
  · rw [hadds.get?_eq, if_neg, if_neg hlink, h.link]
    intro heq
    exact hlink (heq ▸ List.prefix_rfl)

theorem origin_eq (h : HasLink t) {path : FilePath} (hpath : FilePath.isAbsolute path = false) :
    t.origin path = [] := by
  rw [origin, hpath, if_neg Bool.false_ne_true, h.current]

theorem follow_out (h : HasLink t) (last : LastName) (links : ℕ) {rest : List String}
    (hrest : rest ≠ [""]) :
    follow t last links [] ("out" :: rest) = follow t last links ["out"] rest :=
  follow_directory (.of_isPlain (by decide) (by decide) hrest) (by decide) h.out

theorem follow_link (h : HasLink t) {last : LastName} {rest : List String}
    (hlast : ¬(rest.isEmpty = true ∧ last = .kept)) (hrest : rest ≠ [""]) :
    follow t last maxLinks [] ("out" :: "x" :: rest) = follow t last 39 ["out"] ("y" :: rest) := by
  have hreads : Reads last "x" rest := .of_isPlain (by decide) (by decide) hrest
  rw [h.follow_out last maxLinks (show "x" :: rest ≠ [""] by simp),
    show maxLinks = 39 + 1 from rfl, FileTree.follow_link hreads (by decide) h.link hlast]
  rfl

theorem leadsTo_out (h : HasLink t) : LeadsTo t "out" ["out"] := by
  refine ⟨?_, h.out⟩
  rw [h.origin_eq (by decide), show namesOf "out" = ["out"] by decide,
    h.follow_out _ _ (show [] ≠ [""] by simp), follow, h.out]
  rfl

section Directory

variable (h : HasLink t) (hdir : t.get? ["out", "y"] = some .directory)

include h hdir

/-- The link leads to the directory that it names. -/
theorem leadsTo_link : LeadsTo t "out/x" ["out", "y"] := by
  refine ⟨?_, hdir⟩
  rw [h.origin_eq (by decide), show namesOf "out/x" = ["out", "x"] by decide,
    h.follow_link (by simp) (by simp),
    follow_directory (.of_isPlain (by decide) (by decide) (by simp)) (by decide) hdir, follow]
  exact congrArg (fun e => Except.ok (Target.present ["out", "y"] (Option.getD e .directory))) hdir

theorem leadsTo_dir : LeadsTo t "out/y" ["out", "y"] := by
  have hbelow : FilePath.below "out" ["y"] = "out/y" := by decide
  rw [← hbelow]
  refine h.leadsTo_out.below (by decide) (by decide) fun above habove => ?_
  rcases List.prefix_cons_iff.mp habove with rfl | ⟨more, rfl, hmore⟩
  · exact h.out
  · rw [List.prefix_nil.mp hmore]
    exact hdir

end Directory

section Nowhere

variable (h : HasLink t) (hnone : t.get? ["out", "y"] = none)

include h hnone

/-- Steps through a link that leads nowhere. -/
theorem follow_link_free {last : LastName} {rest : List String}
    (hlast : ¬(rest.isEmpty = true ∧ last = .kept)) (hrest : rest ≠ [""]) :
    follow t last maxLinks [] ("out" :: "x" :: rest) =
      if rest.isEmpty then .ok (.free ["out"] "y") else .error .notFound := by
  rw [h.follow_link hlast hrest]
  exact follow_free (.of_isPlain (by decide) (by decide) hrest) (by decide) hnone

/-- A directory behind the link is not found. -/
theorem makeDir_behind_link : t.makeDir "out/x/a" = .error .notFound := by
  rw [makeDir, resolveNew_eq t (by decide), show pathFault? "out/x/a" = none by decide,
    Option.elim_none, h.origin_eq (by decide), show namesOf "out/x/a" = ["out", "x", "a"] by decide,
    h.follow_link_free hnone (by simp) (by simp)]
  rfl

/-- In place of the link no directory is made: a link is there, and it leads to none. -/
theorem makeDirsWithin_link (bound : ℕ) :
    makeDirsWithin (bound + 1) t "out/x" = (t, some .alreadyExists) := by
  have hmake : t.makeDir "out/x" = .error .alreadyExists := by
    have hlink : follow t .kept maxLinks ["out"] ["x"] =
        .ok (.present ["out", "x"] (.link "y")) :=
      follow_link_kept (by decide) (.of_isPlain (by decide) (by decide) (by simp)) h.link
    rw [makeDir, resolveNew_eq t (by decide), show pathFault? "out/x" = none by decide,
      Option.elim_none, h.origin_eq (by decide), show namesOf "out/x" = ["out", "x"] by decide,
      h.follow_out _ _ (show ["x"] ≠ [""] by simp), hlink]
  have hisDir : t.isDir "out/x" = false := by
    rw [isDir, resolve_eq t _ (by decide), show pathFault? "out/x" = none by decide,
      Option.elim_none, h.origin_eq (by decide), show stepsOf "out/x" = ["out", "x"] by decide,
      h.follow_link_free hnone (by simp) (by simp)]
    rfl
  rw [makeDirsWithin, if_neg (by decide), hmake]
  dsimp only
  rw [hisDir]
  rfl

/-- So the file of a page behind the link has no directory. -/
theorem ensureDir_behind_link :
    Output.ensureDir t "out/x/a" = (t, .error (.file "out/x/a" .alreadyExists)) := by
  have hparent : FilePath.parent? "out/x/a" = some "out/x" := by decide
  have hlength : "out/x/a".length + 1 = 6 + 1 + 1 := by decide
  rw [Output.ensureDir, if_neg (by decide), makeDirs, hlength, makeDirsWithin, if_neg (by decide),
    h.makeDir_behind_link hnone]
  dsimp only
  rw [hparent]
  dsimp only
  rw [h.makeDirsWithin_link hnone]

end Nowhere

/-- A page with space for its file is written. -/
theorem exists_pageStep (h : HasLink t) (page : String) {root : FilePath} {old : Bytes}
    (hpath : linked.pageFile page = root.below names) (hleads : LeadsTo t root loc)
    (hnames : names ≠ [] ∧ (∀ s ∈ names, IsName s ∧ IsPlain s) ∧
      wayFault? (root.below names) names = none)
    (hkept : loc ++ names ≠ ["out"] ∧ ¬["out", "x"] <+: loc ++ names)
    (hspace : HasSpace t loc names (.file old)) :
    ∃ t', linked.pageStep t page = (t', none) ∧ HasLink t' ∧
      ∀ place, t'.get? place = if place = loc ++ names then some (.file (Utf8.encode page))
        else if place <+: loc ++ names then some .directory else t.get? place := by
  obtain ⟨hne, hplain, hfault⟩ := hnames
  obtain ⟨t', hwrite, hadds⟩ :=
    Output.exists_output_eq hleads hplain hne hspace hfault (Utf8.encode page)
  refine ⟨t', ?_, h.of_adds hadds hkept.1 hkept.2, hadds.get?_eq⟩
  rw [Export.pageStep, exportPage_linked, hpath, hwrite]

/-- The homepage is written beside the link. -/
theorem exists_pageStep_home (h : HasLink t) (hnone : t.get? ["out", "index.html"] = none) :
    ∃ t', linked.pageStep t "/" = (t', none) ∧ HasLink t' ∧
      ∀ more, t'.get? ("out" :: "y" :: more) = t.get? ("out" :: "y" :: more) := by
  have hpath : linked.pageFile "/" = FilePath.below "out" ["index.html"] := by decide
  obtain ⟨t', hstep, h', hget⟩ := h.exists_pageStep "/" hpath h.leadsTo_out (by decide) (by decide)
    (.of_get?_eq_none ["out"] [] h.out hnone (.file []))
  exact ⟨t', hstep, h', fun more => by simp [hget]⟩

/-- A page in the directory that the link leads to is written there, whether or not its path goes
through the link. -/
theorem exists_pageStep_dir (h : HasLink t) (hdir : t.get? ["out", "y"] = some .directory)
    {page : String} (hpage : page = "/x/a" ∨ page = "/y/a") {old : Bytes}
    (hspace : HasSpace t ["out", "y"] ["a", "index.html"] (.file old)) :
    ∃ t', linked.pageStep t page = (t', none) ∧ HasLink t' ∧
      t'.get? ["out", "y"] = some .directory ∧
      t'.get? ["out", "y", "a", "index.html"] = some (.file (Utf8.encode page)) := by
  obtain ⟨root, hleads, hpath, hfault⟩ : ∃ root, LeadsTo t root ["out", "y"] ∧
      linked.pageFile page = root.below ["a", "index.html"] ∧
        wayFault? (root.below ["a", "index.html"]) ["a", "index.html"] = none := by
    rcases hpage with rfl | rfl
    · exact ⟨"out/x", h.leadsTo_link hdir, by decide, by decide⟩
    · exact ⟨"out/y", h.leadsTo_dir hdir, by decide, by decide⟩
  obtain ⟨t', hstep, h', hget⟩ := h.exists_pageStep page hpath hleads
    ⟨by simp, by decide, hfault⟩ (by decide) hspace
  exact ⟨t', hstep, h', by simp [hget], by simp [hget]⟩

end HasLink

/-- A page behind the link can be written once another one has made the directory, and before that
it stops the run. -/
theorem pageSteps_danglingOut :
    (∀ k, failsAt? linked.pageStep danglingOut ["/", "/y/b", "/x/a"] k = none) ∧
      FirstFailure linked.pageStep danglingOut ["/", "/x/a", "/y/b"] 1
        (.file "out/x/a" .alreadyExists) := by
  obtain ⟨t₁, hhome, h₁, hget₁⟩ := hasLink_danglingOut.exists_pageStep_home rfl
  have hfree : danglingOut.get? ["out", "y"] = none := rfl
  have hnone : ∀ more, t₁.get? ("out" :: "y" :: more) = none := fun more =>
    (hget₁ more).trans (get?_append_eq_none hfree more)
  constructor
  · have hpath : linked.pageFile "/y/b" = FilePath.below "out" ["y", "b", "index.html"] := by decide
    obtain ⟨t₂, hstep₂, h₂, hget₂⟩ := h₁.exists_pageStep "/y/b" hpath h₁.leadsTo_out (by decide)
      (by decide) (.of_get?_eq_none ["out"] [] h₁.out (hnone []) (.file []))
    have hdir₂ : t₂.get? ["out", "y"] = some .directory := by simp [hget₂]
    have hnone₂ : t₂.get? ["out", "y", "a"] = none := by simp [hget₂, hnone]
    obtain ⟨t₃, hstep₃, -, -, -⟩ := h₂.exists_pageStep_dir hdir₂ (Or.inl rfl)
      (.of_get?_eq_none ["out", "y"] [] hdir₂ hnone₂ (.file []))
    simp only [forall_failsAt?_cons_iff, hhome, hstep₂, hstep₃, true_and]
    exact fun k => rfl
  · refine firstFailure_succ_iff.mpr ⟨by rw [hhome], firstFailure_zero_iff.mpr ?_⟩
    have hparent : FilePath.parent? (linked.pageFile "/x/a") = some "out/x/a" := by decide
    rw [hhome, Export.pageStep, exportPage_linked,
      Output.write_of_error hparent (h₁.ensureDir_behind_link (hnone []))]
    rfl

/-- Pages with one file through the link are written in any order, and the last one is left. -/
theorem pageSteps_joinedOut {p q : String} (hp : p = "/x/a" ∨ p = "/y/a")
    (hq : q = "/x/a" ∨ q = "/y/a") :
    (∀ k, failsAt? linked.pageStep joinedOut ["/", p, q] k = none) ∧
      (treeAfter linked.pageStep joinedOut ["/", p, q]).get? ["out", "y", "a", "index.html"] =
        some (.file (Utf8.encode q)) := by
  obtain ⟨t₁, hhome, h₁, hget₁⟩ := hasLink_joinedOut.exists_pageStep_home rfl
  have hdir₁ : t₁.get? ["out", "y"] = some .directory := hget₁ []
  have hnone₁ : t₁.get? ["out", "y", "a"] = none := hget₁ ["a"]
  obtain ⟨t₂, hstep₂, h₂, hdir₂, hfile₂⟩ := h₁.exists_pageStep_dir hdir₁ hp
    (.of_get?_eq_none ["out", "y"] [] hdir₁ hnone₁ (.file []))
  have hspace₂ : HasSpace t₂ ["out", "y"] ["a", "index.html"] (.file (Utf8.encode p)) :=
    .of_get? hfile₂ (by simp)
  obtain ⟨t₃, hstep₃, -, -, hfile₃⟩ := h₂.exists_pageStep_dir hdir₂ hq hspace₂
  refine ⟨?_, ?_⟩
  · simp only [forall_failsAt?_cons_iff, hhome, hstep₂, hstep₃, true_and]
    exact fun k => rfl
  · simp only [treeAfter_cons, hhome, hstep₂, hstep₃]
    exact hfile₃

/-- The three pages can end in any order in which none of them stops the run. -/
theorem exists_reaches_linked (units : List String) {order : List String} {t : FileTree}
    (hlength : (linked.plan units).length = 3) (horder : order.Perm (linked.plan units))
    (hsteps : ∀ k, failsAt? linked.pageStep t order k = none) :
    ∃ s, Reaches linked (Schedule.start (linked.plan units) t) s ∧
      (∀ i, advance linked i s = none) ∧ s.outcome.stopped = none ∧
      s.outcome.tree = treeAfter linked.pageStep t order ∧
      s.outcome.progress.report.pagesWritten = 3 := by
  obtain ⟨s, hreaches, halike, hfinished⟩ :=
    exists_reaches_of_perm (e := linked) (nodup_planPages _ _) hlength.le horder 3 1 t
  obtain ⟨hafter, hrunning⟩ := Export.after_of_forall 3 1 { tree := t } hsteps
  have hstopped := halike.stopped.trans hrunning
  refine ⟨s, hreaches, advance_eq_none (hfinished hstopped), hstopped,
    halike.tree.trans hafter.tree, ?_⟩
  -- every page can be rendered
  obtain ⟨-, hcount⟩ := Export.report_exportPages hrunning
  have hnone : order.filterMap linked.failure? = [] := List.filterMap_eq_nil_iff.mpr fun _ _ => rfl
  rw [hnone, horder.length_eq, hlength] at hcount
  rw [halike.report]
  exact hcount

/-- **Links in the output make a difference.** Where a link leads nowhere, a run of one page after
the other is stopped at the page behind it, and a run of all pages at once can end with each of them
written. Where a link joins the directories of two pages whose paths are separate, they have one
file, and what it holds in the end depends on the order. -/
theorem concurrent_run_differs_through_links :
    (∃ s, Reaches linked (Schedule.start (linked.plan ["x/a", "y/b"]) danglingOut) s ∧
      (∀ i, advance linked i s = none) ∧ s.outcome.stopped = none ∧
      s.outcome.progress.report.pagesWritten = 3 ∧
      (linked.run ["x/a", "y/b"] danglingOut).result =
        .error (.file "out/x/a" .alreadyExists)) ∧
    ∃ s, Reaches linked (Schedule.start (linked.plan ["x/a", "y/a"]) joinedOut) s ∧
      (∀ i, advance linked i s = none) ∧ s.outcome.stopped = none ∧
      (∀ page ∈ linked.plan ["x/a", "y/a"], ∀ s ∈ namesOf (mapPath page), IsPlain s) ∧
      Separate (linked.plan ["x/a", "y/a"]) ∧
      (linked.run ["x/a", "y/a"] joinedOut).stopped = none ∧
      (linked.afterPages s.outcome).tree ≠ (linked.run ["x/a", "y/a"] joinedOut).tree := by
  constructor
  · have hplan : linked.plan ["x/a", "y/b"] = ["/", "/x/a", "/y/b"] := by decide
    obtain ⟨hsteps, hfirst⟩ := pageSteps_danglingOut
    rw [← hplan] at hfirst
    obtain ⟨s, hreaches, hend, hrunning, -, hwritten⟩ :=
      exists_reaches_linked ["x/a", "y/b"] (by decide) (by decide) hsteps
    exact ⟨s, hreaches, hend, hrunning, hwritten, (Export.stopsAtPage hfirst).result⟩
  · have hplan : linked.plan ["x/a", "y/a"] = ["/", "/x/a", "/y/a"] := by decide
    obtain ⟨hsteps, hfile⟩ := pageSteps_joinedOut (Or.inr rfl) (Or.inl rfl)
    obtain ⟨hsteps₁, hfile₁⟩ := pageSteps_joinedOut (Or.inl rfl) (Or.inr rfl)
    rw [← hplan] at hsteps₁ hfile₁
    obtain ⟨s, hreaches, hend, hrunning, htree, -⟩ :=
      exists_reaches_linked ["x/a", "y/a"] (by decide) (by decide) hsteps
    obtain ⟨hrunning₁, htree₁⟩ := Export.run_of_forall rfl hsteps₁
    refine ⟨s, hreaches, hend, hrunning, by decide, by decide, hrunning₁, fun hsame => ?_⟩
    rw [(Export.sameTree_afterPages rfl s.outcome).1, htree, htree₁] at hsame
    rw [hsame, hfile₁] at hfile
    exact absurd hfile (by decide)

end SiteSnapshot
