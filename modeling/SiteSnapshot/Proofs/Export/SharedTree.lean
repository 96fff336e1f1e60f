import SiteSnapshot.Proofs.Export.Tally
import SiteSnapshot.Proofs.FileTree.Containment
import SiteSnapshot.Proofs.Layout.Effects

/-!
# The tree that tasks share

The tasks of a run make directories and write files in one tree, wherever the paths of their pages
lead. At every moment (`Tracks`) the tree has developed from the one before the run; a finished page
has its file, with its own content unless another page has its file at the same place; and every
file is as it was before the run or has the content of a page.

`Tracks.advance` is the step and `Tracks.reaches` the run. The steps are told apart by what they
change: making directories lets the tree grow (`Tracks.grow`), and writing a file changes it at the
place of the page alone (`Tracks.set`).
-/

namespace SiteSnapshot

open FileTree

namespace Schedule

variable {e : Export} {plan : List String} {t : FileTree} {s s' : Schedule} {i : ℕ}
  {task : PageTask}

/-- What holds of the tree that the tasks of a run share, as long as nothing has stopped the run. -/
structure Tracks (e : Export) (plan : List String) (t : FileTree) (s : Schedule) : Prop where
  tally : Tally e plan s
  develops : Develops t s.outcome.tree
  placed : ∀ task ∈ s.tasks, ∀ page, task.stage = .placed page →
    ∀ dir, FilePath.parent? (e.pageFile task.path) = some dir →
      ∃ loc, LeadsTo s.outcome.tree dir loc
  failed : ∀ task ∈ s.tasks, task.stage = .finished →
    ∀ f, Crawl.render e.router task.path = .error f → f.isFatal = false
  written : ∀ task ∈ s.tasks, task.stage = .finished → ∀ octets, e.content task.path = some octets →
    ∃ place octets', FileAt s.outcome.tree (e.pageFile task.path) place octets' ∧
      (octets' = octets ∨ ∃ other ∈ plan, other ≠ task.path ∧
        ∃ o, FileAt s.outcome.tree (e.pageFile other) place o)
  files : ∀ place octets, s.outcome.tree.get? place = some (.file octets) →
    t.get? place = some (.file octets) ∨
      ∃ page ∈ plan, e.content page = some octets ∧
        FileAt s.outcome.tree (e.pageFile page) place octets

namespace Tracks

/-- Nothing has been written yet. -/
theorem start (e : Export) (plan : List String) (t : FileTree) :
    Tracks e plan t (start plan t) := by
  have hwaiting : ∀ task ∈ (Schedule.start plan t).tasks, task.stage = .waiting := by
    intro task htask
    obtain ⟨path, -, rfl⟩ := List.mem_map.mp htask
    rfl
  refine ⟨.start e plan t, .refl t, fun task htask page hstage => ?_, fun task htask hstage => ?_,
    fun task htask hstage => ?_, fun _ _ hget => Or.inl hget⟩
  all_goals
    rw [hwaiting task htask] at hstage
    cases hstage

section Set

variable (hcurrent : t.get? t.current = some .directory) (hnodup : plan.Nodup)
  (h : Tracks e plan t s) (htask : s.tasks[i]? = some task)

include h hcurrent in
/-- The current directory stays where it is. -/
theorem get?_current :
    s.outcome.tree.get? s.outcome.tree.current = some .directory :=
  h.develops.get?_current hcurrent

include hcurrent hnodup h htask

/-- **A move keeps track of the tree** if it changes files only at the place of its own page. -/
theorem set (htally : Tally e plan s') {stage : PageStage}
    (htasks : s'.tasks = s.tasks.set i ⟨task.path, stage⟩)
    (hdevelops : Develops s.outcome.tree s'.outcome.tree)
    (hkept : ∀ place old, s.outcome.tree.get? place = some (.file old) →
      s'.outcome.tree.get? place = some (.file old) ∨
        ∃ o, FileAt s'.outcome.tree (e.pageFile task.path) place o)
    (hnew : ∀ place octets, s'.outcome.tree.get? place = some (.file octets) →
      s.outcome.tree.get? place = some (.file octets) ∨
        e.content task.path = some octets ∧
          FileAt s'.outcome.tree (e.pageFile task.path) place octets)
    (hplaced : ∀ page, stage = .placed page →
      ∀ dir, FilePath.parent? (e.pageFile task.path) = some dir →
        ∃ loc, LeadsTo s'.outcome.tree dir loc)
    (hfailed : stage = .finished →
      ∀ f, Crawl.render e.router task.path = .error f → f.isFatal = false)
    (hwritten : stage = .finished → ∀ octets, e.content task.path = some octets →
      ∃ place, FileAt s'.outcome.tree (e.pageFile task.path) place octets) :
    Tracks e plan t s' := by
  have hhere := h.get?_current hcurrent
  have hhere' := hdevelops.get?_current hhere
  have hpath : task.path ∈ plan := by
    rw [← h.tally.paths]
    exact List.mem_map_of_mem (List.mem_of_getElem? htask)
  -- any other task is one of before, for another page
  have hothers : ∀ other ∈ s'.tasks, other = ⟨task.path, stage⟩ ∨
      other ∈ s.tasks ∧ other.path ≠ task.path := by
    intro other hother
    obtain ⟨j, hj⟩ := List.mem_iff_getElem?.mp (htasks ▸ hother)
    rw [List.getElem?_set] at hj
    split_ifs at hj with hij
    · exact Or.inl (Option.some.inj hj).symm
    · exact Or.inr ⟨List.mem_of_getElem? hj,
        path_ne_of_ne (h.tally.paths.symm ▸ hnodup) htask hj hij⟩
  refine ⟨htally, h.develops.trans hdevelops, fun other hother => ?_, fun other hother => ?_,
    fun other hother => ?_, fun place octets hget => ?_⟩
  · rcases hothers other hother with rfl | ⟨hmem, -⟩
    · exact hplaced
    · intro page hstage dir hparent
      obtain ⟨loc, hleads⟩ := h.placed other hmem page hstage dir hparent
      exact ⟨loc, hleads.of_keepsPlaces hdevelops.keepsPlaces⟩
  · rcases hothers other hother with rfl | ⟨hmem, -⟩
    · exact hfailed
    · exact h.failed other hmem
  · rcases hothers other hother with rfl | ⟨hmem, hne⟩
    · intro hstage octets hcontent
      obtain ⟨place, hfile⟩ := hwritten hstage octets hcontent
      exact ⟨place, octets, hfile, Or.inl rfl⟩
    · intro hstage octets hcontent
      obtain ⟨place, octets', hfile, hown⟩ := h.written other hmem hstage octets hcontent
      obtain ⟨octets'', hfile'⟩ := hdevelops.exists_fileAt hhere hfile
      refine ⟨place, octets'', hfile', ?_⟩
      rcases hkept place octets' (hfile.get? hhere) with hsame | hover
      · obtain rfl : octets'' = octets' :=
          Entry.file.inj (Option.some.inj ((hfile'.get? hhere').symm.trans hsame))
        refine hown.imp_right ?_
        rintro ⟨q, hq, hne', o, hqfile⟩
        exact ⟨q, hq, hne', hdevelops.exists_fileAt hhere hqfile⟩
      · exact Or.inr ⟨task.path, hpath, hne.symm, hover⟩
  · rcases hnew place octets hget with hold | ⟨hcontent, hfile⟩
    · refine (h.files place octets hold).imp_right ?_
      rintro ⟨q, hq, hcontent, hqfile⟩
      obtain ⟨octets', hfile'⟩ := hdevelops.exists_fileAt hhere hqfile
      obtain rfl : octets' = octets :=
        Entry.file.inj (Option.some.inj ((hfile'.get? hhere').symm.trans hget))
      exact ⟨q, hq, hcontent, hfile'⟩
    · exact Or.inr ⟨task.path, hpath, hcontent, hfile⟩

/-- A move that makes at most directories. -/
theorem grow (htally : Tally e plan s') {stage : PageStage}
    (htasks : s'.tasks = s.tasks.set i ⟨task.path, stage⟩)
    (hgrows : Grows s.outcome.tree s'.outcome.tree)
    (hplaced : ∀ page, stage = .placed page →
      ∀ dir, FilePath.parent? (e.pageFile task.path) = some dir →
        ∃ loc, LeadsTo s'.outcome.tree dir loc)
    (hfailed : stage = .finished →
      ∀ f, Crawl.render e.router task.path = .error f → f.isFatal = false)
    (hcontent : stage = .finished → e.content task.path = none) : Tracks e plan t s' := by
  refine h.set hcurrent hnodup htask htally htasks hgrows.develops
    (fun _ _ hget => Or.inl (hgrows.get? hget))
    (fun _ _ hget => Or.inl (hgrows.get?_of_ne_directory (by simp) hget)) hplaced hfailed ?_
  intro hstage octets hsome
  rw [hcontent hstage] at hsome
  cases hsome

theorem announce (hstage : task.stage = .waiting) : Tracks e plan t (s.announce i task.path) :=
  h.grow hcurrent hnodup htask (h.tally.announce htask hstage) rfl (.refl _) (by simp) (by simp)
    (by simp)

theorem render (hstage : task.stage = .announced)
    (hrunning : (s.render e i task.path).outcome.stopped = none) :
    Tracks e plan t (s.render e i task.path) := by
  have htally := h.tally.render htask hstage hrunning
  rw [Schedule.render] at hrunning htally ⊢
  cases hrender : Crawl.render e.router task.path with
  | ok page =>
    rw [hrender] at htally
    exact h.grow hcurrent hnodup htask htally rfl (.refl _) (by simp) (by simp) (by simp)
  | error f =>
    rw [hrender] at htally hrunning
    have htree := tree_finish s i task.path
      { s.outcome.progress with events := s.outcome.progress.events ++ e.pageRequests task.path }
      (.error f)
    refine h.grow hcurrent hnodup htask htally (tasks_finish ..) ?_ (by simp) (fun _ f' hf' => ?_)
      fun _ => by rw [Export.content, hrender]; rfl
    · rw [htree]
      exact .refl _
    · obtain rfl := Except.error.inj (hrender.symm.trans hf')
      by_contra hfatal
      rw [Bool.not_eq_false] at hfatal
      rw [stopped_finish_of_isFatal hfatal] at hrunning
      cases hrunning

theorem place {page : RenderedPage} (hstage : task.stage = .rendered page)
    (hrunning : (s.place e i task.path page).outcome.stopped = none) :
    Tracks e plan t (s.place e i task.path page) := by
  have hhere := h.get?_current hcurrent
  have htally := h.tally.place htask hstage hrunning
  rcases place_cases e s i task.path page with
    ⟨hparent, hplace⟩ | ⟨dir, tree, hparent, ⟨hdir, hplace⟩ | ⟨f, hdir, hplace⟩⟩
  · rw [hplace] at htally ⊢
    exact h.grow hcurrent hnodup htask htally rfl (.refl _) (by simp [hparent]) (by simp) (by simp)
  · have hgrows := Output.grows_of_ensureDir hdir
    have hleads := Output.exists_leadsTo_of_ensureDir hhere hdir
    rw [hplace] at htally ⊢
    refine h.grow hcurrent hnodup htask htally rfl hgrows (fun _ _ dir' hdir' => ?_) (by simp)
      (by simp)
    rwa [← Option.some.inj (hparent.symm.trans hdir')]
  · rw [hplace, stopped_finish_of_isFatal (Output.isFatal_of_ensureDir hdir)] at hrunning
    cases hrunning

theorem write {page : RenderedPage} (hstage : task.stage = .placed page)
    (hrunning : (s.write e i task.path page).outcome.stopped = none) :
    Tracks e plan t (s.write e i task.path page) := by
  have hhere := h.get?_current hcurrent
  have htally := h.tally.write htask hstage hrunning
  have hrender := h.tally.rendered task (List.mem_of_getElem? htask) page (Or.inr hstage)
  have hcontent := Export.content_of_render hrender
  rcases Output.writeFile_cases s.outcome.tree (e.pageFile task.path) (Export.pageContent page) with
    ⟨tree, hwrite, hresult⟩ | ⟨f, hresult⟩
  · obtain ⟨target, -, hputs, hfile⟩ := exists_of_write hhere hwrite
    rw [write_of_eq hresult] at htally ⊢
    have htree := tree_finish s i task.path { s.outcome.progress with tree := tree } (.ok ())
    refine h.set hcurrent hnodup htask htally (tasks_finish ..) ?_ ?_ ?_ (by simp) ?_ ?_
    · rw [htree]
      exact hputs.develops
    · intro place old hget
      rw [htree, hputs.get?_eq]
      split_ifs with hplace
      · exact Or.inr ⟨_, hplace ▸ hfile⟩
      · exact Or.inl hget
    · intro place octets hget
      rw [htree, hputs.get?_eq] at hget
      rw [htree]
      split_ifs at hget with hplace
      · obtain rfl := Entry.file.inj (Option.some.inj hget)
        exact Or.inr ⟨hcontent, hplace ▸ hfile⟩
      · exact Or.inl hget
    · intro _ f hf
      rw [hrender] at hf
      cases hf
    · intro _ octets hsome
      rw [htree, Option.some.inj (hsome.symm.trans hcontent)]
      exact ⟨_, hfile⟩
  · rw [write_of_eq hresult,
      stopped_finish_of_isFatal
        (Output.isFatal_of_writeFile (congrArg Prod.snd hresult))] at hrunning
    cases hrunning

end Set

/-- **The step**: a move that does not stop the run keeps track of the tree. -/
theorem advance (hcurrent : t.get? t.current = some .directory) (hnodup : plan.Nodup)
    (h : Tracks e plan t s) (hadvance : advance e i s = some s')
    (hrunning : s'.outcome.stopped = none) : Tracks e plan t s' := by
  obtain ⟨-, task, htask, hmove⟩ := advance_eq_some hadvance
  rcases hmove with
    ⟨hstage, -, hmove⟩ | ⟨hstage, hmove⟩ | ⟨page, hstage, hmove⟩ | ⟨page, hstage, hmove⟩
  · rw [hmove]
    exact h.announce hcurrent hnodup htask hstage
  · rw [hmove] at hrunning ⊢
    exact h.render hcurrent hnodup htask hstage hrunning
  · rw [hmove] at hrunning ⊢
    exact h.place hcurrent hnodup htask hstage hrunning
  · rw [hmove] at hrunning ⊢
    exact h.write hcurrent hnodup htask hstage hrunning

/-- **The run**: every schedule that is reached keeps track of the tree, unless the run was
stopped. -/
theorem reaches (hcurrent : t.get? t.current = some .directory) (hnodup : plan.Nodup)
    (h : Tracks e plan t s) (hreaches : Reaches e s s') (hrunning : s'.outcome.stopped = none) :
    Tracks e plan t s' := by
  induction hreaches with
  | refl s => exact h
  | step i hadvance hrest ih =>
    exact ih (h.advance hcurrent hnodup hadvance (stopped_eq_none_of_reaches hrest hrunning))
      hrunning

end Tracks

end Schedule

end SiteSnapshot
