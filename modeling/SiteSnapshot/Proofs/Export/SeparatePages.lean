import SiteSnapshot.Proofs.Export.Sequential

/-!
# Separate pages keep their files

A run of separate pages to a fresh destination leaves each page that was rendered with its own
bytes in its own file, and if it is stopped, then by a page that fails on its own as well. This
holds at every moment of the run and however its tasks take turns (`pages_kept`).

Not all planned pages are separate, see `not_separate_planPages`.
-/

namespace SiteSnapshot

open FileTree Catalog

/-- A page whose own bytes are in its own file, if it can be rendered. -/
def Export.Kept (e : Export) (t : FileTree) (page : String) : Prop :=
  ∀ rendered, Crawl.render e.router page = .ok rendered →
    t.read (e.pageFile page) = .ok (Export.pageContent rendered)

namespace Schedule

variable {e : Export} {d : Destination} {pages : List String} {t : FileTree} {s : Schedule}

/-- A finished page in a sound schedule. -/
theorem Sound.kept (h : Sound e d pages t s) (hserves : e.Serves d pages) (hfresh : d.Fresh t)
    {task : PageTask} (htask : task ∈ s.tasks) (hfinished : task.stage = .finished) :
    e.Kept s.outcome.tree task.path ∨
      ∃ f, s.outcome.stopped = some f ∧ (e.exportPage t task.path).2 = .error f := by
  have hpath := h.path_mem htask
  cases hrender : Crawl.render e.router task.path with
  | error f =>
    refine Or.inl fun rendered hok => ?_
    rw [hrender] at hok
    cases hok
  | ok rendered =>
    have hstage := h.stages task htask
    rw [hfinished] at hstage
    rcases hstage _ (Export.content_of_render hrender) with ⟨hfault, hget⟩ | hstopped
    · refine Or.inl fun rendered' hok => ?_
      rw [Destination.fault?, Output.fault?, Option.or_eq_none_iff,
        Option.map_eq_none_iff] at hfault
      rw [← d.dir_append_name] at hget
      rw [hrender] at hok
      rw [← Except.ok.inj hok, hserves.pageFile_eq _ hpath]
      exact read_below (h.holds.leads hfresh) (hserves.plain hpath) hfault.2 hget
    · exact Or.inr hstopped

end Schedule

/-- **Separate planned pages keep their files**, and pages are separate exactly if none has segments
that start with the names of another page's file. Whatever the order in which the tasks of a run to
a fresh destination take turns, a finished page has its own bytes in its own file unless it stopped
the run, and only a page that fails on its own stops a run. In particular this holds for one page
after the other. -/
theorem pages_kept {e : Export} {units : List String} (hfixed : PlainPaths e.config.staticPages)
    (hunits : PlainPaths units) :
    (Separate (e.plan units) ↔ ∀ p ∈ e.plan units, ∀ q ∈ e.plan units, p ≠ q →
        ¬pageNames (UrlPath.segments p) <+: UrlPath.segments q) ∧
      (Separate (e.plan units) → ∀ (d : Destination) (t : FileTree), d.IsAt e.out → d.Fresh t →
        (∀ s, Schedule.Reaches e (Schedule.start (e.plan units) t) s →
          (∀ task ∈ s.tasks, task.stage = .finished →
            e.Kept s.outcome.tree task.path ∨
              ∃ f, s.outcome.stopped = some f ∧ (e.exportPage t task.path).2 = .error f) ∧
          ∀ f, s.outcome.stopped = some f →
            ∃ page ∈ e.plan units, (e.exportPage t page).2 = .error f) ∧
        ∀ o, o = e.exportPages (e.plan units).length 1 (e.plan units)
            (Export.announce (.start (e.plan units).length) { tree := t }) →
          (o.stopped = none → ∀ page ∈ e.plan units, e.Kept o.tree page) ∧
          ∀ f, o.stopped = some f →
            ∃ page ∈ e.plan units, (e.exportPage t page).2 = .error f) := by
  refine ⟨separate_planPages_iff hfixed hunits, fun hseparate d t hout hfresh => ?_⟩
  have hserves := Export.serves_plan hfixed hunits hout hseparate
  have hsound : ∀ s, Schedule.Reaches e (Schedule.start (e.plan units) t) s →
      Schedule.Sound e d (e.plan units) t s := fun s hreaches =>
    (Schedule.Sound.start e d _ t).reaches hserves hfresh (nodup_planPages _ _) hreaches
  refine ⟨fun s hreaches => ⟨fun task htask hfinished =>
    (hsound s hreaches).kept hserves hfresh htask hfinished, (hsound s hreaches).stopped⟩, ?_⟩
  rintro o rfl
  -- one page after the other is one of the ways to take turns
  have hlined : (Schedule.start (e.plan units) t).tasks = Schedule.lined [] (e.plan units) := rfl
  obtain ⟨s, hreaches, houtcome, hfinished⟩ :=
    Schedule.exists_reaches_exportPages (e := e) hlined rfl rfl
  have hlength : (Schedule.start (e.plan units) t).tasks.length = (e.plan units).length :=
    List.length_map _
  rw [hlength] at houtcome
  have hrun : s.outcome = e.exportPages (e.plan units).length 1 (e.plan units)
      (Export.announce (.start (e.plan units).length) { tree := t }) := houtcome
  rw [← hrun]
  refine ⟨fun hrunning page hpage => ?_, (hsound s hreaches).stopped⟩
  have htask : ⟨page, .finished⟩ ∈ s.tasks := by
    rw [hfinished hrunning, Schedule.lined, List.nil_append]
    exact List.mem_append_left _ (List.mem_map_of_mem hpage)
  rcases (hsound s hreaches).kept hserves hfresh htask rfl with hkept | ⟨f, hstopped, -⟩
  · exact hkept
  · rw [hrunning] at hstopped
    cases hstopped

/-- A site that answers every request with the same text, exported to a directory that is yet to
be made. -/
def oneText : Export where
  router := fun _ _ => .ok { contentType := some "text/plain", body := Utf8.encode "here" }
  config := { staticPages := ["/about"] }
  out := "out"

/-- The directory `out` in the current one. -/
def outDirectory : Destination where
  base := ""
  root := []
  names := ["out"]
  plain := by decide

/-- A nested unit next to a fixed page: the run is not stopped, and every page has its bytes. -/
theorem pages_kept_in_new_directory :
    (oneText.exportPages 3 1 ["/", "/about", "/net/http"]
        (Export.announce (.start 3) { tree := .empty })).stopped = none ∧
      ∀ page ∈ ["/", "/about", "/net/http"],
        oneText.Kept (oneText.exportPages 3 1 ["/", "/about", "/net/http"]
          (Export.announce (.start 3) { tree := .empty })).tree page := by
  have hnothing : ∀ loc, loc ≠ [] → FileTree.empty.get? loc = none := by
    intro loc hloc
    simp [FileTree.get?, Entry.find, FileTree.empty, hloc]
  have hfresh : outDirectory.Fresh .empty := by
    refine ⟨⟨?_, rfl⟩, fun above hne _ => Or.inl (hnothing above hne), fun more _ => ?_⟩
    · rw [outDirectory, namesOf_empty, follow]
      rfl
    · exact hnothing _ (by simp [outDirectory])
  have hplan : oneText.plan ["net/http"] = ["/", "/about", "/net/http"] := by decide
  have hout : outDirectory.IsAt oneText.out := Or.inl rfl
  have hfixed : PlainPaths oneText.config.staticPages := by decide
  have hunits : PlainPaths ["net/http"] := by decide
  have hseparate : Separate (oneText.plan ["net/http"]) := by decide
  have hserves : oneText.Serves outDirectory (oneText.plan ["net/http"]) :=
    Export.serves_plan hfixed hunits hout hseparate
  have hkept := (pages_kept hfixed hunits).2 hseparate outDirectory .empty hout hfresh
  rw [hplan] at hserves hkept
  obtain ⟨hpages, hstops⟩ := hkept.2 _ rfl
  have hstopped : (oneText.exportPages 3 1 ["/", "/about", "/net/http"]
      (Export.announce (.start 3) { tree := .empty })).stopped = none := by
    rw [Option.eq_none_iff_forall_ne_some]
    intro f hf
    -- no page fails on its own
    obtain ⟨page, hpage, hfails⟩ := hstops f hf
    have hfault : ∀ page ∈ ["/", "/about", "/net/http"], outDirectory.fault? page = none := by
      decide +kernel
    rw [Export.exportPage_snd hserves hfresh hpage rfl, hfault page hpage] at hfails
    cases hfails
  exact ⟨hstopped, hpages hstopped⟩

/-- Planned pages can have one file, and one can have its file where a directory above the file of
another has to be. -/
theorem not_separate_planPages :
    ¬∀ fixedPages units, PlainPaths fixedPages → PlainPaths units →
      Separate (planPages fixedPages units) := by
  intro h
  exact absurd (h [] ["a", "a/index.html"] (by decide) (by decide)) (by decide)

end SiteSnapshot
