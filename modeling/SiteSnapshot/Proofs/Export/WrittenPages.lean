import SiteSnapshot.Proofs.Crawl.RedirectChain
import SiteSnapshot.Proofs.Export.PageReport

/-!
# What a run writes

A run of pages with separate output paths to a fresh destination leaves the files of the pages that
were rendered there, with the directories above these, and nothing else
(`Holds.get?_eq_file_iff`, `Holds.get?_eq_directory_iff`). What a file holds is said by the end of
the page's chain of redirects (`Export.Yields`).

`run_writes_and_reports` says this together with what the run reports.
-/

namespace SiteSnapshot

open FileTree Catalog

namespace Export

variable {e : Export} {units : List String} {page : String} {octets : Bytes}

/-! ### What is written -/

/-- A text with a needle in it. -/
theorem hasInfix_iff {needle text : List Char} :
    hasInfix needle text = true ↔ needle <:+: text := by
  induction text with
  | nil => simp [hasInfix]
  | cons c rest ih =>
    rw [hasInfix, Bool.or_eq_true, ih, List.isPrefixOf_iff_prefix, List.infix_cons_iff]

/-- The octets of the file of a page: what the end of its chain of redirects answers, relocated to
the place of the page if it is HTML. -/
def Yields (e : Export) (page : String) (octets : Bytes) : Prop :=
  ∃ k ≤ 5, ∃ path r, Crawl.Chain e.router page k path ∧ e.router "GET" path = .ok r ∧
    r.status = 200 ∧
    octets =
      if r.contentType.getD "" = "" ∨ "text/html".toList <:+: (r.contentType.getD "").toList then
        Page.transform r.body page
      else r.body

theorem pageContent_pageOf (page path : String) (r : Response) :
    pageContent (Crawl.pageOf page path r) =
      if r.contentType.getD "" = "" ∨ "text/html".toList <:+: (r.contentType.getD "").toList then
        Page.transform r.body page
      else r.body := by
  rw [pageContent]
  refine if_congr ?_ rfl rfl
  rw [RenderedPage.isHtml, Bool.or_eq_true, hasInfix_iff, String.isEmpty_iff]
  rfl

theorem content_eq_some_iff : e.content page = some octets ↔ e.Yields page octets := by
  have hcontent : e.content page = some octets ↔
      ∃ rendered, Crawl.render e.router page = .ok rendered ∧ pageContent rendered = octets := by
    rw [content]
    cases Crawl.render e.router page <;> simp [Except.toOption]
  rw [hcontent, Yields]
  constructor
  · rintro ⟨rendered, hrender, rfl⟩
    rw [Crawl.render, Crawl.visit, Crawl.result_follow] at hrender
    obtain ⟨k, hk, path, hchain, ⟨hr, hgood⟩ | -⟩ := hrender
    exact ⟨k, hk, path, _, hchain, hr, hgood, pageContent_pageOf page path _⟩
  · rintro ⟨k, hk, path, r, hchain, hr, hgood, rfl⟩
    refine ⟨Crawl.pageOf page path r, ?_, pageContent_pageOf page path r⟩
    rw [Crawl.render, Crawl.visit, Crawl.result_follow]
    exact ⟨k, hk, path, hchain, .page hr hgood⟩

/-- A page has content exactly if no failure of it is reported. -/
theorem exists_yields_iff : (∃ octets, e.Yields page octets) ↔ e.failure? page = none := by
  simp only [← content_eq_some_iff]
  rw [content, failure?]
  cases Crawl.render e.router page <;> simp [Except.toOption]

/-! ### The output directory -/

/-- The file of a page is at or below its segments. -/
theorem segments_prefix_namesOf_mapPath (path : String) :
    UrlPath.segments path <+: namesOf (mapPath path) := by
  rw [mapPath]
  have hnames : ∀ s ∈ UrlPath.segments path, IsName s := by
    rw [segments_eq_namesOf]
    exact fun _ => isName_of_mem_namesOf
  split_ifs with hnil hext
  · rw [List.isEmpty_iff.mp hnil]
    exact List.nil_prefix
  · rw [namesOf_intercalate hnames]
  · rw [FilePath.namesOf_join (by decide), namesOf_intercalate hnames]
    exact List.prefix_append _ _

/-- Pages whose files have no steps in their paths were asked for by paths without steps. -/
theorem plainPaths_of_plain_output
    (h : ∀ page ∈ e.plan units, ∀ s ∈ namesOf (mapPath page), IsPlain s) :
    PlainPaths e.config.staticPages ∧ PlainPaths units := by
  have hplain : PlainPaths (e.config.staticPages ++ units) := by
    intro path hpath s hs
    have hpage : UrlPath.normalize path ∈ e.plan units := by
      rw [plan, planPages, mem_firsts]
      exact List.mem_cons_of_mem _ (List.mem_map_of_mem hpath)
    refine h _ hpage s ((segments_prefix_namesOf_mapPath _).subset ?_)
    rwa [segments_eq_namesOf, namesOf_normalize, ← segments_eq_namesOf]
  exact ⟨fun path hpath => hplain path (List.mem_append_left _ hpath),
    fun path hpath => hplain path (List.mem_append_right _ hpath)⟩

/-- Exporting the pages in their order ends with a sound schedule, in which every task is finished
unless the run is stopped. -/
theorem exists_sound_pagePhase {d : Destination} {t : FileTree}
    (hserves : e.Serves d (e.plan units)) (hfresh : d.Fresh t) :
    ∃ s, Schedule.Sound e d (e.plan units) t s ∧ s.outcome = e.pagePhase units t ∧
      (s.outcome.stopped = none → s.tasks = Schedule.lined (e.plan units) []) := by
  have hlined : (Schedule.start (e.plan units) t).tasks = Schedule.lined [] (e.plan units) := rfl
  obtain ⟨s, hreaches, houtcome, hfinished⟩ :=
    Schedule.exists_reaches_exportPages (e := e) hlined rfl rfl
  have hlength : (Schedule.start (e.plan units) t).tasks.length = (e.plan units).length :=
    List.length_map _
  rw [hlength] at houtcome
  exact ⟨s, (Schedule.Sound.start e d _ t).reaches hserves hfresh (nodup_planPages _ _) hreaches,
    houtcome, hfinished⟩

/-- **The tree after the pages** holds what they write, and the file of each page that can be
rendered. -/
theorem holds_pagePhase {d : Destination} {t : FileTree} (hserves : e.Serves d (e.plan units))
    (hfresh : d.Fresh t) (hrunning : (e.pagePhase units t).stopped = none) :
    Holds d (e.plan units) e.content t (e.pagePhase units t).tree ∧
      ∀ page ∈ e.plan units, ∀ octets, e.content page = some octets →
        (e.pagePhase units t).tree.get? (d.root ++ d.file page) = some (.file octets) := by
  obtain ⟨s, hsound, hrun, hfinished⟩ := exists_sound_pagePhase hserves hfresh
  rw [← hrun] at hrunning ⊢
  refine ⟨hsound.holds, fun page hpage octets hcontent => ?_⟩
  have htask : ⟨page, .finished⟩ ∈ s.tasks := by
    rw [hfinished hrunning, Schedule.lined]
    exact List.mem_append_left _ (List.mem_map_of_mem hpage)
  -- a page whose file was not written would have stopped the run
  rcases hsound.stages _ htask octets hcontent with ⟨-, hget⟩ | ⟨f, hstopped, -⟩
  · exact hget
  · rw [hrunning] at hstopped
    cases hstopped

/-- A run of pages without faults in their paths is not stopped, unless the site has a failure that
stops it. -/
theorem stopped_pagePhase {d : Destination} {t : FileTree} (hserves : e.Serves d (e.plan units))
    (hfresh : d.Fresh t) (hpaths : ∀ page ∈ e.plan units, d.fault? page = none)
    (hsite : ∀ path f, e.router "GET" path = .error f → f.isFatal = false) :
    (e.pagePhase units t).stopped = none := by
  obtain ⟨s, hsound, hrun, -⟩ := exists_sound_pagePhase hserves hfresh
  rw [Option.eq_none_iff_forall_ne_some]
  intro f hf
  obtain ⟨page, hpage, hfails⟩ := hsound.stopped f (hrun ▸ hf)
  have hfatal : f.isFatal = true := isFatal_of_exportPages hf
  cases hrender : Crawl.render e.router page with
  | ok rendered =>
    rw [exportPage_snd hserves hfresh hpage (by rw [content_of_render hrender]; rfl),
      hpaths page hpage] at hfails
    cases hfails
  | error f' =>
    simp only [exportPage, hrender, Except.error.injEq] at hfails
    rw [Crawl.render, Crawl.visit, Crawl.result_follow] at hrender
    obtain ⟨k, -, path, -, - | hstops⟩ := hrender
    -- of what can end a chain, only the failure of the site itself could be fatal
    cases hstops with
    | unanswered hfailed =>
      rw [← hfails, hsite path f' hfailed] at hfatal
      cases hfatal
    | offSite => cases hfails ▸ hfatal
    | tooMany => cases hfails ▸ hfatal
    | status => cases hfails ▸ hfatal

end Export

/-- Nothing but the directory itself is there before the first page. -/
theorem Destination.Fresh.get?_or {d : Destination} {t : FileTree} (h : d.Fresh t)
    (more : List String) :
    t.get? (d.root ++ (d.names ++ more)) = none ∨
      more = [] ∧ t.get? (d.root ++ (d.names ++ more)) = some .directory := by
  by_cases hmore : more = []
  · subst hmore
    rw [List.append_nil]
    by_cases hnames : d.names = []
    · rw [hnames, List.append_nil]
      exact Or.inr ⟨rfl, h.leads.isDirectory⟩
    · exact (h.clear d.names hnames List.prefix_rfl).imp_right fun hdir => ⟨rfl, hdir⟩
  · exact Or.inl (h.free more hmore)

namespace Holds

variable {d : Destination} {pages : List String} {content : String → Option Bytes}
  {t t' : FileTree} {more : List String} {octets : Bytes}

section Written

variable (h : Holds d pages content t t') (hfresh : d.Fresh t)
  (hfiles : ∀ page ∈ pages, ∀ octets, content page = some octets →
    t'.get? (d.root ++ d.file page) = some (.file octets))

include h hfresh

/-- No link is written. -/
theorem get?_ne_link (target : String) :
    t'.get? (d.root ++ (d.names ++ more)) ≠ some (.link target) := by
  intro hget
  rcases h.get?_or (d.root ++ (d.names ++ more)) with
    hsame | ⟨-, -, -, hdir, -⟩ | ⟨-, -, octets, -, -, hfile⟩
  · rw [hsame] at hget
    rcases hfresh.get?_or more with hnone | ⟨-, hdir⟩
    · rw [hnone] at hget
      cases hget
    · rw [hdir] at hget
      cases hget
  · rw [hget] at hdir
    cases hdir
  · rw [hget] at hfile
    cases hfile

include hfiles

/-- **The files** are those of the pages with content. -/
theorem get?_eq_file_iff :
    t'.get? (d.root ++ (d.names ++ more)) = some (.file octets) ↔
      ∃ page ∈ pages, pageNames (UrlPath.segments page) = more ∧ content page = some octets := by
  constructor
  · intro hget
    rcases h.get?_or (d.root ++ (d.names ++ more)) with
      hsame | ⟨-, -, -, hdir, -⟩ | ⟨page, hpage, octets', hcontent, hplace, hfile⟩
    · rw [hsame] at hget
      rcases hfresh.get?_or more with hnone | ⟨-, hdir⟩
      · rw [hnone] at hget
        cases hget
      · rw [hdir] at hget
        cases hget
    · rw [hget] at hdir
      cases hdir
    · rw [hget] at hfile
      obtain rfl := Entry.file.inj (Option.some.inj hfile)
      exact ⟨page, hpage, (List.append_cancel_left (List.append_cancel_left hplace)).symm, hcontent⟩
  · rintro ⟨page, hpage, rfl, hcontent⟩
    exact hfiles page hpage octets hcontent

/-- **The directories** are those above the files. -/
theorem get?_eq_directory_iff (hmore : more ≠ []) :
    t'.get? (d.root ++ (d.names ++ more)) = some .directory ↔
      ∃ page ∈ pages, (content page).isSome ∧ more <+: pageNames (UrlPath.segments page) ∧
        more ≠ pageNames (UrlPath.segments page) := by
  constructor
  · intro hget
    rcases h.get?_or (d.root ++ (d.names ++ more)) with
      hsame | ⟨page, hpage, hcontent, -, above, rest, hfile, hrest, hplace⟩ |
        ⟨-, -, octets, -, -, hfile⟩
    · rw [hsame, hfresh.free more hmore] at hget
      cases hget
    · obtain rfl := List.append_cancel_left hplace
      rw [Destination.file, List.append_assoc] at hfile
      have hnames := List.append_cancel_left hfile
      refine ⟨page, hpage, hcontent, hnames ▸ List.prefix_append more rest, ?_⟩
      rw [hnames]
      exact fun heq => hrest (List.append_right_eq_self.mp heq.symm)
    · rw [hget] at hfile
      cases hfile
  · rintro ⟨page, hpage, hcontent, ⟨rest, hrest⟩, hne⟩
    obtain ⟨octets, hcontent⟩ := Option.isSome_iff_exists.mp hcontent
    have hget := hfiles page hpage octets hcontent
    have hplace : d.root ++ d.file page = d.root ++ (d.names ++ more) ++ rest := by
      rw [Destination.file, ← hrest, List.append_assoc, List.append_assoc]
    rw [hplace] at hget
    refine get?_of_get?_append hget ?_
    rintro rfl
    exact hne (by simpa using hrest)

end Written

end Holds

/-- **What a run writes and reports.** A run to a fresh destination, of pages whose output paths
have no steps and are separate, either meets a file that cannot be written, or it does the
following. Every planned page is counted or listed, and the listed ones are those that cannot be
rendered, in the order of the plan and with their failures. After the pages the destination holds
the files of exactly the other pages, each with what the end of its chain of redirects answers,
the directories above these files, and nothing else. -/
theorem run_writes_and_reports {e : Export} {units : List String}
    (hplain : ∀ page ∈ e.plan units, ∀ s ∈ namesOf (mapPath page), IsPlain s)
    (hseparate : Separate (e.plan units)) {d : Destination} {t : FileTree} (hout : d.IsAt e.out)
    (hfresh : d.Fresh t) {report : Report} (hrun : (e.run units t).result = .ok report) :
    report.pagesWritten + report.failures.length = (e.plan units).length ∧
      report.failures = (e.plan units).filterMap e.failure? ∧
      (∀ page, (∃ octets, e.Yields page octets) ↔ e.failure? page = none) ∧
      (∀ more octets,
        (e.pagePhase units t).tree.get? (d.root ++ (d.names ++ more)) = some (.file octets) ↔
          ∃ page ∈ e.plan units, namesOf (mapPath page) = more ∧ e.Yields page octets) ∧
      (∀ more, more ≠ [] →
        ((e.pagePhase units t).tree.get? (d.root ++ (d.names ++ more)) = some .directory ↔
          ∃ page ∈ e.plan units, (∃ octets, e.Yields page octets) ∧
            more <+: namesOf (mapPath page) ∧ more ≠ namesOf (mapPath page))) ∧
      ∀ more target,
        (e.pagePhase units t).tree.get? (d.root ++ (d.names ++ more)) ≠ some (.link target) := by
  obtain ⟨hfixed, hunits⟩ := Export.plainPaths_of_plain_output hplain
  have hserves := Export.serves_plan hfixed hunits hout hseparate
  obtain ⟨hrunning, hwritten, hfailures⟩ := Export.result_run hrun
  obtain ⟨hlisted, hcounted⟩ := Export.report_exportPages hrunning
  obtain ⟨hholds, hfiles⟩ := Export.holds_pagePhase hserves hfresh hrunning
  have hnames : ∀ page ∈ e.plan units,
      namesOf (mapPath page) = pageNames (UrlPath.segments page) :=
    fun page hpage => (mapPath_of_mem_planPages hfixed hunits hpage).2
  have hlist : report.failures = (e.plan units).filterMap e.failure? := hfailures.trans hlisted
  refine ⟨?_, hlist, fun _ => Export.exists_yields_iff, fun more octets => ?_, fun more hmore => ?_,
    fun more target => hholds.get?_ne_link hfresh target⟩
  · rw [hwritten, hlist]
    exact hcounted.trans (Nat.zero_add _)
  · rw [hholds.get?_eq_file_iff hfresh hfiles]
    refine exists_congr fun page => and_congr_right fun hpage => ?_
    rw [hnames page hpage, Export.content_eq_some_iff]
  · rw [hholds.get?_eq_directory_iff hfresh hfiles hmore]
    refine exists_congr fun page => and_congr_right fun hpage => ?_
    rw [hnames page hpage, Option.isSome_iff_exists]
    simp only [Export.content_eq_some_iff]

/-- A site with a home page, a text that another page redirects to, and a page that is broken. -/
def smallSite : Export where
  router := RouteTable.router
    ⟨[("/", .page "<p>home</p>"), ("/broken", .ofStatus 500),
      ("/old", { status := 301, location := some "/robots.txt" }),
      ("/robots.txt", { contentType := some "text/plain", body := Utf8.encode "Disallow:" })]⟩
  config := { staticPages := ["/broken"], favicon := none }
  out := "site"

/-- The directory `site` in the current one. -/
def siteDirectory : Destination where
  base := ""
  root := []
  names := ["site"]
  plain := by decide

theorem siteDirectory_fresh : siteDirectory.Fresh .empty := by
  have hnothing : ∀ loc, loc ≠ [] → FileTree.empty.get? loc = none := by
    intro loc hloc
    simp [FileTree.get?, Entry.find, FileTree.empty, hloc]
  refine ⟨⟨?_, rfl⟩, fun above hne _ => Or.inl (hnothing above hne), fun more _ => ?_⟩
  · rw [siteDirectory, namesOf_empty, follow]
    rfl
  · exact hnothing _ (by simp [siteDirectory])

/-- The run of a small site: the broken page is listed and not written, and the page that redirects
has the text of the other one in its own place. -/
theorem run_writes_and_reports_small_site :
    ∃ report, (smallSite.run ["old", "robots.txt"] .empty).result = .ok report ∧
      report.pagesWritten = 3 ∧
      report.failures = [⟨"/broken", .unexpectedStatus "/broken" 500⟩] ∧
      (smallSite.pagePhase ["old", "robots.txt"] .empty).tree.get? ["site", "old", "index.html"] =
        some (.file (Utf8.encode "Disallow:")) := by
  have hplan : smallSite.plan ["old", "robots.txt"] = ["/", "/broken", "/old", "/robots.txt"] := by
    decide
  have hplain : ∀ page ∈ smallSite.plan ["old", "robots.txt"],
      ∀ s ∈ namesOf (mapPath page), IsPlain s := by decide
  have hseparate : Separate (smallSite.plan ["old", "robots.txt"]) := by decide
  have hout : siteDirectory.IsAt smallSite.out := Or.inl rfl
  have hserves : smallSite.Serves siteDirectory (smallSite.plan ["old", "robots.txt"]) :=
    Export.serves_plan (by decide) (by decide) hout hseparate
  have hpages : (smallSite.pagePhase ["old", "robots.txt"] .empty).stopped = none := by
    refine Export.stopped_pagePhase hserves siteDirectory_fresh ?_ fun path f hf => by cases hf
    rw [hplan]
    decide +kernel
  have hrun : (smallSite.run ["old", "robots.txt"] .empty).result =
      .ok (smallSite.pagePhase ["old", "robots.txt"] .empty).progress.report := by
    have hphase := hpages
    rw [Export.pagePhase] at hphase
    rw [Outcome.result, Export.run]
    simp only [Export.andThen, hphase]
    rfl
  obtain ⟨hcount, hfailures, -, hfiles, -⟩ :=
    run_writes_and_reports hplain hseparate hout siteDirectory_fresh hrun
  have hlisted : ["/", "/broken", "/old", "/robots.txt"].filterMap smallSite.failure? =
      [⟨"/broken", .unexpectedStatus "/broken" 500⟩] := by
    decide +kernel
  have hyields : smallSite.Yields "/old" (Utf8.encode "Disallow:") :=
    Export.content_eq_some_iff.mp (by decide +kernel)
  rw [hplan, hlisted] at hfailures
  rw [hplan, hfailures, List.length_singleton] at hcount
  refine ⟨_, hrun, Nat.add_right_cancel hcount, hfailures, ?_⟩
  exact (hfiles ["old", "index.html"] _).mpr ⟨"/old", by decide, by decide, hyields⟩

end SiteSnapshot
