import SiteSnapshot.Proofs.Cli.Checks
import SiteSnapshot.Proofs.Export.Stops

/-!
# Listing what an export does

`paths` is a dry run of `export`: it goes through the same checks of the catalog and plans the same
pages, and then has no effect. So the two commands fail alike in the checks of the catalog
(`runPaths_error_iff`), and what `paths` lists is what an export with these arguments attempts
(`paths_foretell_export`), page after page, unless a file cannot be read or written. What a run has
attempted is told from its events (`Attempts`).
-/

namespace SiteSnapshot

namespace Cli

/-- A listing with the arguments of an export. -/
def ExportArgs.listed (args : ExportArgs) (json : Bool) : PathsArgs where
  catalog := args.catalog
  config := args.config
  json := json

/-- True for an error of the checks of the catalog. -/
def RunError.IsOfCatalog : RunError → Prop
  | .config .. | .entriesFile .. | .manifest .. | .entriesWithoutSource => True
  | .baseUrl .. | .missingBundle .. | .stopped .. => False

variable {web : Web} {args : ExportArgs} {json : Bool} {t : FileTree} {e : RunError}

/-! ### Errors of the catalog -/

/-- A check of the catalog finds errors of the catalog, and no other check does. -/
theorem Check.isOfCatalog_iff {c : Check} (h : c.error? args t = some e) :
    e.IsOfCatalog ↔ c ∈ ofCatalog := by
  cases c with
  | config | entriesFile | manifest =>
    simp only [error?, Option.bind_eq_some_iff, Option.map_eq_some_iff] at h
    obtain ⟨path, -, cause, -, rfl⟩ := h
    exact iff_of_true trivial (by decide)
  | entriesWithoutSource =>
    obtain ⟨-, h⟩ := Option.ite_none_right_eq_some.mp h
    obtain rfl := Option.some.inj h
    exact iff_of_true trivial (by decide)
  | baseUrl =>
    obtain ⟨cause, -, rfl⟩ := Option.map_eq_some_iff.mp h
    exact iff_of_false id (by decide)
  | staticDirectory | thirdPartyDirectory =>
    obtain ⟨dir, -, h⟩ := Option.bind_eq_some_iff.mp h
    obtain ⟨-, h⟩ := Option.ite_none_left_eq_some.mp h
    obtain rfl := Option.some.inj h
    exact iff_of_false id (by decide)

/-- The first error of the checks of the catalog is the first error of all checks, if that is one of
the catalog. -/
theorem Check.firstError?_ofCatalog : firstError? args t ofCatalog = some e ↔
    e.IsOfCatalog ∧ firstError? args t all = some e := by
  have hmem {checks : List Check} (h : firstError? args t checks = some e) :
      ∃ c ∈ checks, c.error? args t = some e := List.exists_of_findSome?_eq_some h
  rw [all, firstError?_append, Option.or_eq_some_iff]
  constructor
  · intro h
    obtain ⟨c, hc, he⟩ := hmem h
    exact ⟨(isOfCatalog_iff he).mpr hc, .inl h⟩
  · rintro ⟨hcatalog, h | ⟨-, h⟩⟩
    · exact h
    · obtain ⟨c, hc, he⟩ := hmem h
      have hlate : ∀ c ∈ [baseUrl, staticDirectory, thirdPartyDirectory], c ∉ ofCatalog := by
        decide
      exact absurd ((isOfCatalog_iff he).mp hcatalog) (hlate c hc)

theorem failsWith_listing :
    FailsWith (listing (args.listed json) t) (Check.firstError? args t Check.ofCatalog) := by
  rw [listing, Check.ofCatalog, Check.firstError?_cons,
    ← Option.or_none (o := Check.firstError? ..)]
  exact failsWith_loadConfig.bind fun config _ => failsWith_catalogUnits.bind fun units _ => .ok _

/-! ### Exports that were prepared -/

section Prepared

variable {export' : Export} {units : List String} (h : prepare web args t = .ok (export', units))

include h

/-- What an export that was prepared comes to. -/
theorem runExport_of_prepare :
    runExport web args t =
      { output :=
          match (export'.run units t).result with
          | .ok report => .ok (printReport args report, report.isOk)
          | .error cause => .error (.stopped args.out cause)
        tree := (export'.run units t).tree
        events := (export'.run units t).events } := by
  cases hresult : (export'.run units t).result <;> simp only [runExport, h, hresult]

/-- An export that is not stopped has a report. -/
theorem exists_output_of_runExport (hrunning : (export'.run units t).stopped = none) :
    ∃ text ok, (runExport web args t).output = .ok (text, ok) := by
  rw [runExport_of_prepare h, SiteSnapshot.Outcome.result, hrunning]
  exact ⟨_, _, rfl⟩

/-- Only a failure to read or write a file stops it. -/
theorem stopped_of_runExport (he : (runExport web args t).output = .error e) :
    ∃ path cause, e = .stopped args.out (.file path cause) := by
  rw [runExport_of_prepare h] at he
  cases hresult : (export'.run units t).result with
  | ok report => simp [hresult] at he
  | error f =>
    simp only [hresult, Except.error.injEq] at he
    obtain ⟨path, cause, rfl⟩ := Failure.exists_eq_file
      (Export.isFatal_of_run (Export.result_eq_error_iff.mp hresult))
    exact ⟨path, cause, he.symm⟩

/-- **What is reported**: every page counts as written or is listed as failed, and the exit code
tells whether any is. -/
theorem report_of_runExport {text : String} {ok : Bool}
    (hok : (runExport web args t).output = .ok (text, ok)) :
    ∃ report, text = printReport args report ∧
      report.failures = (export'.plan units).filterMap export'.failure? ∧
      report.pagesWritten + report.failures.length = (export'.plan units).length ∧
      (runExport web args t).exitCode = if report.failures = [] then 0 else 1 := by
  have hcode : (runExport web args t).exitCode = if ok then 0 else 1 := by
    rw [Outcome.exitCode, hok]
    cases ok <;> rfl
  rw [hcode]
  rw [runExport_of_prepare h] at hok
  cases hresult : (export'.run units t).result with
  | error f => simp [hresult] at hok
  | ok report =>
    simp only [hresult, Except.ok.injEq, Prod.mk.injEq] at hok
    obtain ⟨rfl, rfl⟩ := hok
    obtain ⟨hstopped, hwritten, hfailures⟩ := Export.result_run hresult
    obtain ⟨hlisted, hcounted⟩ := Export.report_exportPages hstopped
    have hlist : report.failures = (export'.plan units).filterMap export'.failure? :=
      hfailures.trans hlisted
    refine ⟨report, rfl, hlist, ?_, ?_⟩
    · rw [hwritten, hlist]
      exact hcounted.trans (Nat.zero_add _)
    · exact if_congr List.isEmpty_iff rfl rfl

end Prepared

/-! ### Failing alike -/

/-- **A listing and an export fail alike** in the checks of the catalog. -/
theorem runPaths_error_iff : (runPaths (args.listed json) t).output = .error e ↔
    e.IsOfCatalog ∧ (runExport web args t).output = .error e := by
  have hpaths : (runPaths (args.listed json) t).output = .error e ↔
      listing (args.listed json) t = .error e := by
    rw [runPaths]
    cases listing (args.listed json) t <;> simp [Except.map]
  have hfails : FailsWith (prepare web args t) _ := failsWith_prepare
  rw [hpaths, failsWith_listing.eq_error_iff, Check.firstError?_ofCatalog, ← hfails.eq_error_iff]
  refine and_congr_right fun hcatalog => ⟨fun h => ?_, fun h => ?_⟩
  · rw [runExport_of_prepare_error h]
  · cases hprepare : prepare web args t with
    | error cause =>
      rw [runExport_of_prepare_error hprepare] at h
      exact congrArg _ (Except.error.inj h)
    | ok prepared =>
      -- what stops an export is no error of the catalog
      obtain ⟨path, cause, rfl⟩ := stopped_of_runExport hprepare h
      exact hcatalog.elim

/-! ### The pages of an export -/

/-- What a run has attempted, by its events: some pages, which it has announced one after the other
under their numbers among so many, and rendered with the requests that it takes; besides its start
it has announced nothing but stages. -/
structure Attempts (export' : Export) (total : ℕ) (pages : List String) (events : List Event) :
    Prop where
  announced : ∃ stages : List String, Event.announcements events =
    .start total :: Event.numbered total 1 pages ++ stages.map .stage
  requested : Event.requests events =
    pages.flatMap fun page => (Crawl.visit export'.router page).requested

/-- A bundle that is a directory, or not given, is mounted. -/
theorem exists_mountDirectory (name : String) {given : Option FilePath}
    (h : ∀ dir, given = some dir → t.isDir dir = true) :
    ∃ mounts, mountDirectory t name given = .ok mounts := by
  cases given with
  | none => exact ⟨_, rfl⟩
  | some dir => exact ⟨_, by rw [mountDirectory, if_pos (h dir rfl)]⟩

/-- What a listing has gone through. -/
theorem exists_of_listing {pages : List String} (h : listing (args.listed json) t = .ok pages) :
    ∃ config units, loadConfig t args.config = .ok config ∧
      catalogUnits t args.catalog = .ok units ∧
      Catalog.planPages config.staticPages units = pages := by
  obtain ⟨config, hconfig, h⟩ := FailsWith.exists_of_bind h
  obtain ⟨units, hunits, h⟩ := FailsWith.exists_of_bind h
  exact ⟨config, units, hconfig, hunits, Except.ok.inj h⟩

/-- An export with a base URL and bundles that can be used has the pages that are listed. -/
theorem exists_prepare_of_listing (web : Web) {pages : List String} {site : Site}
    (hlisting : listing (args.listed json) t = .ok pages)
    (hsite : Site.ofText args.baseUrl = .ok site)
    (hstatic : ∀ dir, args.staticDir = some dir → t.isDir dir = true)
    (hthirdParty : ∀ dir, args.thirdPartyDir = some dir → t.isDir dir = true) :
    ∃ export' units, prepare web args t = .ok (export', units) ∧ export'.plan units = pages ∧
      export'.router = site.router web ∧ export'.out = args.out := by
  obtain ⟨config, units, hconfig, hunits, hplan⟩ := exists_of_listing hlisting
  obtain ⟨static, hstatic⟩ := exists_mountDirectory "static" hstatic
  obtain ⟨thirdParty, hthirdParty⟩ := exists_mountDirectory "third_party" hthirdParty
  refine ⟨⟨site.router web, { config with jobs := (args.jobs.map (max 1)).getD config.jobs },
    args.out, static ++ thirdParty⟩, units, ?_, hplan, by dsimp only, by dsimp only⟩
  simp only [prepare, hconfig, hunits, hsite, hstatic, hthirdParty, bind, Except.bind, pure,
    Except.pure, Except.mapError]

section Run

variable {export' : Export} {units : List String} {k : ℕ} {f : Failure}

theorem attempts_of_stopsAtPage (h : export'.StopsAtPage units t k f) :
    Attempts export' (export'.plan units).length ((export'.plan units).take (k + 1))
      (export'.run units t).events where
  announced := ⟨[], by rw [h.announced, List.map_nil, List.append_nil]⟩
  requested := h.requested

theorem attempts_of_passesPages (h : export'.PassesPages units t) :
    Attempts export' (export'.plan units).length (export'.plan units)
      (export'.run units t).events where
  announced := ⟨(if export'.mounts.isEmpty then [] else ["Copying static assets..."]) ++
    if (export'.run units t).result.isOk then ["Static site generated in " ++ export'.out] else [],
    by
      rw [h.announced, List.map_append, apply_ite (List.map Event.stage),
        apply_ite (List.map Event.stage), List.append_assoc]
      rfl⟩
  requested := h.requested

end Run

/-! ### The dry run -/

/-- **A dry run foretells an export** with the same arguments. The two fail alike in the checks of
the catalog. When pages are listed, then an export with a base URL and bundles that can be used,
which renders one page after the other as a single job does, attempts exactly these pages in this
order, up to the first one that cannot be read or written. It is stopped by nothing but such a
failure, with the exit code of an error. If it is not stopped, every page counts as written or is
listed as failed, and the exit code tells whether any has failed. -/
theorem paths_foretell_export (web : Web) (args : ExportArgs) (json : Bool) (t : FileTree) :
    (∀ e, (run web t (.paths (args.listed json))).output = .error e ↔
      e.IsOfCatalog ∧ (run web t (.export args)).output = .error e) ∧
    ∀ pages, listing (args.listed json) t = .ok pages →
      (run web t (.paths (args.listed json))).output =
        .ok (if json then printJson (jsonOfPaths pages) else printLines pages, true) ∧
      ∀ site, Site.ofText args.baseUrl = .ok site →
      (∀ dir, args.staticDir = some dir → t.isDir dir = true) →
      (∀ dir, args.thirdPartyDir = some dir → t.isDir dir = true) →
      ∃ export' : Export, export'.router = site.router web ∧ export'.out = args.out ∧
        (∀ k f, FirstFailure export'.pageStep t pages k f →
          Attempts export' pages.length (pages.take (k + 1)) (run web t (.export args)).events ∧
          (run web t (.export args)).output = .error (.stopped args.out f)) ∧
        ((∀ k, failsAt? export'.pageStep t pages k = none) →
          Attempts export' pages.length pages (run web t (.export args)).events) ∧
        (∀ e, (run web t (.export args)).output = .error e →
          (∃ path cause, e = .stopped args.out (.file path cause)) ∧
          (run web t (.export args)).exitCode = 2) ∧
        ∀ text ok, (run web t (.export args)).output = .ok (text, ok) →
          ∃ report, text = printReport args report ∧
            report.failures = pages.filterMap export'.failure? ∧
            report.pagesWritten + report.failures.length = pages.length ∧
            (run web t (.export args)).exitCode = if report.failures = [] then 0 else 1 := by
  refine ⟨fun e => runPaths_error_iff, fun pages hlisting =>
    ⟨?_, fun site hsite hstatic hthirdParty => ?_⟩⟩
  · rw [run, runPaths, hlisting]
    rfl
  obtain ⟨export', units, hprepare, rfl, hrouter, hout⟩ :=
    exists_prepare_of_listing web hlisting hsite hstatic hthirdParty
  have hrun : run web t (.export args) = _ := runExport_of_prepare hprepare
  refine ⟨export', hrouter, hout, fun k f hfirst => ?_, fun hnone => ?_, fun e he => ?_,
    fun text ok => report_of_runExport hprepare⟩
  · have hstops := Export.stopsAtPage hfirst
    rw [hrun]
    exact ⟨attempts_of_stopsAtPage hstops, by rw [hstops.result]⟩
  · rw [hrun]
    exact attempts_of_passesPages (Export.passesPages hnone)
  · refine ⟨stopped_of_runExport hprepare he, ?_⟩
    rw [Outcome.exitCode, he]

/-- The export of a site without a catalog. -/
def homeOnly : ExportArgs where
  baseUrl := "http://localhost:8080"
  out := "out"

/-- The pages of the export. -/
def homePages : List String := ["/", "/about", "/license-policy", "/search-help"]

theorem catalogUnits_homeOnly : catalogUnits .empty homeOnly.catalog = .ok [] := by
  have henumerate : Catalog.enumerate [] [] = [] := by
    simp [Catalog.enumerate, sortedSet, sortedSet.dropRepeats]
  rw [← henumerate]
  exact rfl

theorem planPages_homeOnly :
    Catalog.planPages ["/about", "/license-policy", "/search-help"] [] = homePages := by
  decide

theorem listing_homeOnly : listing (homeOnly.listed false) .empty = .ok homePages := by
  have hconfig : loadConfig .empty homeOnly.config = .ok {} := rfl
  simp only [listing, ExportArgs.listed, hconfig, catalogUnits_homeOnly, bind, Except.bind, pure,
    Except.pure, planPages_homeOnly]

/-- No page of the site can be reached. -/
theorem exists_site_homeOnly : ∃ site, Site.ofText homeOnly.baseUrl = .ok site ∧
    ∀ page ∈ homePages, ∃ reason,
      Crawl.render (site.router .unreachable) page = .error (.backend page reason) := by
  refine ⟨_, rfl, ?_⟩
  simp only [homePages, List.forall_mem_cons]
  exact ⟨⟨_, rfl⟩, ⟨_, rfl⟩, ⟨_, rfl⟩, ⟨_, rfl⟩, List.forall_mem_nil _⟩

/-- Pages that cannot be reached do not stop the export. -/
theorem exists_output_homeOnly {site : Site} (hsite : Site.ofText homeOnly.baseUrl = .ok site)
    (hrender : ∀ page ∈ homePages, ∃ reason,
      Crawl.render (site.router .unreachable) page = .error (.backend page reason)) :
    ∃ text ok, (run .unreachable .empty (.export homeOnly)).output = .ok (text, ok) := by
  have hconfig : loadConfig .empty homeOnly.config = .ok {} := rfl
  have hstatic : mountDirectory .empty "static" homeOnly.staticDir = .ok [] := rfl
  have hthirdParty : mountDirectory .empty "third_party" homeOnly.thirdPartyDir = .ok [] := rfl
  have hprepare : prepare .unreachable homeOnly .empty =
      .ok ({ router := site.router .unreachable, out := "out" }, []) := by
    simp only [prepare, hconfig, catalogUnits_homeOnly, hsite, hstatic, hthirdParty, bind,
      Except.bind, pure, Except.pure, Except.mapError]
    rfl
  refine exists_output_of_runExport hprepare
    (Export.run_of_forall rfl (failsAt?_eq_none fun t page hpage => ?_)).1
  replace hpage : page ∈ Catalog.planPages ["/about", "/license-policy", "/search-help"] [] := hpage
  rw [planPages_homeOnly] at hpage
  obtain ⟨reason, hrender⟩ := hrender page hpage
  rw [Export.pageStep, Export.exportPage, hrender]
  rfl

/-- The pages of a site that cannot be reached are listed and attempted, and all of them fail. -/
theorem paths_foretell_export_home :
    (run .unreachable .empty (.paths (homeOnly.listed false))).stdout =
        "/\n/about\n/license-policy\n/search-help\n" ∧
      ∃ report, (run .unreachable .empty (.export homeOnly)).output =
          .ok (printReport homeOnly report, false) ∧
        report.failures.length = 4 ∧ report.pagesWritten = 0 ∧
        (run .unreachable .empty (.export homeOnly)).exitCode = 1 := by
  obtain ⟨site, hsite, hrender⟩ := exists_site_homeOnly
  obtain ⟨-, hpages⟩ := paths_foretell_export .unreachable homeOnly false .empty
  obtain ⟨hprinted, hexport⟩ := hpages _ listing_homeOnly
  obtain ⟨export', hrouter, -, -, -, -, hreport⟩ := hexport site hsite nofun nofun
  refine ⟨?_, ?_⟩
  · rw [Outcome.stdout, hprinted]
    decide
  obtain ⟨text, ok, hok⟩ := exists_output_homeOnly hsite hrender
  obtain ⟨report, rfl, hfailures, hcounted, hcode⟩ := hreport text ok hok
  have hfails : ∀ page ∈ homePages, (export'.failure? page).isSome := by
    intro page hpage
    obtain ⟨reason, hrender⟩ := hrender page hpage
    rw [Export.failure?, hrouter, hrender]
    rfl
  have hlength : report.failures.length = 4 := by
    rw [hfailures, List.length_filterMap_eq_countP, List.countP_eq_length.mpr hfails]
    rfl
  have hcode' : (run .unreachable .empty (.export homeOnly)).exitCode = 1 := by
    rw [hcode, if_neg]
    intro hnil
    rw [hnil] at hlength
    cases hlength
  refine ⟨report, ?_, hlength, ?_, hcode'⟩
  · cases ok with
    | false => exact hok
    | true =>
      rw [Outcome.exitCode, hok] at hcode'
      cases hcode'
  · rw [hlength] at hcounted
    exact Nat.add_right_cancel (m := 4) hcounted

end Cli

end SiteSnapshot
