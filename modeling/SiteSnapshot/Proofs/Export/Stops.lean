import SiteSnapshot.Proofs.Bundle.Exact
import SiteSnapshot.Proofs.Export.Phases
import SiteSnapshot.Proofs.Export.Steps

/-!
# What stops a run

The pages of a run are its first steps and its mounts the next ones. The first step that cannot read
or write a file ends the run, and a page that fails in any other way is only listed. `run_stops`
says of every run where it ends, what it has announced, requested and left behind by then, and that
it gives a report exactly if it announces its end.
-/

namespace SiteSnapshot

open FileTree

namespace Export

variable {e : Export} {f : Failure} {mounts : List Mount}

/-! ### Failures -/

theorem isFatal_of_copyMounts {p : Progress} (h : (e.copyMounts mounts p).stopped = some f) :
    f.isFatal = true := by
  induction mounts generalizing p with
  | nil => cases h
  | cons mount rest ih =>
    rw [copyMounts] at h
    rcases hcopy : mount.bundle.copy p.tree mount.name e.out with ⟨tree, f' | count⟩
    · simp only [hcopy, Option.some.injEq] at h
      exact h ▸ Bundle.isFatal_of_copy (congrArg Prod.snd hcopy)
    · simp only [hcopy] at h
      exact ih h

/-- **What copying the favicon comes to**: nothing, or one file that is written or not. -/
theorem copyFavicon_cases (e : Export) (p : Progress) :
    e.copyFavicon p = ⟨p, none⟩ ∨
      ∃ octets tree,
        (Output.write p.tree (FilePath.join e.out "favicon.ico") octets = (tree, .ok ()) ∧
          ∃ report, e.copyFavicon p = ⟨{ p with tree, report }, none⟩) ∨
        ∃ f, Output.write p.tree (FilePath.join e.out "favicon.ico") octets = (tree, .error f) ∧
          e.copyFavicon p = ⟨{ p with tree }, some f⟩ := by
  rw [copyFavicon]
  cases e.favicon? with
  | none => exact Or.inl rfl
  | some found =>
    obtain ⟨mount, path⟩ := found
    dsimp only
    cases mount.bundle.read p.tree path with
    | error f => exact Or.inl rfl
    | ok octets =>
      dsimp only
      rcases hwrite : Output.write p.tree (FilePath.join e.out "favicon.ico") octets with
        ⟨tree, f | u⟩
      · exact Or.inr ⟨octets, tree, Or.inr ⟨f, hwrite, rfl⟩⟩
      · exact Or.inr ⟨octets, tree, Or.inl ⟨hwrite, _, rfl⟩⟩

theorem isFatal_of_copyFavicon {p : Progress} (h : (e.copyFavicon p).stopped = some f) :
    f.isFatal = true := by
  rcases copyFavicon_cases e p with
    hsame | ⟨octets, tree, ⟨-, report, hcopy⟩ | ⟨f', hwrite, hcopy⟩⟩
  · rw [hsame] at h
    cases h
  · rw [hcopy] at h
    cases h
  · rw [hcopy] at h
    exact Option.some.inj h ▸ Output.isFatal_of_write (congrArg Prod.snd hwrite)

/-! ### The phases -/

section Phases

variable {o pages : Outcome} {next : Progress → Outcome}

theorem andThen_of_none (h : o.stopped = none) : andThen o next = next o.progress := by
  rw [andThen, h]

theorem andThen_of_some (h : o.stopped = some f) : andThen o next = o := by
  rw [andThen, h]

theorem isFatal_of_andThen (ho : ∀ f, o.stopped = some f → f.isFatal = true)
    (hnext : ∀ p f, (next p).stopped = some f → f.isFatal = true)
    (h : (andThen o next).stopped = some f) : f.isFatal = true := by
  cases hstopped : o.stopped with
  | none =>
    rw [andThen_of_none hstopped] at h
    exact hnext _ _ h
  | some f' =>
    rw [andThen_of_some hstopped] at h
    exact ho f h

/-- **Only a failure to read or write a file** stops a run. -/
theorem isFatal_of_run {units : List String} {t : FileTree}
    (h : (e.run units t).stopped = some f) : f.isFatal = true := by
  rw [run_eq_afterPages, afterPages] at h
  refine isFatal_of_andThen (fun _ => isFatal_of_andThen (fun _ => isFatal_of_andThen
    (fun _ => isFatal_of_exportPages) fun _ _ => isFatal_of_copyMounts)
    fun _ _ => isFatal_of_copyFavicon) ?_ h
  rintro p f ⟨⟩

theorem events_copyMounts (mounts : List Mount) (p : Progress) :
    (e.copyMounts mounts p).events = p.events := by
  induction mounts generalizing p with
  | nil => rfl
  | cons mount rest ih =>
    rw [copyMounts]
    rcases mount.bundle.copy p.tree mount.name e.out with ⟨tree, f | count⟩
    · rfl
    · exact ih _

theorem events_copyFavicon (p : Progress) : (e.copyFavicon p).events = p.events := by
  rcases copyFavicon_cases e p with
    hsame | ⟨octets, tree, ⟨-, report, hcopy⟩ | ⟨f', -, hcopy⟩⟩
  · rw [hsame]
    rfl
  · rw [hcopy]
    rfl
  · rw [hcopy]
    rfl

/-- What is announced before the mounts are copied. -/
def mountsEvents (e : Export) : List Event :=
  if e.mounts.isEmpty then [] else [.stage "Copying static assets..."]

/-- What is announced at the end of a run. -/
def endEvent (e : Export) : Event :=
  .stage ("Static site generated in " ++ e.out)

/-- The mounts of a run, after its pages. -/
def mountsPhase (e : Export) (pages : Outcome) : Outcome :=
  e.copyMounts e.mounts { pages.progress with events := pages.events ++ e.mountsEvents }

theorem afterPages_of_none (h : pages.stopped = none) :
    e.afterPages pages = andThen (andThen (e.mountsPhase pages) (copyFavicon e)) fun p =>
      ⟨announce e.endEvent p, none⟩ := by
  rw [afterPages, andThen_of_none h, mountsPhase, mountsEvents]
  cases e.mounts.isEmpty with
  | true => simp only [if_true, List.append_nil]; rfl
  | false => rfl

theorem events_andThen_copyFavicon (o : Outcome) :
    (andThen o (copyFavicon e)).events = o.events := by
  rw [andThen]
  cases o.stopped with
  | none => exact events_copyFavicon o.progress
  | some f => rfl

/-- **What is recorded after the pages**: the mounts are announced if there are any, and the end if
it is reached. -/
theorem events_afterPages (h : pages.stopped = none) :
    (e.afterPages pages).events = pages.events ++ e.mountsEvents ++
      if (e.afterPages pages).stopped = none then [e.endEvent] else [] := by
  rw [afterPages_of_none h]
  have hevents : (andThen (e.mountsPhase pages) (copyFavicon e)).events =
      pages.events ++ e.mountsEvents := by
    rw [events_andThen_copyFavicon, mountsPhase, events_copyMounts]
  cases hstopped : (andThen (e.mountsPhase pages) (copyFavicon e)).stopped with
  | none =>
    rw [andThen_of_none hstopped, ← hevents]
    rfl
  | some f => rw [andThen_of_some hstopped, hevents, hstopped, if_neg (by simp), List.append_nil]

/-- A mount that is not copied ends the run. -/
theorem afterPages_of_mount (h : pages.stopped = none) {k : ℕ}
    (hmount : FirstFailure e.mountStep pages.tree e.mounts k f) :
    (e.afterPages pages).stopped = some f ∧
      (e.afterPages pages).tree = treeAfter e.mountStep pages.tree (e.mounts.take (k + 1)) := by
  obtain ⟨htree, hstopped⟩ := copyMounts_of_firstFailure
    { pages.progress with events := pages.events ++ e.mountsEvents } hmount
  have hphase : (e.mountsPhase pages).stopped = some f := hstopped
  have hfavicon : andThen (e.mountsPhase pages) (copyFavicon e) = e.mountsPhase pages :=
    andThen_of_some hphase
  rw [afterPages_of_none h, hfavicon, andThen_of_some hphase]
  exact ⟨hphase, htree⟩

/-- When all mounts are copied, the favicon is. -/
theorem afterPages_of_mounts (h : pages.stopped = none)
    (hmounts : ∀ k, failsAt? e.mountStep pages.tree e.mounts k = none) :
    ∃ p : Progress, p.tree = treeAfter e.mountStep pages.tree e.mounts ∧
      SameTree (e.afterPages pages) (e.copyFavicon p) := by
  obtain ⟨htree, hrunning⟩ := copyMounts_of_forall
    { pages.progress with events := pages.events ++ e.mountsEvents } hmounts
  refine ⟨(e.mountsPhase pages).progress, htree, ?_⟩
  have hphase : (e.mountsPhase pages).stopped = none := hrunning
  rw [afterPages_of_none h, andThen_of_none hphase]
  cases hstopped : (e.copyFavicon (e.mountsPhase pages).progress).stopped with
  | none =>
    rw [andThen_of_none hstopped]
    exact ⟨rfl, hstopped.symm⟩
  | some f =>
    rw [andThen_of_some hstopped]
    exact ⟨rfl, rfl⟩

end Phases

/-! ### The run -/

variable {units : List String} {t : FileTree} {k : ℕ}

theorem afterPages_of_some {pages : Outcome} (h : pages.stopped = some f) :
    e.afterPages pages = pages := by
  rw [afterPages, andThen_of_some h, andThen_of_some h, andThen_of_some h]

theorem result_eq_error_iff {o : Outcome} : o.result = .error f ↔ o.stopped = some f := by
  rw [Outcome.result]
  cases o.stopped <;> simp

theorem isOk_result_iff {o : Outcome} : o.result.isOk = true ↔ o.stopped = none := by
  rw [Outcome.result]
  cases o.stopped <;> simp [Except.isOk, Except.toBool]

/-- **A run that one of its pages stops**: that page is the last one that is announced and
requested, nothing is copied, and what was there before it stays. -/
structure StopsAtPage (e : Export) (units : List String) (t : FileTree) (k : ℕ) (f : Failure) :
    Prop where
  result : (e.run units t).result = .error f
  announced : Event.announcements (e.run units t).events =
    .start (e.plan units).length ::
      Event.numbered (e.plan units).length 1 ((e.plan units).take (k + 1))
  requested : Event.requests (e.run units t).events =
    ((e.plan units).take (k + 1)).flatMap fun page => (Crawl.visit e.router page).requested
  tree : (e.run units t).tree = treeAfter e.pageStep t ((e.plan units).take (k + 1))
  kept : ∀ loc entry, (treeAfter e.pageStep t ((e.plan units).take k)).get? loc = some entry →
    (e.run units t).tree.get? loc = some entry

/-- **A run that none of its pages stops**: all pages are announced and requested, then the mounts
are copied up to the first one that fails, and the favicon if none does. -/
structure PassesPages (e : Export) (units : List String) (t : FileTree) : Prop where
  announced : Event.announcements (e.run units t).events =
    .start (e.plan units).length :: Event.numbered (e.plan units).length 1 (e.plan units) ++
      (if e.mounts.isEmpty then [] else [.stage "Copying static assets..."]) ++
      if (e.run units t).result.isOk then [.stage ("Static site generated in " ++ e.out)] else []
  requested : Event.requests (e.run units t).events =
    (e.plan units).flatMap fun page => (Crawl.visit e.router page).requested
  mount : ∀ k f,
    FirstFailure e.mountStep (treeAfter e.pageStep t (e.plan units)) e.mounts k f →
      (e.run units t).result = .error f ∧ (e.run units t).tree =
        treeAfter e.mountStep (treeAfter e.pageStep t (e.plan units)) (e.mounts.take (k + 1))
  mounts : (∀ k, failsAt? e.mountStep (treeAfter e.pageStep t (e.plan units)) e.mounts k = none) →
    ∃ p : Progress,
      p.tree = treeAfter e.mountStep (treeAfter e.pageStep t (e.plan units)) e.mounts ∧
        SameTree (e.run units t) (e.copyFavicon p)

theorem stopsAtPage (h : FirstFailure e.pageStep t (e.plan units) k f) :
    e.StopsAtPage units t k f := by
  obtain ⟨hafter, hstopped⟩ := after_of_firstFailure (e.plan units).length 1
    (announce (.start (e.plan units).length) { tree := t }) h
  have hrun : e.run units t = e.pagePhase units t :=
    (run_eq_afterPages e units t).trans (afterPages_of_some hstopped)
  refine ⟨?_, ?_, ?_, ?_, fun loc entry hentry => ?_⟩
  · rw [hrun]
    exact result_eq_error_iff.mpr hstopped
  · rw [hrun]
    exact hafter.announcements
  · rw [hrun]
    exact hafter.requests
  · rw [hrun]
    exact hafter.tree
  · have hfails := h.fails
    rw [failsAt?, Option.bind_eq_some_iff] at hfails
    obtain ⟨page, hpage, hfails⟩ := hfails
    rw [hrun, pagePhase, hafter.tree]
    refine Eq.trans (congrArg (FileTree.get? · loc) (treeAfter_take_succ hpage)) ?_
    exact (grows_of_pageStep hfails).get? hentry

theorem passesPages (h : ∀ k, failsAt? e.pageStep t (e.plan units) k = none) :
    e.PassesPages units t := by
  obtain ⟨hafter, hrunning⟩ := after_of_forall (e.plan units).length 1
    (announce (.start (e.plan units).length) { tree := t }) h
  have htree : (e.pagePhase units t).tree = treeAfter e.pageStep t (e.plan units) := hafter.tree
  have hevents : (e.run units t).events = (e.pagePhase units t).events ++ e.mountsEvents ++
      if (e.run units t).stopped = none then [e.endEvent] else [] :=
    events_afterPages hrunning
  refine ⟨?_, ?_, fun k f hmount => ?_, fun hmounts => ?_⟩
  · have hannounced : Event.announcements (e.pagePhase units t).events =
        .start (e.plan units).length :: Event.numbered (e.plan units).length 1 (e.plan units) :=
      hafter.announcements
    simp only [hevents, Event.announcements_append, hannounced, isOk_result_iff]
    rw [mountsEvents, apply_ite Event.announcements, apply_ite Event.announcements]
    rfl
  · have hrequested : Event.requests (e.pagePhase units t).events =
        (e.plan units).flatMap fun page => (Crawl.visit e.router page).requested :=
      hafter.requests
    simp only [hevents, Event.requests_append, hrequested]
    rw [mountsEvents, apply_ite Event.requests, apply_ite Event.requests]
    simp [Event.requests, Event.request?, endEvent]
  · rw [← htree] at hmount ⊢
    rw [result_eq_error_iff]
    exact afterPages_of_mount hrunning hmount
  · rw [← htree] at hmounts ⊢
    exact afterPages_of_mounts hrunning hmounts

/-- Without mounts, a run that none of its pages stops leaves behind what they do. -/
theorem run_of_forall (hmounts : e.mounts = [])
    (h : ∀ k, failsAt? e.pageStep t (e.plan units) k = none) :
    (e.run units t).stopped = none ∧
      (e.run units t).tree = treeAfter e.pageStep t (e.plan units) := by
  obtain ⟨hafter, hrunning⟩ := after_of_forall (e.plan units).length 1
    (announce (.start (e.plan units).length) { tree := t }) h
  obtain ⟨htree, hstopped⟩ := sameTree_afterPages hmounts (e.pagePhase units t)
  rw [run_eq_afterPages]
  exact ⟨hstopped.trans hrunning, htree.trans hafter.tree⟩

/-- **The end of a run** is announced exactly if there is a report. -/
theorem endEvent_mem_events_run :
    e.endEvent ∈ (e.run units t).events ↔ (e.run units t).result.isOk = true := by
  have hpages : ∀ n pages, e.endEvent ∉ Event.start n :: Event.numbered n 1 pages := by
    intro n pages hmem
    rcases List.mem_cons.mp hmem with heq | hmem
    · cases heq
    · obtain ⟨i, page, heq⟩ := Event.exists_of_mem_numbered hmem
      cases heq
  have hmounts : e.endEvent ∉ e.mountsEvents := by
    rw [mountsEvents]
    split_ifs
    · exact List.not_mem_nil
    · intro hmem
      have htext := congrArg String.toList (Event.stage.inj (List.mem_singleton.mp hmem))
      simp at htext
  rw [← Event.mem_announcements_iff rfl]
  by_cases hfails : ∀ k, failsAt? e.pageStep t (e.plan units) k = none
  · rw [(passesPages hfails).announced, List.mem_append, List.mem_append]
    refine (or_iff_right (not_or.mpr ⟨hpages _ _, hmounts⟩)).trans ?_
    cases (e.run units t).result.isOk with
    | true => exact iff_of_true List.mem_cons_self rfl
    | false => exact iff_of_false List.not_mem_nil Bool.false_ne_true
  · obtain ⟨k, f, h⟩ := exists_firstFailure hfails
    have hstops := stopsAtPage h
    rw [hstops.announced, hstops.result]
    exact iff_of_false (hpages _ _) Bool.false_ne_true

end Export

/-- **What stops a run.** Only a failure to read or write a file does. If a page is the first to
meet one, the run ends there (`Export.StopsAtPage`), and if none does, the run goes on whatever else
has failed (`Export.PassesPages`). The end is announced exactly if there is a report. -/
theorem run_stops (e : Export) (units : List String) (t : FileTree) :
    (∀ f, (e.run units t).result = .error f → ∃ path cause, f = .file path cause) ∧
      (∀ k f, FirstFailure e.pageStep t (e.plan units) k f → e.StopsAtPage units t k f) ∧
      ((∀ k, failsAt? e.pageStep t (e.plan units) k = none) → e.PassesPages units t) ∧
      (.stage ("Static site generated in " ++ e.out) ∈ (e.run units t).events ↔
        (e.run units t).result.isOk = true) := by
  refine ⟨fun f hf => ?_, fun k f => Export.stopsAtPage, Export.passesPages,
    Export.endEvent_mem_events_run⟩
  have hfatal := Export.isFatal_of_run (Export.result_eq_error_iff.mp hf)
  cases f with
  | file path cause => exact ⟨path, cause, rfl⟩
  | noUnits => cases hfatal
  | backend => cases hfatal
  | tooManyRedirects => cases hfatal
  | offSite => cases hfatal
  | unexpectedStatus => cases hfatal

/-- A site without pages, of which one cannot be read. -/
def unreadable : Export where
  router := fun _ path =>
    if path = "/about" then .error (.file "cache" .notFound) else .ok (.ofStatus 404)
  config := { staticPages := ["/about"] }
  out := "out"

/-- A bundle of one file. -/
def noteBundle : Bundle :=
  .memory { files := [("note.txt", Utf8.encode "note")] }

/-- The bundle is copied where there is nothing. -/
theorem exists_copy_noteBundle :
    ∃ t' n, noteBundle.copy .empty "static" "out" = (t', .ok n) := by
  have hwalk : noteBundle.walk .empty = .ok [⟨"note.txt", false⟩] :=
    congrArg Except.ok (List.mergeSort_singleton _)
  refine Bundle.exists_copy_eq rfl (noLinks_empty []) (leadsTo_empty rfl) (by decide) (by decide)
    (show _ = FilePath.below "" ["out", "static"] by decide)
    (.of_get?_eq_none [] [] rfl (get?_empty (by simp)) .directory)
    (fun more hmore => get?_empty (by simp)) hwalk (by decide) ?_ trivial (by decide) (by decide)
    (by decide)
  rw [List.forall_mem_singleton]
  exact fun _ => ⟨_, rfl⟩

/-- The same site without its configured page, and with a bundle. -/
def readable : Export :=
  { unreadable with config.staticPages := [], mounts := [⟨"static", noteBundle⟩] }

/-- The second of three pages stops the run. Without it the run copies the bundle after its pages
and comes to its end. -/
theorem run_stops_at_second_page :
    (unreadable.StopsAtPage ["/search"] .empty 1 (.file "cache" .notFound) ∧
      Event.requests (unreadable.run ["/search"] .empty).events = ["/", "/about"]) ∧
      readable.PassesPages ["/search"] .empty ∧
        (∃ n, noteBundle.copy .empty "static" "out" =
          ((readable.run ["/search"] .empty).tree, .ok n)) ∧
        .stage "Static site generated in out" ∈ (readable.run ["/search"] .empty).events := by
  have hplan : unreadable.plan ["/search"] = ["/", "/about", "/search"] := by decide
  have hfirst : FirstFailure unreadable.pageStep .empty (unreadable.plan ["/search"]) 1
      (.file "cache" .notFound) := by
    rw [hplan]
    exact firstFailure_succ_iff.mpr ⟨rfl, firstFailure_zero_iff.mpr rfl⟩
  obtain ⟨-, hstops, -, -⟩ := run_stops unreadable ["/search"] .empty
  have hstopped := hstops 1 _ hfirst
  obtain ⟨-, -, hpasses, hend⟩ := run_stops readable ["/search"] .empty
  have hpassed : readable.PassesPages ["/search"] .empty := by
    have hpages : ∀ k, failsAt? readable.pageStep .empty ["/", "/search"] k = none :=
      forall_failsAt?_cons_iff.mpr ⟨rfl, forall_failsAt?_cons_iff.mpr ⟨rfl, fun _ => rfl⟩⟩
    exact hpasses hpages
  -- the bundle is copied, and there is no favicon in it
  obtain ⟨t', n, hcopy⟩ := exists_copy_noteBundle
  have hstep : readable.mountStep .empty ⟨"static", noteBundle⟩ = (t', none) := by
    rw [Export.mountStep]
    dsimp only
    rw [show readable.out = "out" from rfl, hcopy]
  obtain ⟨p, htree, hsame⟩ := hpassed.mounts
    (forall_failsAt?_cons_iff.mpr ⟨congrArg Prod.snd hstep, fun _ => rfl⟩)
  have hfavicon : readable.copyFavicon p = ⟨p, none⟩ := rfl
  rw [hfavicon] at hsame
  refine ⟨⟨hstopped, ?_⟩, hpassed, ⟨n, ?_⟩, hend.mpr (Export.isOk_result_iff.mpr hsame.2)⟩
  · rw [hstopped.requested, hplan]
    decide
  · rw [hcopy, hsame.1, show Outcome.tree ⟨p, none⟩ = p.tree from rfl, htree]
    exact congrArg (fun r => (r.1, Except.ok n)) hstep.symm

end SiteSnapshot
