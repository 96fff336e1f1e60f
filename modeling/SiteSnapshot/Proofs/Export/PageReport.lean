import SiteSnapshot.Proofs.Export.Sequential

/-!
# What a run reports

A run exports its pages one after the other. Unless a file cannot be written, each page either
counts as written or is listed with the failure of its rendering, in the order of the plan
(`report_exportPages`). What comes after the pages leaves their part of the report alone
(`result_run`).
-/

namespace SiteSnapshot

open FileTree

/-! ### The report -/

namespace Export

variable {e : Export} {units : List String} {page : String} {octets : Bytes}

/-- What is reported for a page that cannot be rendered. -/
def failure? (e : Export) (page : String) : Option PageFailure :=
  match Crawl.render e.router page with
  | .ok _ => none
  | .error f => some ⟨page, f⟩

/-- A page that does not stop the run counts as written, or its failure is listed. -/
theorem addPage_exportPage {t : FileTree} {report report' : Report}
    (h : report.addPage page (e.exportPage t page).2 = .ok report') :
    report'.failures = report.failures ++ (e.failure? page).toList ∧
      report'.pagesWritten + (e.failure? page).toList.length = report.pagesWritten + 1 := by
  rw [exportPage] at h
  cases hrender : Crawl.render e.router page with
  | error f =>
    rw [hrender] at h
    simp only [Report.addPage] at h
    split_ifs at h
    obtain rfl := Except.ok.inj h
    simp [failure?, hrender]
  | ok rendered =>
    rw [hrender] at h
    cases hwrite : (Output.write t (e.pageFile page) (pageContent rendered)).2 with
    | error f =>
      simp only [hwrite, Report.addPage, Output.isFatal_of_write hwrite, if_true] at h
      cases h
    | ok u =>
      simp only [hwrite, Report.addPage] at h
      obtain rfl := Except.ok.inj h
      simp [failure?, hrender]

/-- Only a failure that is fatal stops a run. -/
theorem isFatal_of_addPage {report : Report} {result : Except Failure Unit} {f : Failure}
    (h : report.addPage page result = .error f) : f.isFatal = true := by
  cases result with
  | ok u => cases h
  | error f' =>
    simp only [Report.addPage] at h
    split_ifs at h with hfatal
    exact Except.error.inj h ▸ hfatal

theorem isFatal_of_exportPages {total index : ℕ} {pages : List String} {p : Progress} {f : Failure}
    (h : (e.exportPages total index pages p).stopped = some f) : f.isFatal = true := by
  induction pages generalizing index p with
  | nil => cases h
  | cons page rest ih =>
    rw [Schedule.exportPages_cons, Schedule.exportPages_singleton, Schedule.concluded] at h
    cases hadd : p.report.addPage page (e.exportPage p.tree page).2 with
    | ok report =>
      simp only [hadd, andThen] at h
      exact ih h
    | error f' =>
      simp only [hadd, andThen, Option.some.injEq] at h
      exact h ▸ isFatal_of_addPage hadd

/-- **The report of the pages**: every page is either counted or listed, in order. -/
theorem report_exportPages {total index : ℕ} {pages : List String} {p : Progress}
    (h : (e.exportPages total index pages p).stopped = none) :
    (e.exportPages total index pages p).progress.report.failures =
        p.report.failures ++ pages.filterMap e.failure? ∧
      (e.exportPages total index pages p).progress.report.pagesWritten +
          (pages.filterMap e.failure?).length = p.report.pagesWritten + pages.length := by
  induction pages generalizing index p with
  | nil => simp [exportPages]
  | cons page rest ih =>
    rw [Schedule.exportPages_cons] at h ⊢
    rw [Schedule.exportPages_singleton, Schedule.concluded] at h ⊢
    cases hadd : p.report.addPage page (e.exportPage p.tree page).2 with
    | error f => simp [hadd, andThen] at h
    | ok report =>
      obtain ⟨hfailures, hwritten⟩ := addPage_exportPage hadd
      simp only [hadd, andThen] at h ⊢
      obtain ⟨hfailures', hwritten'⟩ := ih h
      dsimp only at hfailures' hwritten'
      refine ⟨?_, ?_⟩
      · rw [hfailures', hfailures, List.append_assoc, List.filterMap_cons]
        cases e.failure? page <;> rfl
      · rw [List.filterMap_cons, List.length_cons]
        cases hfailure : e.failure? page with
        | none =>
          rw [hfailure, Option.toList_none, List.length_nil] at hwritten
          simp only
          omega
        | some failure =>
          rw [hfailure, Option.toList_some, List.length_singleton] at hwritten
          simp only [List.length_cons]
          omega

/-! ### After the pages -/

/-- The pages of a run, before anything else is copied. -/
def pagePhase (e : Export) (units : List String) (t : FileTree) : Outcome :=
  e.exportPages (e.plan units).length 1 (e.plan units)
    (announce (.start (e.plan units).length) { tree := t })

/-- A run that has come further, with the same report of its pages. -/
def SamePages (p q : Progress) : Prop :=
  q.report.pagesWritten = p.report.pagesWritten ∧ q.report.failures = p.report.failures

theorem SamePages.refl (p : Progress) : SamePages p p := ⟨rfl, rfl⟩

theorem SamePages.trans {p q r : Progress} (h : SamePages p q) (h' : SamePages q r) :
    SamePages p r :=
  ⟨h'.1.trans h.1, h'.2.trans h.2⟩

theorem samePages_copyMounts (e : Export) (mounts : List Mount) (p : Progress) :
    SamePages p (e.copyMounts mounts p).progress := by
  induction mounts generalizing p with
  | nil => exact .refl p
  | cons mount rest ih =>
    rw [copyMounts]
    rcases mount.bundle.copy p.tree mount.name e.out with ⟨tree, f | count⟩
    · exact .refl p
    · exact SamePages.trans ⟨rfl, rfl⟩ (ih _)

theorem samePages_copyFavicon (e : Export) (p : Progress) :
    SamePages p (e.copyFavicon p).progress := by
  rw [copyFavicon]
  cases e.favicon? with
  | none => exact .refl p
  | some found =>
    obtain ⟨mount, path⟩ := found
    dsimp only
    cases mount.bundle.read p.tree path with
    | error f => exact .refl p
    | ok octets =>
      dsimp only
      rcases Output.write p.tree (FilePath.join e.out "favicon.ico") octets with ⟨tree, f | u⟩
      · exact .refl p
      · exact ⟨rfl, rfl⟩

/-- What comes after an outcome that is not stopped. -/
theorem of_andThen {o : Outcome} {next : Progress → Outcome}
    (hnext : ∀ p, SamePages p (next p).progress) (h : (andThen o next).stopped = none) :
    o.stopped = none ∧ SamePages o.progress (andThen o next).progress := by
  rw [andThen] at h ⊢
  cases hstopped : o.stopped with
  | none => exact ⟨rfl, hnext _⟩
  | some f => simp [hstopped] at h

/-- **The report of a run** says of its pages what their export has reported. -/
theorem result_run {t : FileTree} {report : Report} (h : (e.run units t).result = .ok report) :
    (e.pagePhase units t).stopped = none ∧
      report.pagesWritten = (e.pagePhase units t).progress.report.pagesWritten ∧
        report.failures = (e.pagePhase units t).progress.report.failures := by
  have hstopped : (e.run units t).stopped = none := by
    rw [Outcome.result] at h
    cases hrun : (e.run units t).stopped with
    | none => rfl
    | some f => simp [hrun] at h
  have hreport : (e.run units t).progress.report = report := by
    rw [Outcome.result, hstopped] at h
    exact Except.ok.inj h
  rw [← hreport]
  rw [run] at hstopped ⊢
  obtain ⟨hfavicon, hlast⟩ := of_andThen (fun p => .refl p) hstopped
  obtain ⟨hbundles, hicon⟩ := of_andThen (samePages_copyFavicon e) hfavicon
  obtain ⟨hpages, hmounts⟩ := of_andThen
    (fun p => by
      refine SamePages.trans ?_ (samePages_copyMounts e e.mounts _)
      split_ifs
      · exact .refl p
      · exact .refl p) hbundles
  exact ⟨hpages, (hmounts.trans hicon).trans hlast⟩

end Export

end SiteSnapshot
