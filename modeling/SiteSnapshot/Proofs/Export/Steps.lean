import Mathlib.Data.Nat.Find
import SiteSnapshot.Proofs.Export.Events
import SiteSnapshot.Proofs.Layout.Effects

/-!
# The steps of a run

The pages of a run and then its mounts are steps on one file tree, each of which may fail. The first
one that fails is the last one that is taken (`FirstFailure`), and what is left behind by then is
what the steps up to that one do (`treeAfter`).

`Export.after_of_firstFailure` and `Export.after_of_forall` say so of the pages, together with what
they announce and request, and `Export.copyMounts_of_firstFailure` and
`Export.copyMounts_of_forall` of the mounts. A page whose failure is not one to read or write a file
counts as a step that does not fail.
-/

namespace SiteSnapshot

open FileTree

/-! ### Steps on a tree -/

section Steps

variable {α : Type} (step : FileTree → α → FileTree × Option Failure) (t : FileTree)

/-- The tree after some steps. -/
def treeAfter (xs : List α) : FileTree :=
  xs.foldl (fun t x => (step t x).1) t

/-- The failure of a step that comes after those in front of it. -/
def failsAt? (xs : List α) (k : ℕ) : Option Failure :=
  xs[k]?.bind fun x => (step (treeAfter step t (xs.take k)) x).2

variable (x : α) (rest : List α) (k : ℕ)

@[simp]
theorem treeAfter_cons : treeAfter step t (x :: rest) = treeAfter step (step t x).1 rest := rfl

@[simp]
theorem failsAt?_zero : failsAt? step t (x :: rest) 0 = (step t x).2 := rfl

@[simp]
theorem failsAt?_succ :
    failsAt? step t (x :: rest) (k + 1) = failsAt? step (step t x).1 rest k := rfl

/-- A failure of one step, with none in front of it. -/
structure FirstFailure (xs : List α) (k : ℕ) (f : Failure) : Prop where
  fails : failsAt? step t xs k = some f
  first : ∀ j < k, failsAt? step t xs j = none

variable {step t x rest k} {xs : List α} {f : Failure}

/-- Steps that fail on no tree do not fail one after the other. -/
theorem failsAt?_eq_none (h : ∀ t, ∀ x ∈ xs, (step t x).2 = none) (k : ℕ) :
    failsAt? step t xs k = none :=
  Option.bind_eq_none_iff.mpr fun x hx => h _ x (List.mem_of_getElem? hx)

/-- No step fails if the first one does not and none of the others does after it. -/
theorem forall_failsAt?_cons_iff : (∀ k, failsAt? step t (x :: rest) k = none) ↔
    (step t x).2 = none ∧ ∀ k, failsAt? step (step t x).1 rest k = none :=
  ⟨fun h => ⟨h 0, fun k => h (k + 1)⟩, fun h k => k.casesOn h.1 h.2⟩

/-- One step more. -/
theorem treeAfter_take_succ (h : xs[k]? = some x) :
    treeAfter step t (xs.take (k + 1)) = (step (treeAfter step t (xs.take k)) x).1 := by
  rw [List.take_add_one, h, Option.toList_some, treeAfter, List.foldl_append]
  rfl

theorem firstFailure_zero_iff :
    FirstFailure step t (x :: rest) 0 f ↔ (step t x).2 = some f :=
  ⟨fun h => h.fails, fun h => ⟨h, fun _ hj => absurd hj (Nat.not_lt_zero _)⟩⟩

theorem firstFailure_succ_iff :
    FirstFailure step t (x :: rest) (k + 1) f ↔
      (step t x).2 = none ∧ FirstFailure step (step t x).1 rest k f := by
  constructor
  · intro h
    exact ⟨h.first 0 k.succ_pos, h.fails, fun j hj => h.first (j + 1) (Nat.succ_lt_succ hj)⟩
  · rintro ⟨hfirst, h⟩
    refine ⟨h.fails, fun j hj => ?_⟩
    cases j with
    | zero => exact hfirst
    | succ j => exact h.first j (Nat.lt_of_succ_lt_succ hj)

/-- Either no step fails, or there is a first one. -/
theorem exists_firstFailure (h : ¬∀ k, failsAt? step t xs k = none) :
    ∃ k f, FirstFailure step t xs k f := by
  classical
  have hex : ∃ k, failsAt? step t xs k ≠ none := not_forall.mp h
  obtain ⟨f, hf⟩ := Option.ne_none_iff_exists'.mp (Nat.find_spec hex)
  exact ⟨Nat.find hex, f, hf, fun j hj => not_not.mp (Nat.find_min hex hj)⟩

end Steps

namespace Export

variable {e : Export} {f : Failure}

/-! ### Pages -/

/-- Exporting a page as a step: only a failure to read or write a file counts. -/
def pageStep (e : Export) (t : FileTree) (page : String) : FileTree × Option Failure :=
  match e.exportPage t page with
  | (t', .ok ()) => (t', none)
  | (t', .error f) => (t', if f.isFatal then some f else none)

/-- A run in progress after one more page, with the report it has by then. -/
def afterPage (e : Export) (total index : ℕ) (page : String) (p : Progress) (report : Report) :
    Progress where
  tree := (e.pageStep p.tree page).1
  report := report
  events := p.events ++ .page index total page :: e.pageRequests page

theorem exportPages_of_none {total index : ℕ} {page : String} {p : Progress}
    (h : (e.pageStep p.tree page).2 = none) (rest : List String) : ∃ report,
      e.exportPages total index (page :: rest) p =
        e.exportPages total (index + 1) rest (e.afterPage total index page p report) := by
  simp only [afterPage]
  rw [pageStep] at h ⊢
  rw [exportPages]
  rcases hexport : e.exportPage p.tree page with ⟨tree, f | u⟩
  · simp only [hexport, ite_eq_right_iff, reduceCtorEq, imp_false] at h
    simp only [Report.addPage, if_neg h]
    exact ⟨_, rfl⟩
  · exact ⟨_, rfl⟩

theorem exportPages_of_some {total index : ℕ} {page : String} {p : Progress}
    (h : (e.pageStep p.tree page).2 = some f) (rest : List String) :
    e.exportPages total index (page :: rest) p =
      ⟨e.afterPage total index page p p.report, some f⟩ := by
  rw [afterPage]
  rw [pageStep] at h ⊢
  rw [exportPages]
  rcases hexport : e.exportPage p.tree page with ⟨tree, f' | u⟩
  · simp only [hexport, Option.ite_none_right_eq_some, Option.some.injEq] at h
    obtain ⟨hfatal, rfl⟩ := h
    simp only [Report.addPage, if_pos hfatal]
  · simp [hexport] at h

/-- What the export of pages has come to after some of them. -/
structure After (e : Export) (total index : ℕ) (pages : List String) (p : Progress) (o : Outcome) :
    Prop where
  tree : o.tree = treeAfter e.pageStep p.tree pages
  announcements : Event.announcements o.events =
    Event.announcements p.events ++ Event.numbered total index pages
  requests : Event.requests o.events =
    Event.requests p.events ++ pages.flatMap fun page => (Crawl.visit e.router page).requested

/-- One page more in front. -/
theorem After.cons {total index : ℕ} {pages : List String} {page : String} {p : Progress}
    {report : Report} {o : Outcome}
    (h : After e total (index + 1) pages (e.afterPage total index page p report) o) :
    After e total index (page :: pages) p o := by
  refine ⟨h.tree, h.announcements.trans ?_, h.requests.trans ?_⟩
  · simp [afterPage, Event.numbered]
  · simp [afterPage]

/-- **Pages of which none stops the run** are all exported. -/
theorem after_of_forall (total index : ℕ) {pages : List String} (p : Progress)
    (h : ∀ k, failsAt? e.pageStep p.tree pages k = none) :
    After e total index pages p (e.exportPages total index pages p) ∧
      (e.exportPages total index pages p).stopped = none := by
  induction pages generalizing index p with
  | nil => exact ⟨⟨rfl, by simp [exportPages, Outcome.events, Event.numbered],
      by simp [exportPages, Outcome.events]⟩, rfl⟩
  | cons page rest ih =>
    obtain ⟨report, hexport⟩ := exportPages_of_none (h 0) rest
    rw [hexport]
    obtain ⟨hafter, hrunning⟩ := ih (index + 1) (e.afterPage total index page p report)
      fun k => h (k + 1)
    exact ⟨hafter.cons, hrunning⟩

/-- **The first page that stops the run** is the last one. -/
theorem after_of_firstFailure (total index : ℕ) {pages : List String} {k : ℕ} (p : Progress)
    (h : FirstFailure e.pageStep p.tree pages k f) :
    After e total index (pages.take (k + 1)) p (e.exportPages total index pages p) ∧
      (e.exportPages total index pages p).stopped = some f := by
  induction pages generalizing index p k with
  | nil => cases h.fails
  | cons page rest ih =>
    cases k with
    | zero =>
      rw [exportPages_of_some h.fails rest]
      exact ⟨⟨rfl, by simp [afterPage, Outcome.events, Event.numbered],
        by simp [afterPage, Outcome.events]⟩, rfl⟩
    | succ k =>
      obtain ⟨hfirst, hrest⟩ := firstFailure_succ_iff.mp h
      obtain ⟨report, hexport⟩ := exportPages_of_none hfirst rest
      rw [hexport]
      obtain ⟨hafter, hstopped⟩ := ih (index + 1) (e.afterPage total index page p report) hrest
      exact ⟨hafter.cons, hstopped⟩

/-- **A page that stops the run** leaves at most new directories behind. -/
theorem grows_of_pageStep {t : FileTree} {page : String} (h : (e.pageStep t page).2 = some f) :
    Grows t (e.pageStep t page).1 := by
  rw [pageStep, exportPage] at h ⊢
  cases hrender : Crawl.render e.router page with
  | error f' => exact .refl t
  | ok rendered =>
    simp only [hrender] at h ⊢
    rcases hwrite : Output.write t (e.pageFile page) (pageContent rendered) with ⟨t', f' | u⟩
    · have hgrows := Output.grows_of_write (congrArg Prod.snd hwrite)
      rwa [hwrite] at hgrows
    · simp [hwrite] at h

/-! ### Mounts -/

/-- Copying a mount as a step: every failure counts. -/
def mountStep (e : Export) (t : FileTree) (mount : Mount) : FileTree × Option Failure :=
  match mount.bundle.copy t mount.name e.out with
  | (t', .ok _) => (t', none)
  | (t', .error f) => (t', some f)

variable {mounts : List Mount}

theorem copyMounts_of_forall (p : Progress) (h : ∀ k, failsAt? e.mountStep p.tree mounts k = none) :
    (e.copyMounts mounts p).tree = treeAfter e.mountStep p.tree mounts ∧
      (e.copyMounts mounts p).stopped = none := by
  induction mounts generalizing p with
  | nil => exact ⟨rfl, rfl⟩
  | cons mount rest ih =>
    have hfirst := h 0
    have hrest := fun k => h (k + 1)
    simp only [failsAt?_zero, failsAt?_succ, mountStep] at hfirst hrest
    rw [copyMounts, treeAfter_cons, mountStep]
    rcases hcopy : mount.bundle.copy p.tree mount.name e.out with ⟨tree, f | count⟩
    · simp [hcopy] at hfirst
    · simp only [hcopy] at hrest
      exact ih _ hrest

theorem copyMounts_of_firstFailure {k : ℕ} (p : Progress)
    (h : FirstFailure e.mountStep p.tree mounts k f) :
    (e.copyMounts mounts p).tree = treeAfter e.mountStep p.tree (mounts.take (k + 1)) ∧
      (e.copyMounts mounts p).stopped = some f := by
  induction mounts generalizing p k with
  | nil => cases h.fails
  | cons mount rest ih =>
    rw [copyMounts, List.take_succ_cons, treeAfter_cons]
    cases k with
    | zero =>
      have hfails := firstFailure_zero_iff.mp h
      rw [mountStep] at hfails ⊢
      rcases hcopy : mount.bundle.copy p.tree mount.name e.out with ⟨tree, f' | count⟩
      · simp only [hcopy, Option.some.injEq] at hfails
        exact ⟨rfl, congrArg some hfails⟩
      · simp [hcopy] at hfails
    | succ k =>
      obtain ⟨hfirst, hrest⟩ := firstFailure_succ_iff.mp h
      rw [mountStep] at hfirst hrest ⊢
      rcases hcopy : mount.bundle.copy p.tree mount.name e.out with ⟨tree, f' | count⟩
      · simp [hcopy] at hfirst
      · simp only [hcopy] at hrest
        exact ih _ hrest

end Export

end SiteSnapshot
