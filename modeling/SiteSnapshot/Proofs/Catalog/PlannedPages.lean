import SiteSnapshot.Catalog.Plan
import SiteSnapshot.Proofs.Layout.Names

/-!
# Planned pages

What the layout of the output needs to know about the crawl plan: every planned page is the
normal form of a path that was asked for (`exists_of_mem_planPages`), and pages that differ
differ in their segments (`segments_ne_of_ne`). `PlainPaths` says that no path asked for has a
step among its segments.
-/

namespace SiteSnapshot.Catalog

open FileTree

/-- Paths whose segments are no steps. -/
def PlainPaths (paths : List String) : Prop :=
  ∀ path ∈ paths, ∀ s ∈ UrlPath.segments path, IsPlain s

instance (paths : List String) : Decidable (PlainPaths paths) :=
  inferInstanceAs (Decidable (∀ path ∈ paths, ∀ s ∈ UrlPath.segments path, IsPlain s))

/-- Leaving out repetitions leaves out no element. -/
theorem mem_firsts {paths : List String} {path : String} :
    path ∈ firsts paths ↔ path ∈ paths := by
  induction paths with
  | nil => rfl
  | cons first rest ih =>
    rw [firsts, List.mem_cons, List.mem_filter, ih, List.mem_cons]
    by_cases h : path = first <;> simp [h]

/-- Every element is kept once. -/
theorem nodup_firsts (paths : List String) : (firsts paths).Nodup := by
  induction paths with
  | nil => exact List.nodup_nil
  | cons first rest ih =>
    rw [firsts, List.nodup_cons]
    exact ⟨by simp, ih.filter _⟩

/-- No page is planned twice. -/
theorem nodup_planPages (fixedPages units : List String) : (planPages fixedPages units).Nodup :=
  nodup_firsts _

/-- A planned page is the normal form of a path without steps. -/
theorem exists_of_mem_planPages {fixedPages units : List String} (hfixed : PlainPaths fixedPages)
    (hunits : PlainPaths units) {page : String} (hpage : page ∈ planPages fixedPages units) :
    ∃ path, page = UrlPath.normalize path ∧ ∀ s ∈ namesOf path, IsPlain s := by
  rw [planPages, mem_firsts, List.mem_cons, List.mem_map] at hpage
  rcases hpage with rfl | ⟨path, hpath, rfl⟩
  · exact ⟨"", by decide, by decide⟩
  · refine ⟨path, rfl, ?_⟩
    rw [← segments_eq_namesOf]
    exact (List.mem_append.mp hpath).elim (hfixed path) (hunits path)

/-- The segments of a planned page are names and no steps. -/
theorem forall_segments_of_mem_planPages {fixedPages units : List String}
    (hfixed : PlainPaths fixedPages) (hunits : PlainPaths units) {page : String}
    (hpage : page ∈ planPages fixedPages units) :
    ∀ s ∈ UrlPath.segments page, IsName s ∧ IsPlain s := by
  obtain ⟨path, rfl, hplain⟩ := exists_of_mem_planPages hfixed hunits hpage
  rw [segments_eq_namesOf, namesOf_normalize]
  exact fun s hs => ⟨isName_of_mem_namesOf hs, hplain s hs⟩

/-- A planned page is a normal form already. -/
theorem normalize_of_mem_planPages {fixedPages units : List String} {page : String}
    (hpage : page ∈ planPages fixedPages units) : UrlPath.normalize page = page := by
  rw [planPages, mem_firsts, List.mem_cons, List.mem_map] at hpage
  rcases hpage with rfl | ⟨path, -, rfl⟩
  · decide
  · exact UrlPath.normalize_normalize path

/-- The file of a planned page. -/
theorem mapPath_of_mem_planPages {fixedPages units : List String}
    (hfixed : PlainPaths fixedPages) (hunits : PlainPaths units) {page : String}
    (hpage : page ∈ planPages fixedPages units) :
    mapPath page = "/".intercalate (pageNames (UrlPath.segments page)) ∧
      namesOf (mapPath page) = pageNames (UrlPath.segments page) :=
  mapPath_of_normalize_eq (normalize_of_mem_planPages hpage) fun s hs =>
    (forall_segments_of_mem_planPages hfixed hunits hpage s hs).2

/-- Different planned pages have different segments. -/
theorem segments_ne_of_ne {fixedPages units : List String} {p q : String}
    (hp : p ∈ planPages fixedPages units) (hq : q ∈ planPages fixedPages units) (hne : p ≠ q) :
    UrlPath.segments p ≠ UrlPath.segments q :=
  mt (UrlPath.segments_inj (normalize_of_mem_planPages hp) (normalize_of_mem_planPages hq)).mp hne

end SiteSnapshot.Catalog
