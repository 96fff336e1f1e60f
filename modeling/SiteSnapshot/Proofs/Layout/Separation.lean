import SiteSnapshot.Proofs.Catalog.PlannedPages

/-!
# Separate pages

Two pages are in each other's way if they have one file, or if the file of one stands where a
directory above the file of the other has to be. Pages are **separate** if no two are in each
other's way.

Planned pages are no two the same, and still they may be in each other's way, because a page that
keeps its own name can have the file of another: `separate_planPages_iff` gives the exact
condition, that no page is, by its segments, at or below the file of another.

Of two pages alone `file_at_or_above_iff` says when the first is in the way of the second: the
second is at or below the file of the first, or the first is a page named `index.html` right below
the second, which has its file there.
-/

namespace SiteSnapshot

open FileTree Catalog

/-- Pages of which none has the file of another as its own or as a directory above its own. -/
def Separate (pages : List String) : Prop :=
  ∀ p ∈ pages, ∀ q ∈ pages, p ≠ q →
    mapPath p ≠ mapPath q ∧ ¬namesOf (mapPath p) <+: namesOf (mapPath q)

instance (pages : List String) : Decidable (Separate pages) :=
  inferInstanceAs (Decidable (∀ p ∈ pages, ∀ q ∈ pages, _ → _))

/-- The file of a page is at the segments of the page or right below them. -/
theorem prefix_pageNames (segments : List String) : segments <+: pageNames segments := by
  rw [pageNames]
  split_ifs
  · exact List.prefix_rfl
  · exact List.prefix_append segments _

theorem pageNames_ne_nil (segments : List String) : pageNames segments ≠ [] := by
  rw [pageNames]
  split_ifs with hkeeps
  · rintro rfl
    simp at hkeeps
  · simp

/-- **A file that is in the way of another one** is in the way of the page itself, or it is the
`index.html` of that page and a page of its own. -/
theorem pageNames_prefix_iff {p q : List String} (hne : p ≠ q) :
    pageNames p <+: pageNames q ↔
      pageNames p <+: q ∨ p = q ++ ["index.html"] ∧ keepsName q = false := by
  constructor
  · intro h
    rw [pageNames.eq_1 q] at h
    split_ifs at h with hq
    · exact Or.inl h
    · rcases List.prefix_concat_iff.mp h with heq | hpre
      · -- one file for both: two different pages do not both get their `index.html`
        rw [pageNames] at heq
        split_ifs at heq with hp
        · exact Or.inr ⟨heq, by simpa using hq⟩
        · exact absurd (List.append_cancel_right heq) hne
      · exact Or.inl hpre
  · rintro (hpre | ⟨rfl, hq⟩)
    · exact hpre.trans (prefix_pageNames q)
    · have hkeeps : keepsName (q ++ ["index.html"]) = true := by
        rw [keepsName_append_singleton]
        decide
      rw [pageNames, if_pos hkeeps, pageNames, hq, if_neg Bool.false_ne_true]

/-- **When planned pages are separate**: exactly if no page has segments that start with the
names of another page's file. -/
theorem separate_planPages_iff {fixedPages units : List String} (hfixed : PlainPaths fixedPages)
    (hunits : PlainPaths units) :
    Separate (planPages fixedPages units) ↔
      ∀ p ∈ planPages fixedPages units, ∀ q ∈ planPages fixedPages units, p ≠ q →
        ¬pageNames (UrlPath.segments p) <+: UrlPath.segments q := by
  constructor
  · intro h p hp q hq hne hpre
    refine (h p hp q hq hne).2 ?_
    rw [(mapPath_of_mem_planPages hfixed hunits hp).2,
      (mapPath_of_mem_planPages hfixed hunits hq).2]
    exact hpre.trans (prefix_pageNames _)
  -- a file that is in the way is in the way of the page itself, or of the page above it
  · intro h p hp q hq hne
    have hnot : ¬namesOf (mapPath p) <+: namesOf (mapPath q) := by
      rw [(mapPath_of_mem_planPages hfixed hunits hp).2,
        (mapPath_of_mem_planPages hfixed hunits hq).2]
      intro hpre
      have hsegments := segments_ne_of_ne hp hq hne
      rcases (pageNames_prefix_iff hsegments).mp hpre with hpq | ⟨heq, hkeeps⟩
      · exact h p hp q hq hne hpq
      · refine h q hq p hp hne.symm ?_
        rw [pageNames, hkeeps, if_neg Bool.false_ne_true, heq]
    exact ⟨fun heq => hnot (heq ▸ List.prefix_rfl), hnot⟩

/-! ### Two pages -/

/-- A path of a directory above another path: by their names, the other path goes on from it. -/
def IsAbove (dir path : FilePath) : Prop :=
  namesOf dir <+: namesOf path ∧ namesOf dir ≠ namesOf path

instance (dir path : FilePath) : Decidable (IsAbove dir path) :=
  inferInstanceAs (Decidable (_ ∧ _))

/-- **When the file of a page is in the way of the file of another**, so when both have one file or
the first stands where a directory above the second has to be: exactly if the segments of the second
page start with all names of the first file, or the first page is the one segment `index.html` below
the second, which is the homepage or has a last segment without an extension. -/
theorem file_at_or_above_iff {p q : String} (hp : UrlPath.normalize p = p)
    (hq : UrlPath.normalize q = q) (hplainp : ∀ s ∈ UrlPath.segments p, IsPlain s)
    (hplainq : ∀ s ∈ UrlPath.segments q, IsPlain s) (hne : p ≠ q) :
    (mapPath p = mapPath q ∨ IsAbove (mapPath p) (mapPath q)) ↔
      namesOf (mapPath p) <+: UrlPath.segments q ∨
        UrlPath.segments p = UrlPath.segments q ++ ["index.html"] ∧
          (q = "/" ∨ ∃ init last, UrlPath.segments q = init ++ [last] ∧
            FilePath.extension? last = none) := by
  obtain ⟨hpathp, hnamesp⟩ := mapPath_of_normalize_eq hp hplainp
  obtain ⟨hpathq, hnamesq⟩ := mapPath_of_normalize_eq hq hplainq
  have hsegments : UrlPath.segments p ≠ UrlPath.segments q := by
    rwa [Ne, ← UrlPath.segments_inj hp hq] at hne
  have hinWay : (mapPath p = mapPath q ∨ IsAbove (mapPath p) (mapPath q)) ↔
      pageNames (UrlPath.segments p) <+: pageNames (UrlPath.segments q) := by
    rw [IsAbove, hnamesp, hnamesq]
    constructor
    · rintro (heq | ⟨hpre, -⟩)
      · rw [← hnamesp, ← hnamesq, heq]
      · exact hpre
    · intro hpre
      by_cases heq : pageNames (UrlPath.segments p) = pageNames (UrlPath.segments q)
      · exact Or.inl (by rw [hpathp, hpathq, heq])
      · exact Or.inr ⟨hpre, heq⟩
  have hhome : UrlPath.segments q = [] ↔ q = "/" := by
    rw [← UrlPath.segments_inj hq (by decide), show UrlPath.segments "/" = [] by decide]
  have hkeeps : keepsName (UrlPath.segments q) = false ↔
      q = "/" ∨ ∃ init last, UrlPath.segments q = init ++ [last] ∧
        FilePath.extension? last = none := by
    rw [keepsName_eq_false_iff, hhome]
    refine fun s hs => ⟨?_, hplainq s hs⟩
    rw [segments_eq_namesOf] at hs
    exact isName_of_mem_namesOf hs
  rw [hinWay, pageNames_prefix_iff hsegments, hnamesp, hkeeps]

/-- A dot that starts a name is no extension, so a page of that name shares its file with the page
`index.html` below it. With a dot further on the name is a file, and no page can be below it. -/
theorem file_at_or_above_dotted_names :
    (mapPath "/docs/.well-known/index.html" = mapPath "/docs/.well-known" ∨
        IsAbove (mapPath "/docs/.well-known/index.html") (mapPath "/docs/.well-known")) ∧
      (mapPath "/docs/v1." = mapPath "/docs/v1./api" ∨
        IsAbove (mapPath "/docs/v1.") (mapPath "/docs/v1./api")) := by
  constructor
  · refine (file_at_or_above_iff (by decide) (by decide) (by decide) (by decide) (by decide)).mpr ?_
    exact Or.inr ⟨by decide, Or.inr ⟨["docs"], ".well-known", by decide, by decide⟩⟩
  · refine (file_at_or_above_iff (by decide) (by decide) (by decide) (by decide) (by decide)).mpr ?_
    exact Or.inl (by decide)

end SiteSnapshot
