import SiteSnapshot.Export.Run
import SiteSnapshot.Proofs.Layout.Output
import SiteSnapshot.Proofs.Layout.Separation

/-!
# The output directory during a run

A `Destination` is where the output of a run goes: the names of an output directory below a
directory that is there. It is **fresh** if nothing is in the output directory yet, whether the
directory is there or is still to be made.

While separate pages are written to a fresh destination, the tree only ever **holds** their files
and the directories above these (`Holds`). That is kept by each of the two steps that write a page
(`Holds.of_growsTo`, `Holds.put`), and it makes sure that each of these steps finds room
(`Holds.clear`, `Holds.hasRoom`): what another page has left there is never in the way.
-/

namespace SiteSnapshot

open FileTree

/-- A directory for the output of a run, which is `names` below a directory that is there. -/
structure Destination where
  base : FilePath
  root : Location
  names : List String
  plain : ∀ s ∈ names, IsName s ∧ IsPlain s

namespace Destination

/-- The path of a destination. -/
def path (d : Destination) : FilePath :=
  d.base.below d.names

/-- A text that leads to a destination. It may have a slash at its end if there are names on the
way. -/
def IsAt (d : Destination) (out : FilePath) : Prop :=
  out = d.path ∨ d.names ≠ [] ∧ out = d.path ++ "/"

/-- A slash at the end makes no difference to what is joined. -/
theorem IsAt.join_eq {d : Destination} {out path : FilePath} (h : d.IsAt out)
    (hpath : FilePath.isAbsolute path = false) :
    FilePath.join out path = FilePath.join d.path path := by
  rcases h with rfl | ⟨hne, rfl⟩
  · rfl
  · obtain ⟨init, name, hnames⟩ := (List.eq_nil_or_concat d.names).resolve_left hne
    have hname : IsName name := (d.plain name (by simp [hnames])).1
    have hlast : d.path = FilePath.join (d.base.below init) name := by
      rw [Destination.path, hnames, List.concat_eq_append, FilePath.below_append_singleton]
    obtain ⟨before, hbefore⟩ := FilePath.exists_join_eq_append hname (d.base.below init)
    have hstem : FilePath.stem d.path = d.path := by
      rw [hlast, hbefore, FilePath.stem_append hname]
    have hpathne : d.path ≠ "" := hlast ▸ FilePath.join_ne_empty hname _
    rw [FilePath.join_eq (by simp) hpath, FilePath.stem_append_slash (by simp),
      FilePath.join_eq hpathne hpath, hstem]

/-- The names that lead from the base of a destination to the file of a page. -/
def file (d : Destination) (page : String) : List String :=
  d.names ++ pageNames (UrlPath.segments page)

theorem file_ne_nil (d : Destination) (page : String) : d.file page ≠ [] :=
  List.append_ne_nil_of_right_ne_nil _ (pageNames_ne_nil _)

/-- The names of the directories above the file of a page. -/
def dir (d : Destination) (page : String) : List String :=
  (d.file page).dropLast

/-- The last name of the file of a page. -/
def name (d : Destination) (page : String) : String :=
  (d.file page).getLast (d.file_ne_nil page)

theorem dir_append_name (d : Destination) (page : String) :
    d.dir page ++ [d.name page] = d.file page :=
  List.dropLast_append_getLast (d.file_ne_nil page)

/-- A destination with nothing in it, on a way with no file and no link. -/
structure Fresh (d : Destination) (t : FileTree) : Prop where
  leads : LeadsTo t d.base d.root
  clear : Clear t d.root d.names
  free : ∀ more, more ≠ [] → t.get? (d.root ++ (d.names ++ more)) = none

end Destination

/-- Pages with plain names whose files below a destination are not in each other's way. -/
structure Destination.Serves (d : Destination) (pages : List String) : Prop where
  plain : ∀ page ∈ pages, ∀ s ∈ d.file page, IsName s ∧ IsPlain s
  separate : ∀ p ∈ pages, ∀ q ∈ pages, d.file p <+: d.file q → p = q

/-- What a tree holds while pages are written: what was there before, files of pages with their
content, and directories above such files. -/
structure Holds (d : Destination) (pages : List String) (content : String → Option Bytes)
    (t t' : FileTree) : Prop where
  places : KeepsPlaces t t'
  get?_or : ∀ place, t'.get? place = t.get? place ∨
    (∃ page ∈ pages, (content page).isSome ∧ t'.get? place = some .directory ∧
      ∃ above rest, d.file page = above ++ rest ∧ rest ≠ [] ∧ place = d.root ++ above) ∨
    ∃ page ∈ pages, ∃ octets, content page = some octets ∧ place = d.root ++ d.file page ∧
      t'.get? place = some (.file octets)

namespace Holds

variable {d : Destination} {pages : List String} {content : String → Option Bytes}
  {t t' t'' : FileTree} {page : String}

theorem refl (d : Destination) (pages : List String) (content : String → Option Bytes)
    (t : FileTree) : Holds d pages content t t :=
  ⟨.refl t, fun _ => Or.inl rfl⟩

/-- The base of the destination stays where it is. -/
theorem leads (h : Holds d pages content t t') (hfresh : d.Fresh t) : LeadsTo t' d.base d.root :=
  hfresh.leads.of_keepsPlaces h.places

section Serves

variable (h : Holds d pages content t t') (hserves : d.Serves pages) (hpage : page ∈ pages)

include h hserves hpage

/-- **No page is in the way of another**: above the file of a page there are only directories. -/
theorem clear (hfresh : d.Fresh t) : Clear t' d.root (d.dir page) := by
  intro above hne habove
  have hprefix : above <+: d.file page := habove.trans (List.dropLast_prefix _)
  rcases h.get?_or (d.root ++ above) with hsame | ⟨-, -, -, hdir, -⟩ | ⟨q, hq, -, -, hplace, -⟩
  · rw [hsame]
    -- what was there before is on the way to the output directory, or nothing at all
    rcases List.prefix_or_prefix_of_prefix hprefix (List.prefix_append d.names _) with
      hnames | ⟨more, rfl⟩
    · exact hfresh.clear above hne hnames
    · by_cases hmore : more = []
      · subst hmore
        rw [List.append_nil] at hne ⊢
        exact hfresh.clear d.names hne List.prefix_rfl
      · exact Or.inl (hfresh.free more hmore)
  · exact Or.inr hdir
  · -- a file there would be that of the page itself, which is further down
    have heq := List.append_cancel_left hplace
    obtain rfl := hserves.separate q hq page hpage (heq ▸ hprefix)
    have hlen := habove.length_le
    have hpos := List.length_pos_iff.mpr (d.file_ne_nil q)
    rw [heq, Destination.dir, List.length_dropLast] at hlen
    omega

/-- **A page finds room for its file** once the directories above it are there. -/
theorem hasRoom (hfresh : d.Fresh t) (hdirs : AllDirectories t' d.root (d.dir page)) :
    HasRoom t' d.root (d.dir page) (d.name page) := by
  refine ⟨hdirs, ?_⟩
  rw [d.dir_append_name]
  rcases h.get?_or (d.root ++ d.file page) with
    hsame | ⟨q, hq, -, -, above, rest, hq', hrest, hplace⟩ | ⟨-, -, octets, -, -, hget⟩
  · rw [hsame]
    exact Or.inl (hfresh.free _ (pageNames_ne_nil _))
  · -- a directory there would be above the file of the page itself
    have heq := List.append_cancel_left hplace
    have hprefix : d.file page <+: d.file q := by
      rw [hq', heq]
      exact List.prefix_append above rest
    obtain rfl := hserves.separate page hpage q hq hprefix
    rw [← heq] at hq'
    exact absurd (List.append_right_eq_self.mp hq'.symm) hrest
  · exact Or.inr ⟨octets, hget⟩

omit hserves in
/-- Making the directory of a page. -/
theorem of_growsTo (hcontent : (content page).isSome)
    (hgrows : GrowsTo t' d.root (d.dir page) t'') :
    Holds d pages content t t'' := by
  refine ⟨h.places.trans hgrows.keepsPlaces, fun place => ?_⟩
  rcases hgrows.get?_or place with hsame | ⟨-, hdir, above, ⟨rest, hrest⟩, hplace⟩
  · rw [hsame]
    exact h.get?_or place
  · refine Or.inr (Or.inl ⟨page, hpage, hcontent, hdir, above, rest ++ [d.name page], ?_, by simp,
      hplace⟩)
    rw [← d.dir_append_name, ← hrest, List.append_assoc]

omit hserves in
/-- Writing the file of a page. -/
theorem put {octets : Bytes} (hcontent : content page = some octets)
    (hroom : HasRoom t' d.root (d.dir page) (d.name page)) :
    Holds d pages content t (t'.put (d.root ++ d.dir page) (d.name page) (.file octets)) := by
  refine ⟨h.places.trans hroom.keepsPlaces, fun place => ?_⟩
  rw [hroom.get?_put, d.dir_append_name]
  split_ifs with hplace
  · exact Or.inr (Or.inr ⟨page, hpage, octets, hcontent, hplace, rfl⟩)
  · exact h.get?_or place

end Serves

end Holds

/-! ### The pages of a run -/

/-- Why the file of a page cannot be written. -/
def Destination.fault? (d : Destination) (page : String) : Option Failure :=
  Output.fault? d.base (d.dir page) (d.name page)

namespace Export

variable {e : Export} {d : Destination} {pages : List String} {t : FileTree} {page : String}

/-- What is written for a page, if it can be rendered. -/
def content (e : Export) (page : String) : Option Bytes :=
  (Crawl.render e.router page).toOption.map pageContent

theorem content_of_render {rendered : RenderedPage}
    (h : Crawl.render e.router page = .ok rendered) :
    e.content page = some (pageContent rendered) := by
  rw [content, h]
  rfl

/-- A run that writes its pages below a destination. -/
structure Serves (e : Export) (d : Destination) (pages : List String) : Prop where
  serves : d.Serves pages
  pageFile_eq : ∀ page ∈ pages, e.pageFile page = d.base.below (d.dir page ++ [d.name page])

theorem Serves.plain (h : e.Serves d pages) (hpage : page ∈ pages) :
    ∀ s ∈ d.dir page ++ [d.name page], IsName s ∧ IsPlain s :=
  fun s hs => h.serves.plain page hpage s (d.dir_append_name page ▸ hs)

/-- The directory of a page. -/
theorem Serves.parent?_pageFile (h : e.Serves d pages) (hpage : page ∈ pages) :
    FilePath.parent? (e.pageFile page) = some (d.base.below (d.dir page)).top := by
  obtain ⟨hname, hdot, -⟩ := h.plain hpage (d.name page) (by simp)
  rw [h.pageFile_eq page hpage, FilePath.below_append_singleton, FilePath.parent?_join hname hdot]

/-- Separate planned pages are served. -/
theorem serves_plan {units : List String} (hfixed : Catalog.PlainPaths e.config.staticPages)
    (hunits : Catalog.PlainPaths units) (hout : d.IsAt e.out)
    (hseparate : Separate (e.plan units)) : e.Serves d (e.plan units) := by
  -- an `index.html` is as plain as the segments above it
  have hsegments : ∀ page ∈ e.plan units, ∀ s ∈ UrlPath.segments page, IsName s ∧ IsPlain s :=
    fun page hpage => Catalog.forall_segments_of_mem_planPages hfixed hunits hpage
  have hnames : ∀ page ∈ e.plan units, ∀ s ∈ pageNames (UrlPath.segments page),
      IsName s ∧ IsPlain s := by
    intro page hpage s hs
    rw [pageNames] at hs
    split_ifs at hs
    · exact hsegments page hpage s hs
    · rcases List.mem_append.mp hs with hs | hs
      · exact hsegments page hpage s hs
      · rw [List.mem_singleton.mp hs]
        decide
  refine ⟨⟨fun page hpage s hs => ?_, fun p hp q hq hprefix => ?_⟩, fun page hpage => ?_⟩
  · exact (List.mem_append.mp hs).elim (d.plain s) (hnames page hpage s)
  · by_contra hne
    refine (hseparate p hp q hq hne).2 ?_
    rw [(Catalog.mapPath_of_mem_planPages hfixed hunits hp).2,
      (Catalog.mapPath_of_mem_planPages hfixed hunits hq).2]
    exact (List.prefix_append_right_inj d.names).mp hprefix
  · have hnames' : ∀ s ∈ pageNames (UrlPath.segments page), IsName s :=
      fun s hs => (hnames page hpage s hs).1
    rw [pageFile, (Catalog.mapPath_of_mem_planPages hfixed hunits hpage).1,
      hout.join_eq (FilePath.isAbsolute_intercalate hnames'), Destination.path,
      FilePath.join_intercalate hnames' (pageNames_ne_nil _), ← FilePath.below_append,
      d.dir_append_name]
    rfl

/-- **A page on its own** is written to a fresh destination unless its path has a fault. -/
theorem exportPage_snd (hserves : e.Serves d pages) (hfresh : d.Fresh t) (hpage : page ∈ pages)
    (hcontent : (e.content page).isSome) :
    (e.exportPage t page).2 = (d.fault? page).elim (.ok ()) .error := by
  have hholds := Holds.refl d pages e.content t
  have hlast : t.get? (d.root ++ (d.dir page ++ [d.name page])) = none := by
    rw [d.dir_append_name]
    exact hfresh.free _ (pageNames_ne_nil _)
  rw [exportPage]
  cases hrender : Crawl.render e.router page with
  | error f => simp [content, hrender, Except.toOption] at hcontent
  | ok rendered =>
    simp only [hserves.pageFile_eq page hpage]
    exact Output.write_below_snd hfresh.leads (hserves.plain hpage)
      (hholds.clear hserves.serves hpage hfresh) (Or.inl hlast) _

end Export

end SiteSnapshot
