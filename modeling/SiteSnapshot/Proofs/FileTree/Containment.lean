import SiteSnapshot.Export.Run
import SiteSnapshot.Proofs.FileTree.Files
import SiteSnapshot.Proofs.Layout.Links

/-!
# Staying below a directory

Without links, a file tree reads the names of a path as a link of a page is read (`Link.follow`):
they stay below the directory that they start from if they do so as text, and then they lead to
the place that the text says (`place_of_follow`). So a file whose path goes on from a directory is
where its own names say, read from there (`FileAt.exists_place`): below the directory, if they stay
below it.
-/

namespace SiteSnapshot

open FileTree

namespace FilePath

variable {dir path : FilePath}

/-- The names of a relative path below a directory. -/
theorem namesOf_join_of_relative (hpath : isAbsolute path = false) (dir : FilePath) :
    namesOf (join dir path) = namesOf dir ++ namesOf path := by
  by_cases hdir : dir = ""
  · subst hdir
    simp [join, hpath]
  · rw [join_eq hdir hpath, namesOf_append_slash, namesOf_stem]

/-- Below a directory a path starts where the directory does. -/
theorem isAbsolute_join_of_relative (hpath : isAbsolute path = false) (dir : FilePath) :
    isAbsolute (join dir path) = isAbsolute dir := by
  by_cases hdir : dir = ""
  · subst hdir
    rw [join, if_neg (by simp [hpath]), if_pos (by rfl), String.empty_append, hpath]
    rfl
  · obtain ⟨c, cs, hc⟩ := List.exists_cons_of_ne_nil (show dir.toList ≠ [] by simpa using hdir)
    rw [join, if_neg (by simp [hpath])]
    split_ifs <;> simp [isAbsolute, hc]

end FilePath

namespace FileTree

variable {t : FileTree} {loc place : Location} {octets : Bytes}

/-- A place with no link at it or below it. -/
def NoLinks (t : FileTree) (loc : Location) : Prop :=
  ∀ names text, t.get? (loc ++ names) ≠ some (.link text)

/-- The empty tree holds nothing. -/
theorem get?_empty {loc : Location} (hloc : loc ≠ []) : FileTree.empty.get? loc = none := by
  simp [FileTree.get?, Entry.find, FileTree.empty, hloc]

theorem noLinks_empty (loc : Location) : NoLinks .empty loc := by
  intro names text hlink
  by_cases hloc : loc ++ names = []
  · rw [hloc] at hlink
    cases hlink
  · rw [get?_empty hloc] at hlink
    cases hlink

/-- **Names that stay below a place without links** lead where they say. -/
theorem place_of_follow (hlinks : NoLinks t loc) {last : LastName} {links : ℕ}
    {dir names place : List String} {target : Target} (hnames : ∀ s ∈ names, s ≠ "")
    (hstays : Link.follow dir names = some place)
    (h : follow t last links (loc ++ dir) names = .ok target) : target.place = loc ++ place := by
  induction names generalizing dir with
  | nil =>
    rw [follow] at h
    rw [← Except.ok.inj h, ← Option.some.inj hstays]
    rfl
  | cons name rest ih =>
    obtain ⟨hname, hrest⟩ := List.forall_mem_cons.mp hnames
    rw [Link.follow] at hstays
    by_cases hdot : name = "."
    · rw [if_pos hdot] at hstays
      rw [follow_stay (Or.inr hdot)] at h
      exact ih hrest hstays h
    rw [if_neg hdot] at hstays
    by_cases hup : name = ".."
    · rw [if_pos hup] at hstays
      split_ifs at hstays with hdir
      rw [hup, follow_up, List.dropLast_append_of_ne_nil hdir] at h
      exact ih hrest hstays h
    rw [if_neg hup] at hstays
    have hreads := Reads.of_follow (not_or.mpr ⟨hname, hdot⟩) hup h
    have hshort : ¬name.utf8ByteSize > maxName := by
      intro hlong
      rw [follow_tooLong hreads hlong] at h
      cases h
    -- behind anything but a directory there are no more names
    have hend : rest = [] → loc ++ dir ++ [name] = loc ++ place := by
      rintro rfl
      rw [← Option.some.inj hstays, List.append_assoc]
    cases hget : t.get? (loc ++ dir ++ [name]) with
    | none =>
      rw [follow_free hreads hshort hget] at h
      split_ifs at h with hempty
      rw [← Except.ok.inj h]
      exact hend (List.isEmpty_iff.mp hempty)
    | some e =>
      cases e with
      | directory =>
        rw [follow_directory hreads hshort hget, List.append_assoc] at h
        exact ih hrest hstays h
      | file octets =>
        rw [follow_file hreads hshort hget] at h
        split_ifs at h with hempty
        rw [← Except.ok.inj h]
        exact hend (List.isEmpty_iff.mp hempty)
      | link text =>
        rw [List.append_assoc] at hget
        exact absurd hget (hlinks _ text)

/-- **A file with names behind those of a directory.** The directory is there, and the file is at
the place that the names behind it say, as long as they stay below some place without links. -/
theorem FileAt.exists_place {out path : FilePath} {names : List String}
    (h : FileAt t path place octets) (hcurrent : t.get? t.current = some .directory)
    (habsolute : FilePath.isAbsolute path = FilePath.isAbsolute out)
    (hnames : namesOf path = namesOf out ++ names) (hne : names ≠ []) :
    ∃ loc, LeadsTo t out loc ∧ ∀ above dir, loc = above ++ dir → NoLinks t above →
      ∀ below, Link.follow dir names = some below → place = above ++ below := by
  obtain ⟨-, -, hfollow⟩ := resolve_eq_ok_iff.mp h
  obtain ⟨hsteps, -⟩ := h.exists_stepsOf hcurrent
  have hisName : ∀ s ∈ names, s ≠ "" := fun s hs =>
    (isName_of_mem_namesOf (hnames ▸ List.mem_append_right _ hs)).1
  have horigin : t.origin path = t.origin out := by
    rw [origin, origin, habsolute]
  rw [hsteps, hnames] at hfollow
  obtain ⟨loc, hleads⟩ := exists_leadsTo_of_follow hcurrent habsolute.symm hne hfollow
  refine ⟨loc, hleads, fun above dir hloc hlinks below hbelow => ?_⟩
  obtain ⟨links, hway⟩ := exists_follow_append hleads.reached
  have hslash : names ≠ [""] := by
    rintro rfl
    exact hisName "" List.mem_cons_self rfl
  rw [horigin, hway t (.refl t) .written _ (fun heq => absurd heq hne)
    (fun heq => absurd heq hslash), hloc] at hfollow
  exact place_of_follow hlinks hisName hbelow hfollow

end FileTree

/-! ### The file of a page -/

/-- The path of the file of a page is relative, and has the segments of the page as names and
an `index.html` if need be. -/
theorem namesOf_mapPath_eq (page : String) :
    (FilePath.isAbsolute (mapPath page) = false) ∧
      ((namesOf (mapPath page) = UrlPath.segments page ∧ UrlPath.segments page ≠ []) ∨
        namesOf (mapPath page) = UrlPath.segments page ++ ["index.html"]) := by
  have hnames : ∀ s ∈ UrlPath.segments page, IsName s := by
    rw [segments_eq_namesOf]
    exact fun _ => isName_of_mem_namesOf
  rw [mapPath]
  split_ifs with hnil hext
  · rw [List.isEmpty_iff.mp hnil]
    exact ⟨by decide, Or.inr (by decide)⟩
  · exact ⟨FilePath.isAbsolute_intercalate hnames,
      Or.inl ⟨namesOf_intercalate hnames, by simpa using hnil⟩⟩
  · refine ⟨?_, Or.inr ?_⟩
    · rw [FilePath.isAbsolute_join (by decide), FilePath.isAbsolute_intercalate hnames]
    · rw [FilePath.namesOf_join (by decide), namesOf_intercalate hnames]

theorem namesOf_mapPath_ne_nil (page : String) : namesOf (mapPath page) ≠ [] := by
  rcases (namesOf_mapPath_eq page).2 with ⟨heq, hne⟩ | heq
  · rwa [heq]
  · simp [heq]

/-- **The file of a page** is at the place that its path says, read from the output directory, as
long as the path stays below some place without links. -/
theorem FileTree.FileAt.exists_pagePlace {t : FileTree} {e : Export} {page : String}
    {place : Location} {octets : Bytes} (h : FileAt t (e.pageFile page) place octets)
    (hcurrent : t.get? t.current = some .directory) :
    ∃ loc, LeadsTo t e.out loc ∧ ∀ above dir, loc = above ++ dir → NoLinks t above →
      ∀ below, Link.follow dir (namesOf (mapPath page)) = some below → place = above ++ below := by
  have hrelative := (namesOf_mapPath_eq page).1
  exact h.exists_place hcurrent (FilePath.isAbsolute_join_of_relative hrelative e.out)
    (FilePath.namesOf_join_of_relative hrelative e.out) (namesOf_mapPath_ne_nil page)

end SiteSnapshot
