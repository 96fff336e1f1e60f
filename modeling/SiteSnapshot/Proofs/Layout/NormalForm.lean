import SiteSnapshot.Proofs.Layout.Above

/-!
# Normal forms of URL paths

A page may be asked for by many paths, with slashes doubled, left out in front or added at the end.
All that is done with a path is decided by its segments: its depth by definition, its normal form,
which writes each segment behind one slash, and the file of its page. For the file this is so
because the extension of a path is that of its last name, where steps to the place itself do not
count (`FilePath.extension?_eq`), whatever slashes stand around it.

`UrlPath.normalize_canonical` puts these together.
-/

namespace SiteSnapshot

open FileTree

/-! ### The extension of a path -/

/-- **The extension of a path** is that of its last name that is no step to the place itself. -/
theorem FilePath.extension?_eq (path : FilePath) :
    extension? path = ((namesOf path).filter (· ≠ ".")).getLast?.bind nameExtension? := by
  -- a path of such steps only has no extension
  have hdots : (∀ s ∈ namesOf path, s = ".") → (namesOf path).filter (· ≠ ".") = [] := by
    intro h
    rw [List.filter_eq_nil_iff]
    simpa using h
  rw [extension?, fileName?]
  cases hsplit : splitLast path with
  | none =>
    have hparent : parent? path = none := by rw [parent?, hsplit, Option.map_none]
    rw [hdots (eq_dot_of_parent?_eq_none hparent)]
    rfl
  | some last =>
    obtain ⟨dir, name⟩ := last
    by_cases hdot : name = "."
    · subst hdot
      rw [hdots (eq_dot_of_splitLast hsplit)]
      rfl
    · obtain ⟨-, -, -, -, m, n, hnames, -⟩ := exists_of_splitLast hsplit
      have hlast : ((namesOf path).filter (· ≠ ".")).getLast? = some name := by
        simp [hnames, hdot]
      rw [hlast, Option.bind_some]
      by_cases hup : name = ".."
      · subst hup
        rfl
      · dsimp only
        rw [if_neg (not_or.mpr ⟨hup, hdot⟩), Option.bind_some]

namespace UrlPath

variable {path other : String}

/-! ### The file of a page -/

/-- **The file of a page** is decided by the segments of its path. -/
theorem mapPath_congr (h : segments other = segments path) : mapPath other = mapPath path := by
  have hextension : FilePath.extension? other = FilePath.extension? path := by
    rw [FilePath.extension?_eq, FilePath.extension?_eq, ← segments_eq_namesOf,
      ← segments_eq_namesOf, h]
  rw [mapPath, mapPath, h, hextension]

/-! ### The normal form -/

theorem segments_normalize (path : String) : segments (normalize path) = segments path := by
  rw [segments_eq_namesOf, segments_eq_namesOf, namesOf_normalize]

theorem normalize_eq_iff : normalize other = normalize path ↔ segments other = segments path := by
  refine ⟨fun h => ?_, fun h => by rw [normalize, normalize, h]⟩
  rw [← segments_normalize other, h, segments_normalize]

theorem toList_normalize (path : String) :
    (normalize path).toList = '/' :: ['/'].intercalate ((segments path).map String.toList) := by
  simp [normalize]

/-- **Behind a slash of a normal form** a segment starts, unless the path has none. -/
theorem exists_of_normalize_eq_append {before behind : List Char}
    (h : (normalize path).toList = before ++ '/' :: behind) (hne : segments path ≠ []) :
    ∃ c rest, behind = c :: rest ∧ c ≠ '/' := by
  have hnames : ∀ s ∈ segments path, IsName s := by
    rw [segments_eq_namesOf]
    exact fun _ => isName_of_mem_namesOf
  have hparts : ∀ part ∈ (segments path).map String.toList, '/' ∉ part :=
    List.forall_mem_map.mpr fun s hs => (hnames s hs).2
  -- splitting the text at its slashes gives nothing, and then the segments
  have hsplit : before.splitOn '/' ++ behind.splitOn '/' =
      [] :: (segments path).map String.toList := by
    have htext : (normalize path).toList =
        [] ++ '/' :: ['/'].intercalate ((segments path).map String.toList) := toList_normalize path
    rw [← List.splitOn_append_cons_self, ← h, htext, List.splitOn_append_cons_self,
      List.splitOn_intercalate '/' hparts (by simpa using hne)]
    rfl
  have hnotEmpty : [] ∉ behind.splitOn '/' := by
    obtain ⟨first, rest, hfirst⟩ :=
      List.exists_cons_of_ne_nil (List.splitOn_ne_nil '/' before)
    rw [hfirst, List.cons_append] at hsplit
    intro hmem
    have hmem' : [] ∈ (segments path).map String.toList := by
      rw [← (List.cons.inj hsplit).2]
      exact List.mem_append_right rest hmem
    obtain ⟨s, hs, hempty⟩ := List.mem_map.mp hmem'
    exact (hnames s hs).1 (String.toList_eq_nil_iff.mp hempty)
  cases behind with
  | nil => exact absurd (List.mem_singleton.mpr rfl) hnotEmpty
  | cons c rest =>
    refine ⟨c, rest, rfl, ?_⟩
    rintro rfl
    have hstart : ('/' :: rest).splitOn '/' = [[]] ++ rest.splitOn '/' :=
      List.splitOn_append_cons_self [] rest
    rw [hstart] at hnotEmpty
    exact hnotEmpty (by simp)

/-- The segments are the parts between slashes that are not empty. -/
theorem segments_eq_parts (path : String) :
    segments path = ((path.toList.splitOn '/').filter (· ≠ [])).map String.ofList := by
  rw [segments, splitSlash_eq_splitOn]
  refine congrArg _ (List.filter_congr fun part _ => ?_)
  cases part <;> rfl

theorem normalize_of_segments_eq_nil (h : segments path = []) : normalize path = "/" := by
  rw [normalize, h]
  rfl

/-- **Only the segments of a path count.** The normal form of a path starts with a slash, has no two
slashes in a row and does not end with one unless it is a single slash; it is its own normal form;
and it is that of all paths with the same parts between slashes, empty ones left out. A path and its
normal form have the same depth and, to the letter, the same file for their page. -/
theorem normalize_canonical (path : String) :
    (normalize path).toList.head? = some '/' ∧
    ¬['/', '/'] <:+: (normalize path).toList ∧
    ((normalize path).toList.getLast? = some '/' → normalize path = "/") ∧
    normalize (normalize path) = normalize path ∧
    (∀ other, normalize other = normalize path ↔
      (other.toList.splitOn '/').filter (· ≠ []) = (path.toList.splitOn '/').filter (· ≠ [])) ∧
    depth (normalize path) = depth path ∧ mapPath (normalize path) = mapPath path := by
  refine ⟨?_, ?_, fun hlast => ?_, normalize_normalize path, fun other => ?_, ?_, ?_⟩
  · rw [toList_normalize, List.head?_cons]
  · rintro ⟨before, behind, htext⟩
    by_cases hnil : segments path = []
    · have hlen := congrArg List.length htext
      rw [normalize_of_segments_eq_nil hnil] at hlen
      simp at hlen
      omega
    · have hslashes : (normalize path).toList = before ++ '/' :: ('/' :: behind) := by
        rw [← htext]
        simp
      obtain ⟨c, rest, hrest, hslash⟩ := exists_of_normalize_eq_append hslashes hnil
      exact hslash (List.cons.inj hrest).1.symm
  · by_contra hroot
    have hne : segments path ≠ [] := fun hnil => hroot (normalize_of_segments_eq_nil hnil)
    obtain ⟨before, htext⟩ := List.getLast?_eq_some_iff.mp hlast
    obtain ⟨c, rest, hrest, -⟩ := exists_of_normalize_eq_append htext hne
    cases hrest
  · rw [normalize_eq_iff, segments_eq_parts, segments_eq_parts]
    exact (List.map_injective_iff.mpr fun _ _ => String.ofList_injective).eq_iff
  · rw [depth, depth, segments_normalize]
  · exact mapPath_congr (segments_normalize path)

/-- The last segment of this path that is no step to the place itself has an extension, so the path
is that of a file, in its normal form too. -/
example :
    normalize "//docs//a.b/.//" = "/docs/a.b/." ∧ mapPath "//docs//a.b/.//" = "docs/a.b/." := by
  decide

end UrlPath

end SiteSnapshot
