import SiteSnapshot.FileTree.Access
import SiteSnapshot.Proofs.FileTree.Growth

/-!
# Faults of paths

Some paths lead nowhere in any tree: those that are no paths at all (`pathFault?`), and those with
a name that is too long (`wayFault?`). Below a directory that is there, and where neither a file
nor a link is in the way, `resolve_below` says what a path comes to: it has a fault, or a
directory is missing, or the last name decides.
-/

namespace SiteSnapshot.FileTree

/-! ### Faults of a path -/

/-- Why a text is no path. -/
def pathFault? (path : FilePath) : Option FileError :=
  if '\x00' ∈ path.toList then some .nulInName
  else if path.utf8ByteSize > maxPath then some .nameTooLong
  else none

/-- Why no tree has a place for the names of a path. -/
def wayFault? (path : FilePath) (names : List String) : Option FileError :=
  (pathFault? path).or (if ∃ s ∈ names, TooLong s then some .nameTooLong else none)

theorem start_eq (t : FileTree) {path : FilePath} (hpath : path ≠ "") :
    t.start path = (pathFault? path).elim (.ok (t.origin path)) .error := by
  have hnul : path.any (· == '\x00') = true ↔ '\x00' ∈ path.toList := by
    rw [String.any, String.contains_bool_eq]
    simp
  rw [start, pathFault?, if_neg (c := path.isEmpty = true) (by simpa using hpath)]
  simp only [hnul]
  split_ifs <;> simp_all [origin]

/-- A text that is a path is read from its origin. -/
theorem resolve_eq (t : FileTree) (last : LastName) {path : FilePath} (hpath : path ≠ "") :
    t.resolve last path = (pathFault? path).elim
      (follow t last maxLinks (t.origin path) (stepsOf path)) .error := by
  rw [resolve, start_eq t hpath]
  cases pathFault? path <;> rfl

theorem resolveNew_eq (t : FileTree) {path : FilePath} (hpath : path ≠ "") :
    t.resolveNew path = (pathFault? path).elim
      (follow t .kept maxLinks (t.origin path) (namesOf path)) .error := by
  rw [resolveNew, start_eq t hpath]
  cases pathFault? path <;> rfl

/-- The start of a path is a path. -/
theorem pathFault?_of_append {path rest : FilePath} (h : pathFault? (path ++ rest) = none) :
    pathFault? path = none := by
  rw [pathFault?] at h ⊢
  split_ifs at h with hnul hlong
  rw [if_neg, if_neg]
  · rw [String.utf8ByteSize_append] at hlong
    omega
  · rw [String.toList_append, List.mem_append, not_or] at hnul
    exact hnul.1

/-- A fault on the way to a directory is a fault on the way below it. -/
theorem wayFault?_of_append {path rest : FilePath} {names more : List String} {e : FileError}
    (h : wayFault? path names = some e) (hpath : pathFault? (path ++ rest) = none)
    (hnames : names ⊆ more) : wayFault? (path ++ rest) more = some e := by
  rw [wayFault?, pathFault?_of_append hpath, Option.none_or] at h
  rw [wayFault?, hpath, Option.none_or]
  split_ifs at h with hlong
  obtain ⟨s, hs, hslong⟩ := hlong
  rwa [if_pos ⟨s, hnames hs, hslong⟩]

theorem not_tooLong_of_wayFault? {path : FilePath} {names : List String}
    (h : wayFault? path names = none) : ∀ s ∈ names, ¬TooLong s := by
  intro s hs hlong
  rw [wayFault?, if_pos ⟨s, hs, hlong⟩, Option.or_eq_none_iff] at h
  cases h.2

theorem ne_notFound_of_wayFault? {path : FilePath} {names : List String} {e : FileError}
    (h : wayFault? path names = some e) : e ≠ .notFound := by
  rintro rfl
  rw [wayFault?, pathFault?] at h
  split_ifs at h <;> simp at h

/-! ### Where a path below a directory leads -/

/-- A directory is found at its place. -/
theorem LeadsTo.resolve_followed {t : FileTree} {path : FilePath} {loc : Location}
    (h : LeadsTo t path loc) (hne : path ≠ "") (hpath : pathFault? path = none) :
    t.resolve .followed path = .ok (.present loc .directory) := by
  obtain ⟨links, hlinks⟩ := exists_follow_append h.reached
  have hend : follow t .followed links loc [] = .ok (.present loc .directory) := by
    rw [follow, h.isDirectory, Option.getD_some]
  rw [resolve_eq t .followed hne, hpath, Option.elim_none, stepsOf,
    hlinks t (.refl t) .followed _ (fun _ => rfl) (by simp)]
  split_ifs
  · rw [follow_stay (Or.inl rfl), hend]
  · exact hend

theorem LeadsTo.isDir {t : FileTree} {path : FilePath} {loc : Location} (h : LeadsTo t path loc)
    (hne : path ≠ "") (hpath : pathFault? path = none) : t.isDir path = true := by
  rw [FileTree.isDir, h.resolve_followed hne hpath]

/-- A way below a directory goes on from its place, in every tree that keeps the places. -/
theorem LeadsTo.exists_resolve_below {t : FileTree} {dir : FilePath} {loc : Location}
    {names : List String} (h : LeadsTo t dir loc) (hnames : ∀ s ∈ names, IsName s ∧ IsPlain s)
    (hne : names ≠ []) :
    ∃ links, ∀ s, KeepsPlaces t s → ∀ last, s.resolve last (dir.below names) =
      (pathFault? (dir.below names)).elim (follow s last links loc names) .error := by
  obtain ⟨links, hlinks⟩ := exists_follow_append h.reached
  refine ⟨links, fun s hkeeps last => ?_⟩
  have hisName : ∀ s ∈ names, IsName s := fun s hs => (hnames s hs).1
  obtain ⟨init, name, rfl⟩ := (List.eq_nil_or_concat' names).resolve_left hne
  have hname : IsName name := hisName name (by simp)
  have hjoin := FilePath.below_append_singleton dir init name
  have hslash : endsWithSlash (dir.below (init ++ [name])) = false := by
    rw [hjoin, FilePath.endsWithSlash_join hname]
  have horigin : s.origin (dir.below (init ++ [name])) = t.origin dir := by
    rw [origin, origin, FilePath.isAbsolute_below hisName, hkeeps.current]
  have hlast : init ++ [name] ≠ [""] := by
    intro heq
    have hmem : "" ∈ init ++ [name] := by simp [heq]
    exact (hisName _ hmem).1 rfl
  rw [resolve_eq s last (by rw [hjoin]; exact FilePath.join_ne_empty hname _), stepsOf, hslash,
    if_neg Bool.false_ne_true, List.append_nil, horigin, FilePath.namesOf_below hisName,
    hlinks s hkeeps last _ (fun heq => absurd heq hne) fun heq => absurd heq hlast]

section Below

variable {t : FileTree} {dir : FilePath} {loc : Location} {init : List String} {name : String}

/-- **What a path below a directory comes to** where neither a file nor a link is above its last
name: the path has a fault, or a directory is missing, or the last name decides. -/
theorem resolve_below (h : LeadsTo t dir loc) (hnames : ∀ s ∈ init ++ [name], IsName s ∧ IsPlain s)
    (hclear : Clear t loc init) :
    (∃ e, wayFault? (dir.below (init ++ [name])) (init ++ [name]) = some e ∧
        ∀ last, t.resolve last (dir.below (init ++ [name])) = .error e) ∨
      (pathFault? (dir.below (init ++ [name])) = none ∧ t.get? (loc ++ init) = none ∧
        ∀ last, t.resolve last (dir.below (init ++ [name])) = .error .notFound) ∨
      (wayFault? (dir.below (init ++ [name])) (init ++ [name]) = none ∧ AllDirectories t loc init ∧
        ∃ links, ∀ last, t.resolve last (dir.below (init ++ [name])) =
          follow t last links (loc ++ init) [name]) := by
  have hinit : ∀ s ∈ init, IsName s ∧ IsPlain s :=
    fun s hs => hnames s (List.mem_append_left _ hs)
  obtain ⟨hname, hplain⟩ := hnames name (by simp)
  -- `links` is what the links of `dir` itself leave over; below `dir` no link is met
  obtain ⟨links, hlinks⟩ := h.exists_resolve_below hnames (by simp)
  have hresolve := hlinks t (.refl t)
  generalize dir.below (init ++ [name]) = path at hresolve ⊢
  cases hfault : pathFault? path with
  | some e =>
    refine Or.inl ⟨e, by rw [wayFault?, hfault]; rfl, fun last => ?_⟩
    rw [hresolve, hfault, Option.elim_some]
  | none =>
    have hfollow : ∀ last, t.resolve last path = follow t last links loc (init ++ [name]) := by
      intro last
      rw [hresolve, hfault, Option.elim_none]
    have hway : (∃ s ∈ init ++ [name], TooLong s) →
        wayFault? path (init ++ [name]) = some .nameTooLong := by
      intro hex
      rw [wayFault?, hfault, Option.none_or, if_pos hex]
    rcases follow_append_singleton h.isDirectory hinit hname hclear with
      ⟨hex, hall⟩ | ⟨hnone, hall⟩ | ⟨hshort, hdirs, hall⟩
    · exact Or.inl ⟨_, hway hex, fun last => (hfollow last).trans (hall last links)⟩
    · exact Or.inr (Or.inl ⟨rfl, hnone, fun last => (hfollow last).trans (hall last links)⟩)
    -- the directories are there, and only the last name can still be too long
    · by_cases hlast : TooLong name
      · refine Or.inl ⟨_, hway ⟨name, by simp, hlast⟩, fun last => ?_⟩
        rw [hfollow, hall, follow_tooLong (.of_isPlain hname hplain (by simp)) hlast]
      · refine Or.inr (Or.inr
          ⟨?_, hdirs, links, fun last => (hfollow last).trans (hall last links)⟩)
        rw [wayFault?, hfault, Option.none_or, if_neg]
        rintro ⟨s, hs, hslong⟩
        rcases List.mem_append.mp hs with hs | hs
        · exact hshort s hs hslong
        · exact hlast (List.mem_singleton.mp hs ▸ hslong)

/-- Below a directory, what is made is looked for like anything else. -/
theorem resolveNew_below (hname : IsName name) :
    t.resolveNew (dir.below (init ++ [name])) = t.resolve .kept (dir.below (init ++ [name])) := by
  have hslash : endsWithSlash (dir.below (init ++ [name])) = false := by
    rw [FilePath.below_append_singleton]
    exact FilePath.endsWithSlash_join hname _
  rw [resolveNew, resolve, stepsOf, hslash, if_neg Bool.false_ne_true, List.append_nil]

end Below

end SiteSnapshot.FileTree
