import SiteSnapshot.Proofs.FileTree.Faults

/-!
# Making directories and writing files

What the two writing operations do below a directory that is there, as long as neither a file nor
a link is in the way. Whether they succeed is decided by the path alone and not by the tree: with a
fault they fail with it everywhere. Without one, `makeDirs` leaves every directory of the way in
place (`makeDirs_below`), and after that `write` puts the file (`write_below`) and `read` shows it
(`read_below`).
-/

namespace SiteSnapshot.FileTree

/-! ### Making directories -/

section Below

variable {t : FileTree} {dir : FilePath} {loc : Location} {init : List String} {name : String}

/-- **Making one directory.** It fails with the fault of its path or for want of the directory
above it, finds itself there, or is made. -/
theorem makeDir_below (h : LeadsTo t dir loc) (hnames : ∀ s ∈ init ++ [name], IsName s ∧ IsPlain s)
    (hclear : Clear t loc (init ++ [name])) :
    (∃ e, wayFault? (dir.below (init ++ [name])) (init ++ [name]) = some e ∧
        t.makeDir (dir.below (init ++ [name])) = .error e ∧
          t.isDir (dir.below (init ++ [name])) = false) ∨
      (pathFault? (dir.below (init ++ [name])) = none ∧ t.get? (loc ++ init) = none ∧
        t.makeDir (dir.below (init ++ [name])) = .error .notFound) ∨
      (wayFault? (dir.below (init ++ [name])) (init ++ [name]) = none ∧
        AllDirectories t loc (init ++ [name]) ∧
          t.makeDir (dir.below (init ++ [name])) = .error .alreadyExists ∧
            t.isDir (dir.below (init ++ [name])) = true) ∨
      (wayFault? (dir.below (init ++ [name])) (init ++ [name]) = none ∧
        ∃ t', t.makeDir (dir.below (init ++ [name])) = .ok t' ∧
          GrowsTo t loc (init ++ [name]) t' ∧ AllDirectories t' loc (init ++ [name])) := by
  obtain ⟨hname, hplain⟩ := hnames name (by simp)
  rw [makeDir, resolveNew_below hname, isDir]
  rcases resolve_below h hnames (hclear.of_prefix (List.prefix_append init [name])) with
    ⟨e, hfault, hresolve⟩ | ⟨hpath, hnone, hresolve⟩ | ⟨hfault, hdirs, links, hresolve⟩
  · rw [hresolve, hresolve]
    exact Or.inl ⟨e, hfault, rfl, rfl⟩
  · rw [hresolve]
    exact Or.inr (Or.inl ⟨hpath, hnone, rfl⟩)
  · have hreads : ∀ last, Reads last name [] := fun _ => .of_isPlain hname hplain (by simp)
    have hshort := not_tooLong_of_wayFault? hfault name (by simp)
    rw [hresolve, hresolve]
    -- the last place is free or a directory, since nothing else may be in the way
    rcases hclear (init ++ [name]) (by simp) List.prefix_rfl with hget | hget
    · have hgrows := GrowsTo.put (hdirs init List.prefix_rfl) hget
      have hlast : (t.put (loc ++ init) name .directory).get? (loc ++ (init ++ [name])) =
          some .directory := by
        rw [← List.append_assoc] at hget ⊢
        rw [get?_put (hdirs init List.prefix_rfl) (by rw [hget]; simp), if_pos rfl]
      rw [← List.append_assoc] at hget
      rw [follow_free (hreads _) hshort hget]
      exact Or.inr (Or.inr (Or.inr ⟨hfault, _, rfl, hgrows,
        (hgrows.allDirectories hdirs).append_singleton hlast⟩))
    · have hdirs' := hdirs.append_singleton hget
      rw [← List.append_assoc] at hget
      rw [follow_directory (hreads _) hshort hget, follow_directory (hreads _) hshort hget, follow,
        follow, hget]
      exact Or.inr (Or.inr (Or.inl ⟨hfault, hdirs', rfl, rfl⟩))

/-- What making directories on the way down from a place comes to: the tree grows by some of
them, by all of them unless the path has a fault, and then that is the failure. -/
structure MakesWay (t : FileTree) (loc : Location) (path : FilePath) (names : List String)
    (result : FileTree × Option FileError) : Prop where
  grows : GrowsTo t loc names result.1
  failure : result.2 = wayFault? path names
  made : result.2 = none → AllDirectories result.1 loc names

theorem MakesWay.of_growsTo {t t' : FileTree} {loc : Location} {path : FilePath}
    {names : List String} {result : FileTree × Option FileError}
    (h : MakesWay t' loc path names result) (hgrows : GrowsTo t loc names t') :
    MakesWay t loc path names result :=
  ⟨hgrows.trans h.grows, h.failure, h.made⟩

/-- Makes one directory, for which it is no failure that it is there. -/
def makeOne (t : FileTree) (path : FilePath) : FileTree × Option FileError :=
  match t.makeDir path with
  | .ok t' => (t', none)
  | .error e => (t, if t.isDir path then none else some e)

/-- Unless the directory above is missing, making directories is making one. -/
theorem makeDirsWithin_of_ne {path : FilePath} (hpath : path ≠ "")
    (hmake : t.makeDir path ≠ .error .notFound) (bound : ℕ) :
    makeDirsWithin (bound + 1) t path = t.makeOne path := by
  have hempty : path.isEmpty = false := by simpa using hpath
  rw [makeDirsWithin, hempty, if_neg Bool.false_ne_true, makeOne]
  cases hresult : t.makeDir path with
  | ok t' => rfl
  | error e =>
    rw [hresult] at hmake
    cases e <;> first | exact absurd rfl hmake | rfl

section Missing

variable {t' : FileTree} {path parent : FilePath} (hpath : path ≠ "")
  (hmake : t.makeDir path = .error .notFound) (hparent : FilePath.parent? path = some parent)
  {bound : ℕ}

include hpath hmake hparent

/-- If the directory above is missing, it is made first. -/
theorem makeDirsWithin_of_eq (habove : makeDirsWithin bound t parent = (t', none)) :
    makeDirsWithin (bound + 1) t path = t'.makeOne path := by
  have hempty : path.isEmpty = false := by simpa using hpath
  rw [makeDirsWithin, hempty, if_neg Bool.false_ne_true, hmake]
  simp only [hparent, habove]
  rfl

/-- If the directory above cannot be made, no more is tried. -/
theorem makeDirsWithin_of_some {e : FileError}
    (habove : makeDirsWithin bound t parent = (t', some e)) :
    makeDirsWithin (bound + 1) t path = (t', some e) := by
  have hempty : path.isEmpty = false := by simpa using hpath
  rw [makeDirsWithin, hempty, if_neg Bool.false_ne_true, hmake]
  simp only [hparent, habove]

end Missing

/-- The last directory of a way, unless the one above it is missing. -/
theorem makesWay_of_ne (h : LeadsTo t dir loc) (hnames : ∀ s ∈ init ++ [name], IsName s ∧ IsPlain s)
    (hclear : Clear t loc (init ++ [name]))
    (hmake : t.makeDir (dir.below (init ++ [name])) ≠ .error .notFound) :
    MakesWay t loc (dir.below (init ++ [name])) (init ++ [name])
      (t.makeOne (dir.below (init ++ [name]))) := by
  rw [makeOne]
  rcases makeDir_below h hnames hclear with
    ⟨e, hfault, hresult, hnot⟩ | ⟨-, -, hresult⟩ | ⟨hfault, hdirs, hresult, hthere⟩ |
      ⟨hfault, t', hresult, hgrows, hdirs⟩
  · rw [hresult, hnot]
    exact ⟨.refl t loc _, hfault.symm, by simp⟩
  · exact absurd hresult hmake
  · rw [hresult, hthere]
    exact ⟨.refl t loc _, hfault.symm, fun _ => hdirs⟩
  · rw [hresult]
    exact ⟨hgrows, hfault.symm, fun _ => hdirs⟩

/-- What a missing directory says of a path. -/
theorem eq_none_of_makeDir_below (h : LeadsTo t dir loc)
    (hnames : ∀ s ∈ init ++ [name], IsName s ∧ IsPlain s) (hclear : Clear t loc (init ++ [name]))
    (hmake : t.makeDir (dir.below (init ++ [name])) = .error .notFound) :
    pathFault? (dir.below (init ++ [name])) = none ∧ t.get? (loc ++ init) = none := by
  rcases makeDir_below h hnames hclear with
    ⟨e, hfault, hresult, -⟩ | ⟨hpath, hnone, -⟩ | ⟨-, -, hresult, -⟩ | ⟨-, t', hresult, -⟩
  · rw [hmake] at hresult
    exact absurd (Except.error.inj hresult).symm (ne_notFound_of_wayFault? hfault)
  · exact ⟨hpath, hnone⟩
  · rw [hmake] at hresult
    cases hresult
  · rw [hmake] at hresult
    cases hresult

end Below

/-- **Making directories** does so within any bound that allows for every name. -/
theorem makeDirsWithin_below {t : FileTree} {dir : FilePath} {loc : Location} {names : List String}
    (h : LeadsTo t dir loc) (hnames : ∀ s ∈ names, IsName s ∧ IsPlain s) (hne : names ≠ [])
    (hclear : Clear t loc names) {bound : ℕ} (hbound : names.length ≤ bound) :
    MakesWay t loc (dir.below names) names (makeDirsWithin bound t (dir.below names)) := by
  induction names using List.reverseRecOn generalizing bound with
  | nil => exact absurd rfl hne
  | append_singleton init name ih =>
    obtain ⟨hname, hplain⟩ := hnames name (by simp)
    have hinit : ∀ s ∈ init, IsName s ∧ IsPlain s :=
      fun s hs => hnames s (List.mem_append_left _ hs)
    have hpath : dir.below (init ++ [name]) ≠ "" := by
      rw [FilePath.below_append_singleton]
      exact FilePath.join_ne_empty hname _
    have hlen : init.length + 1 ≤ bound := by simpa using hbound
    obtain ⟨bound, rfl⟩ : ∃ n, bound = n + 1 := ⟨bound - 1, by omega⟩
    by_cases hmake : t.makeDir (dir.below (init ++ [name])) = .error .notFound
    -- the directory above is missing: it is made first, and then this one is tried again
    · obtain ⟨hfault, hnone⟩ := eq_none_of_makeDir_below h hnames hclear hmake
      have hne' : init ≠ [] := by
        rintro rfl
        rw [List.append_nil, h.isDirectory] at hnone
        cases hnone
      have hparent : FilePath.parent? (dir.below (init ++ [name])) = some (dir.below init) := by
        rw [FilePath.below_append_singleton, FilePath.parent?_join hname hplain.1,
          FilePath.top_below hinit hne']
      have habove := ih hinit hne' (hclear.of_prefix (List.prefix_append init [name]))
        (Nat.le_of_succ_le_succ hlen)
      rcases hresult : makeDirsWithin bound t (dir.below init) with ⟨t', failure⟩
      rw [hresult] at habove
      have hgrows := habove.grows.mono (List.prefix_append init [name])
      cases failure with
      | some e =>
        rw [makeDirsWithin_of_some hpath hmake hparent hresult]
        -- the path above is the start of this one, so its fault is the fault of this one
        obtain ⟨rest, hrest⟩ := FilePath.exists_join_eq_top_append hname (dir.below init)
        rw [FilePath.top_below hinit hne', ← FilePath.below_append_singleton] at hrest
        rw [hrest] at hfault ⊢
        exact ⟨hgrows, (wayFault?_of_append habove.failure.symm hfault (by simp)).symm, by simp⟩
      | none =>
        have hclear' := hgrows.clear hclear
        have h' := h.of_keepsPlaces hgrows.keepsPlaces
        -- the second try cannot miss the directory above, which the first has made
        have hthere : t'.makeDir (dir.below (init ++ [name])) ≠ .error .notFound := by
          intro hmissing
          have hdir := habove.made rfl init List.prefix_rfl
          rw [(eq_none_of_makeDir_below h' hnames hclear' hmissing).2] at hdir
          cases hdir
        rw [makeDirsWithin_of_eq hpath hmake hparent hresult]
        exact (makesWay_of_ne h' hnames hclear' hthere).of_growsTo hgrows
    · rw [makeDirsWithin_of_ne hpath hmake]
      exact makesWay_of_ne h hnames hclear hmake

/-- A directory that is there is not made again. -/
theorem makesWay_of_leadsTo {t : FileTree} {path : FilePath} {loc : Location}
    (h : LeadsTo t path loc) (hne : path ≠ "") : MakesWay t loc path [] (t.makeDirs path) := by
  have hway : wayFault? path [] = pathFault? path := by simp [wayFault?]
  rw [makeDirs]
  cases hfault : pathFault? path with
  | some e =>
    have hmake : t.makeDir path = .error e := by
      rw [makeDir, resolveNew_eq t hne, hfault, Option.elim_some]
    have hdir : t.isDir path = false := by
      rw [isDir, resolve_eq t .followed hne, hfault, Option.elim_some]
    have hmissing : t.makeDir path ≠ .error .notFound := by
      rw [hmake]
      exact fun heq => ne_notFound_of_wayFault? (hway.trans hfault) (Except.error.inj heq)
    rw [makeDirsWithin_of_ne hne hmissing, makeOne, hmake, hdir]
    exact ⟨.refl t loc _, (hway.trans hfault).symm, by simp⟩
  | none =>
    -- a link at the end of `path` also counts as there, so the last name is not followed here
    obtain ⟨loc', e, hkept⟩ := exists_follow_kept h.reached
    have hmake : t.makeDir path = .error .alreadyExists := by
      rw [makeDir, resolveNew_eq t hne, hfault, Option.elim_none, hkept]
    rw [makeDirsWithin_of_ne hne (by rw [hmake]; simp), makeOne, hmake, h.isDir hne hfault]
    refine ⟨.refl t loc _, (hway.trans hfault).symm, fun _ above habove => ?_⟩
    rw [List.prefix_nil.mp habove, List.append_nil]
    exact h.isDirectory

/-- **Making the directory of a joined name**, which is that of the names before it. -/
theorem makeDirs_below {t : FileTree} {dir : FilePath} {loc : Location} {names : List String}
    (h : LeadsTo t dir loc) (hnames : ∀ s ∈ names, IsName s ∧ IsPlain s)
    (hclear : Clear t loc names) (hne : (dir.below names).top ≠ "") :
    MakesWay t loc (dir.below names).top names (t.makeDirs (dir.below names).top) := by
  by_cases hnil : names = []
  · -- the directory itself is there, however its path ends
    subst hnil
    exact makesWay_of_leadsTo h.top hne
  · rw [FilePath.top_below hnames hnil]
    refine makeDirsWithin_below h hnames hnil hclear ?_
    have hlen := length_namesOf_le (dir.below names)
    rw [FilePath.namesOf_below (fun s hs => (hnames s hs).1), List.length_append] at hlen
    omega

/-! ### Writing and reading a file -/

section File

variable {t : FileTree} {dir : FilePath} {loc : Location} {init : List String} {name : String}

/-- Where a file can be put: below directories, at a free name or in place of a file. -/
structure HasRoom (t : FileTree) (loc : Location) (init : List String) (name : String) : Prop where
  dirs : AllDirectories t loc init
  last : t.get? (loc ++ (init ++ [name])) = none ∨
    ∃ octets, t.get? (loc ++ (init ++ [name])) = some (.file octets)

/-- A file that is put where there is room shows there and nowhere else. -/
theorem HasRoom.get?_put (h : HasRoom t loc init name) (octets : Bytes) (place : Location) :
    (t.put (loc ++ init) name (.file octets)).get? place =
      if place = loc ++ (init ++ [name]) then some (.file octets) else t.get? place := by
  have hlast : t.get? (loc ++ init ++ [name]) ≠ some .directory := by
    rw [List.append_assoc]
    rcases h.last with hget | ⟨old, hget⟩ <;> simp [hget]
  rw [FileTree.get?_put (h.dirs init List.prefix_rfl) hlast, List.append_assoc]

theorem HasRoom.keepsPlaces (h : HasRoom t loc init name) {octets : Bytes} :
    KeepsPlaces t (t.put (loc ++ init) name (.file octets)) := by
  refine ⟨current_put t _ _ _, fun place e hfile hget => ?_⟩
  rw [h.get?_put]
  split_ifs with hplace
  · rw [hplace] at hget
    rcases h.last with hnone | ⟨old, hold⟩
    · rw [hnone] at hget
      cases hget
    · rw [hold] at hget
      exact absurd (Option.some.inj hget).symm (hfile old)
  · exact hget

/-- **Writing a file** where there is room puts it there, unless the path has a fault. -/
theorem write_below (h : LeadsTo t dir loc) (hnames : ∀ s ∈ init ++ [name], IsName s ∧ IsPlain s)
    (hroom : HasRoom t loc init name) (octets : Bytes) :
    t.write (dir.below (init ++ [name])) octets =
      (wayFault? (dir.below (init ++ [name])) (init ++ [name])).elim
        (.ok (t.put (loc ++ init) name (.file octets))) .error := by
  obtain ⟨hname, hplain⟩ := hnames name (by simp)
  rw [write]
  rcases resolve_below h hnames hroom.dirs.clear with
    ⟨e, hfault, hresolve⟩ | ⟨-, hnone, -⟩ | ⟨hfault, -, links, hresolve⟩
  · rw [hresolve, hfault, Option.elim_some]
  · rw [hroom.dirs init List.prefix_rfl] at hnone
    cases hnone
  · have hreads : Reads .written name [] := .of_isPlain hname hplain (by simp)
    have hshort := not_tooLong_of_wayFault? hfault name (by simp)
    rw [hresolve, hfault, Option.elim_none]
    rcases hroom.last with hget | ⟨old, hget⟩
    · rw [← List.append_assoc] at hget
      rw [follow_free hreads hshort hget]
      rfl
    · rw [← List.append_assoc] at hget
      rw [follow_file hreads hshort hget]
      simp

/-- **Reading a file** shows what is there, unless the path has a fault. -/
theorem read_below_eq (h : LeadsTo t dir loc)
    (hnames : ∀ s ∈ init ++ [name], IsName s ∧ IsPlain s) {octets : Bytes}
    (hget : t.get? (loc ++ (init ++ [name])) = some (.file octets)) :
    t.read (dir.below (init ++ [name])) =
      (wayFault? (dir.below (init ++ [name])) (init ++ [name])).elim (.ok octets) .error := by
  obtain ⟨hname, hplain⟩ := hnames name (by simp)
  have hdirs := allDirectories_of_get? hget
  rw [read]
  rcases resolve_below h hnames hdirs.clear with
    ⟨e, hfault, hresolve⟩ | ⟨-, hnone, -⟩ | ⟨hfault, -, links, hresolve⟩
  · rw [hresolve, hfault, Option.elim_some]
  · rw [hdirs init List.prefix_rfl] at hnone
    cases hnone
  · rw [← List.append_assoc] at hget
    rw [hresolve, hfault, follow_file (.of_isPlain hname hplain (by simp))
      (not_tooLong_of_wayFault? hfault name (by simp)) hget]
    rfl

theorem read_below (h : LeadsTo t dir loc) (hnames : ∀ s ∈ init ++ [name], IsName s ∧ IsPlain s)
    (hfault : wayFault? (dir.below (init ++ [name])) (init ++ [name]) = none) {octets : Bytes}
    (hget : t.get? (loc ++ (init ++ [name])) = some (.file octets)) :
    t.read (dir.below (init ++ [name])) = .ok octets := by
  rw [read_below_eq h hnames hget, hfault, Option.elim_none]

end File

end SiteSnapshot.FileTree
