import SiteSnapshot.Proofs.FileTree.Development
import SiteSnapshot.Proofs.FileTree.Writing
import SiteSnapshot.Proofs.Layout.Above

/-!
# What making directories does to a tree

The effect of making directories on any tree, with links and files wherever they may be: the tree
**grows** by directories at free places and stays as it is elsewhere (`Grows`), also when a
directory cannot be made.

This commutes with the development of a tree. A directory that a developed tree has makes no
difference to it when it is made before (`Develops.makeDirsWithin`), and it can be made before if
every link leads somewhere (`makeDirsWithin_eq_none`).
-/

namespace SiteSnapshot.FileTree

/-! ### Growing anywhere -/

/-- A tree that has **grown** by directories at free places. -/
structure Grows (s t : FileTree) : Prop where
  current : t.current = s.current
  get?_or : ∀ loc, t.get? loc = s.get? loc ∨ s.get? loc = none ∧ t.get? loc = some .directory

namespace Grows

variable {s t u : FileTree}

theorem refl (t : FileTree) : Grows t t := ⟨rfl, fun _ => Or.inl rfl⟩

/-- Growing keeps every entry. -/
theorem get? (h : Grows s t) {loc : Location} {e : Entry} (hget : s.get? loc = some e) :
    t.get? loc = some e := by
  rcases h.get?_or loc with hsame | ⟨hnone, -⟩
  · rwa [hsame]
  · rw [hnone] at hget
    cases hget

theorem trans (hst : Grows s t) (htu : Grows t u) : Grows s u := by
  refine ⟨htu.current.trans hst.current, fun loc => ?_⟩
  rcases hst.get?_or loc with hsame | ⟨hnone, hdir⟩
  · rw [← hsame]
    exact htu.get?_or loc
  · exact Or.inr ⟨hnone, htu.get? hdir⟩

/-- What is new is a directory. -/
theorem get?_of_ne_directory (h : Grows s t) {loc : Location} {e : Entry} (he : e ≠ .directory)
    (hget : t.get? loc = some e) : s.get? loc = some e := by
  rcases h.get?_or loc with hsame | ⟨-, hdir⟩
  · rwa [← hsame]
  · rw [hdir] at hget
    exact absurd (Option.some.inj hget).symm he

theorem develops (h : Grows s t) : Develops s t where
  current := h.current
  directory hget := h.get? hget
  file hget := ⟨_, h.get? hget⟩
  link := ⟨h.get?_of_ne_directory (by simp), h.get?⟩

theorem put {dir : Location} {name : String} (hnone : t.get? (dir ++ [name]) = none) :
    Grows t (t.put dir name .directory) := by
  by_cases hdir : t.get? dir = some .directory
  · refine ⟨current_put t _ _ _, fun loc => ?_⟩
    rw [get?_put hdir (by simp [hnone])]
    split_ifs with hloc
    · exact Or.inr ⟨hloc ▸ hnone, rfl⟩
    · exact Or.inl rfl
  · -- without a directory for it nothing is put
    rw [FileTree.put, dif_neg fun h => hdir h.1]
    exact .refl t

end Grows

/-- A change at one place that a developed tree has made as well. -/
theorem Develops.of_change {s s' t : FileTree} {place : Location} {e e' : Entry}
    (h : Develops s t) (hcurrent : s'.current = s.current)
    (hget : ∀ loc, s'.get? loc = if loc = place then some e else s.get? loc)
    (ht : t.get? place = some e')
    (hkind : e = .directory ∧ e' = .directory ∨ ∃ o o', e = .file o ∧ e' = .file o') :
    Develops s' t := by
  refine ⟨h.current.trans hcurrent.symm, fun {loc} hloc => ?_, fun {loc octets} hloc => ?_,
    fun {loc text} => ?_⟩
  all_goals rw [hget loc] at *; split_ifs at * with hplace
  · subst hplace
    rcases hkind with ⟨rfl, rfl⟩ | ⟨o, o', rfl, rfl⟩
    · exact ht
    · cases hloc
  · exact h.directory hloc
  · subst hplace
    rcases hkind with ⟨rfl, rfl⟩ | ⟨o, o', rfl, rfl⟩
    · cases hloc
    · exact ⟨o', ht⟩
  · exact h.file hloc
  · subst hplace
    rcases hkind with ⟨rfl, rfl⟩ | ⟨o, o', rfl, rfl⟩ <;> simp [ht]
  · exact h.link

/-! ### Paths that lead somewhere -/

section Paths

variable {s t : FileTree} {path dir : FilePath} {loc : Location} {last : LastName} {links : ℕ}
  {steps more : List String} {target : Target}

theorem get?_origin (hcurrent : t.get? t.current = some .directory) (path : FilePath) :
    t.get? (t.origin path) = some .directory := by
  rw [origin]
  split_ifs
  · rfl
  · exact hcurrent

theorem Develops.origin_eq (h : Develops s t) (path : FilePath) :
    t.origin path = s.origin path := by
  rw [origin, origin, h.current]

/-- The empty text leads nowhere. -/
theorem start_empty (t : FileTree) : t.start "" = .error .notFound := by
  have hnul : ¬"".any (· == '\x00') = true := by
    rw [String.any, String.contains_bool_eq]
    simp
  rw [start, if_neg hnul, if_pos (by decide)]

/-- A text that leads somewhere is a path. -/
theorem resolve_eq_ok_iff : t.resolve last path = .ok target ↔
    path ≠ "" ∧ pathFault? path = none ∧
      follow t last maxLinks (t.origin path) (stepsOf path) = .ok target := by
  by_cases hpath : path = ""
  · subst hpath
    rw [resolve, start_empty]
    simp [bind, Except.bind]
  · rw [resolve_eq t last hpath]
    cases pathFault? path <;> simp [hpath]

theorem resolveNew_eq_ok_iff : t.resolveNew path = .ok target ↔
    path ≠ "" ∧ pathFault? path = none ∧
      follow t .kept maxLinks (t.origin path) (namesOf path) = .ok target := by
  by_cases hpath : path = ""
  · subst hpath
    rw [resolveNew, start_empty]
    simp [bind, Except.bind]
  · rw [resolveNew_eq t hpath]
    cases pathFault? path <;> simp [hpath]

/-- At a free name there is nothing. -/
theorem get?_of_follow_free {place loc : Location} {name : String}
    (h : follow t last links place steps = .ok (.free loc name)) :
    t.get? (loc ++ [name]) = none := by
  fun_induction follow t last links place steps with
  | case1 => cases h
  | case2 links place name rest _ ih => exact ih h
  | case3 links place rest _ ih => exact ih h
  | case6 links place name rest _ _ _ _ hget _ =>
    obtain ⟨rfl, rfl⟩ := Target.free.inj (Except.ok.inj h)
    exact hget
  | case8 links place name rest _ _ _ _ _ ih => exact ih h
  | case13 place name rest _ _ _ _ text _ _ links _ ih => exact ih h
  | _ => cases h

/-- A way leads to directories at every name before its end. -/
theorem exists_leadsTo_of_follow (hcurrent : t.get? t.current = some .directory)
    (habsolute : FilePath.isAbsolute dir = FilePath.isAbsolute path) (hmore : more ≠ [])
    (h : follow t last maxLinks (t.origin path) (namesOf dir ++ more) = .ok target) :
    ∃ loc, LeadsTo t dir loc := by
  have horigin : t.origin dir = t.origin path := by rw [origin, origin, habsolute]
  obtain ⟨loc, hget, hfollow⟩ := exists_follow_of_append (get?_origin hcurrent path) hmore h
  exact ⟨loc, ⟨by rwa [horigin], hget⟩⟩

/-- The empty path leads to the current directory. -/
theorem leadsTo_empty (hcurrent : t.get? t.current = some .directory) :
    LeadsTo t "" t.current := by
  refine ⟨?_, hcurrent⟩
  rw [namesOf_empty, follow, origin, if_neg (by decide), hcurrent]
  rfl

/-- What is above a directory that a path leads to. -/
theorem LeadsTo.exists_parent (h : LeadsTo t path loc)
    (hcurrent : t.get? t.current = some .directory) (hparent : FilePath.parent? path = some dir) :
    ∃ loc, LeadsTo t dir loc := by
  obtain ⟨-, habsolute, -, name, m, n, hnames, -⟩ := FilePath.exists_of_parent? hparent
  have hreached := h.reached
  rw [hnames] at hreached
  exact exists_leadsTo_of_follow hcurrent habsolute (by simp) hreached

/-- What is found to be a directory is where the path leads, whatever links are on the way. -/
theorem isDir_iff : t.isDir path = true ↔
    ∃ loc, t.resolve .followed path = .ok (.present loc .directory) := by
  constructor
  · intro h
    rw [isDir] at h
    split at h
    · next loc hresolve => exact ⟨loc, hresolve⟩
    · cases h
  · rintro ⟨loc, hresolve⟩
    rw [isDir, hresolve]

/-- A path that is found to be a directory leads to one. -/
theorem exists_leadsTo_of_isDir (hcurrent : t.get? t.current = some .directory)
    (h : t.isDir path = true) : ∃ loc, LeadsTo t path loc := by
  obtain ⟨loc, hresolve⟩ := isDir_iff.mp h
  obtain ⟨-, -, hfollow⟩ := resolve_eq_ok_iff.mp hresolve
  by_cases hslash : endsWithSlash path = true
  · rw [stepsOf, if_pos hslash] at hfollow
    exact exists_leadsTo_of_follow hcurrent rfl (by simp) hfollow
  · rw [stepsOf, if_neg hslash, List.append_nil] at hfollow
    exact ⟨loc, hfollow, fits_of_follow (get?_origin hcurrent path) hfollow⟩

end Paths

/-! ### Making directories -/

section Making

variable {r s t t' : FileTree} {path dir : FilePath} {loc : Location} {bound : ℕ}

/-- What making one directory comes to. -/
theorem makeOne_cases (t : FileTree) (path : FilePath) :
    (∃ dir name, t.resolveNew path = .ok (.free dir name) ∧
        t.makeOne path = (t.put dir name .directory, none)) ∨
      (t.isDir path = true ∧ t.makeOne path = (t, none)) ∨
        ∃ e, t.isDir path = false ∧ t.makeDir path = .error e ∧ t.makeOne path = (t, some e) := by
  rw [makeOne, makeDir]
  cases hresolve : t.resolveNew path with
  | ok target =>
    cases target with
    | free dir name => exact Or.inl ⟨dir, name, rfl, rfl⟩
    | present loc e => cases t.isDir path <;> simp
  | error e => cases t.isDir path <;> simp

/-- What making directories comes to: the last one is made, if need be after those above it. -/
theorem makeDirsWithin_cases (bound : ℕ) (t : FileTree) {path : FilePath} (hpath : path ≠ "") :
    (t.makeDir path ≠ .error .notFound ∧ makeDirsWithin (bound + 1) t path = t.makeOne path) ∨
      (t.makeDir path = .error .notFound ∧ FilePath.parent? path = none ∧
        makeDirsWithin (bound + 1) t path = (t, some .notFound)) ∨
      ∃ parent t', t.makeDir path = .error .notFound ∧ FilePath.parent? path = some parent ∧
        ((∃ e, makeDirsWithin bound t parent = (t', some e) ∧
            makeDirsWithin (bound + 1) t path = (t', some e)) ∨
          makeDirsWithin bound t parent = (t', none) ∧
            makeDirsWithin (bound + 1) t path = t'.makeOne path) := by
  by_cases hmake : t.makeDir path = .error .notFound
  · cases hparent : FilePath.parent? path with
    | none =>
      refine Or.inr (Or.inl ⟨hmake, rfl, ?_⟩)
      have hempty : path.isEmpty = false := by simpa using hpath
      rw [makeDirsWithin, hempty, if_neg Bool.false_ne_true, hmake]
      simp only [hparent]
    | some parent =>
      obtain ⟨⟨t', failure⟩, habove⟩ : ∃ result, makeDirsWithin bound t parent = result := ⟨_, rfl⟩
      refine Or.inr (Or.inr ⟨parent, t', hmake, rfl, ?_⟩)
      cases failure with
      | some e => exact Or.inl ⟨e, habove, makeDirsWithin_of_some hpath hmake hparent habove⟩
      | none => exact Or.inr ⟨habove, makeDirsWithin_of_eq hpath hmake hparent habove⟩
  · exact Or.inl ⟨hmake, makeDirsWithin_of_ne hpath hmake bound⟩

theorem Grows.makeOne (t : FileTree) (path : FilePath) : Grows t (t.makeOne path).1 := by
  rcases makeOne_cases t path with ⟨dir, name, hresolve, h⟩ | ⟨-, h⟩ | ⟨e, -, -, h⟩
  · obtain ⟨-, -, hfollow⟩ := resolveNew_eq_ok_iff.mp hresolve
    rw [h]
    exact .put (get?_of_follow_free hfollow)
  · rw [h]
    exact .refl t
  · rw [h]
    exact .refl t

/-- **Making directories only makes directories**, as far as it comes. -/
theorem Grows.makeDirsWithin (bound : ℕ) (t : FileTree) (path : FilePath) :
    Grows t (makeDirsWithin bound t path).1 := by
  induction bound generalizing path with
  | zero => exact .refl t
  | succ bound ih =>
    by_cases hpath : path = ""
    · subst hpath
      exact .refl t
    rcases makeDirsWithin_cases bound t hpath with
      ⟨-, h⟩ | ⟨-, -, h⟩ | ⟨parent, t', -, -, ⟨e, habove, h⟩ | ⟨habove, h⟩⟩
    · rw [h]
      exact .makeOne t path
    · rw [h]
      exact .refl t
    · have hgrows := ih parent
      rw [habove] at hgrows
      rwa [h]
    · have hgrows := ih parent
      rw [habove] at hgrows
      rw [h]
      exact hgrows.trans (.makeOne t' path)

/-- A directory that a developed tree has can be made before. -/
theorem Develops.makeOne (h : Develops s t) (hcurrent : s.get? s.current = some .directory)
    (hleads : LeadsTo t path loc) : Develops (s.makeOne path).1 t := by
  rcases makeOne_cases s path with ⟨dir, name, hresolve, hmake⟩ | ⟨-, hmake⟩ | ⟨e, -, -, hmake⟩
  · obtain ⟨-, -, hfollow⟩ := resolveNew_eq_ok_iff.mp hresolve
    obtain ⟨hdir, hnone⟩ : (Target.free dir name).Fits s :=
      fits_of_follow (get?_origin hcurrent path) hfollow
    -- in the developed tree something is at the free place, and no link, so it is the directory
    obtain ⟨target, htarget, hplace⟩ := h.follow hfollow
    rw [← h.origin_eq] at htarget
    obtain ⟨loc', e, hkept⟩ := exists_follow_kept hleads.reached
    obtain rfl := Except.ok.inj (hkept.symm.trans htarget)
    have horigin : t.get? (t.origin path) = some .directory := by
      rw [h.origin_eq]
      exact h.directory (get?_origin hcurrent path)
    have hget : t.get? loc' = some e := fits_of_follow horigin hkept
    obtain rfl : loc' = dir ++ [name] := hplace
    have hfollowed := follow_followed_of_kept hkept fun loc'' text hlink => by
      obtain ⟨rfl, rfl⟩ := Target.present.inj hlink
      rw [h.link.mp hget] at hnone
      cases hnone
    obtain ⟨-, rfl⟩ := Target.present.inj (Except.ok.inj (hfollowed.symm.trans hleads.reached))
    rw [hmake]
    exact h.of_change (current_put s _ _ _) (get?_put hdir (by simp [hnone])) hget
      (Or.inl ⟨rfl, rfl⟩)
  · rwa [hmake]
  · rwa [hmake]

/-- **Directories that a developed tree has** can be made before. -/
theorem Develops.makeDirsWithin (h : Develops s t) (hcurrent : s.get? s.current = some .directory)
    (hleads : LeadsTo t path loc) (bound : ℕ) :
    Develops (makeDirsWithin bound s path).1 t := by
  induction bound generalizing path loc with
  | zero => exact h
  | succ bound ih =>
    by_cases hpath : path = ""
    · subst hpath
      exact h
    rcases makeDirsWithin_cases bound s hpath with
      ⟨-, hmake⟩ | ⟨-, -, hmake⟩ | ⟨parent, s', -, hparent, habove⟩
    · rw [hmake]
      exact h.makeOne hcurrent hleads
    · rwa [hmake]
    · obtain ⟨loc', hleads'⟩ := hleads.exists_parent (h.get?_current hcurrent) hparent
      have hdevelops := ih hleads'
      have hgrows := Grows.makeDirsWithin bound s parent
      rcases habove with ⟨e, habove, hmake⟩ | ⟨habove, hmake⟩
      · rw [habove] at hdevelops
        rwa [hmake]
      · rw [habove] at hdevelops hgrows
        rw [hmake]
        exact hdevelops.makeOne (hgrows.develops.get?_current hcurrent) hleads

/-- A directory that was made is led to. -/
theorem exists_leadsTo_of_makeOne (hcurrent : t.get? t.current = some .directory)
    (h : (t.makeOne path).2 = none) : ∃ loc, LeadsTo (t.makeOne path).1 path loc := by
  rcases makeOne_cases t path with ⟨dir, name, hresolve, hmake⟩ | ⟨hdir, hmake⟩ | ⟨e, -, -, hmake⟩
  · obtain ⟨-, -, hfollow⟩ := resolveNew_eq_ok_iff.mp hresolve
    have hfits := fits_of_follow (get?_origin hcurrent path) hfollow
    have hgrows : Grows t (t.put dir name .directory) := .put hfits.2
    have hget : (t.put dir name .directory).get? (dir ++ [name]) = some .directory := by
      rw [get?_put hfits.1 (by simp [hfits.2]), if_pos rfl]
    obtain ⟨target, htarget, hplace⟩ := hgrows.develops.follow hfollow
    have hfits' := fits_of_follow (hgrows.get? (get?_origin hcurrent path)) htarget
    rw [hmake]
    cases target with
    | free dir' name' =>
      have hplace' : dir' ++ [name'] = dir ++ [name] := hplace
      rw [← hplace', hfits'.2] at hget
      cases hget
    | present loc' e =>
      obtain rfl : loc' = dir ++ [name] := hplace
      obtain rfl := Option.some.inj (hget.symm.trans hfits')
      refine ⟨dir ++ [name], ?_, hget⟩
      rw [hgrows.develops.origin_eq]
      exact follow_followed_of_kept htarget (by simp)
  · rw [hmake]
    exact exists_leadsTo_of_isDir hcurrent hdir
  · rw [hmake] at h
    cases h

theorem exists_leadsTo_of_makeDirsWithin (hcurrent : t.get? t.current = some .directory)
    (h : (makeDirsWithin bound t path).2 = none) :
    ∃ loc, LeadsTo (makeDirsWithin bound t path).1 path loc := by
  cases bound with
  | zero => cases h
  | succ bound =>
    by_cases hpath : path = ""
    · subst hpath
      exact ⟨t.current, leadsTo_empty hcurrent⟩
    rcases makeDirsWithin_cases bound t hpath with
      ⟨-, hmake⟩ | ⟨-, -, hmake⟩ | ⟨parent, t', -, hparent, ⟨e, habove, hmake⟩ | ⟨habove, hmake⟩⟩
    · rw [hmake] at h ⊢
      exact exists_leadsTo_of_makeOne hcurrent h
    · rw [hmake] at h
      cases h
    · rw [hmake] at h
      cases h
    · have hgrows := Grows.makeDirsWithin bound t parent
      rw [habove] at hgrows
      rw [hmake] at h ⊢
      exact exists_leadsTo_of_makeOne (hgrows.develops.get?_current hcurrent) h

/-- Steps to the place itself lead nowhere else. -/
theorem follow_replicate_dot (t : FileTree) (last : LastName) (links n : ℕ) (dir : Location)
    (more : List String) :
    follow t last links dir (List.replicate n "." ++ more) = follow t last links dir more := by
  induction n with
  | zero => rfl
  | succ n ih => rw [List.replicate_succ, List.cons_append, follow_stay (Or.inr rfl), ih]

/-- Nothing is missing in front of a single name. -/
theorem follow_singleton_ne_notFound (t : FileTree) (links : ℕ) (dir : Location) (name : String) :
    follow t .kept links dir [name] ≠ .error .notFound := by
  by_cases hstay : name = "" ∨ name = "."
  · rw [follow_stay hstay, follow]
    simp
  by_cases hup : name = ".."
  · rw [hup, follow_up, follow]
    simp
  have hreads : Reads .kept name [] := .of_ne_written hstay hup (by simp)
  by_cases hlong : name.utf8ByteSize > maxName
  · rw [follow_tooLong hreads hlong]
    simp
  cases hget : t.get? (dir ++ [name]) with
  | none =>
    rw [follow_free hreads hlong hget]
    simp
  | some e =>
    cases e with
    | directory =>
      rw [follow_directory hreads hlong hget, follow]
      simp
    | file octets =>
      rw [follow_file hreads hlong hget]
      simp
    | link text =>
      rw [follow_link_kept hlong hreads hget]
      simp

/-- What is above a directory that cannot be made is missing. -/
theorem resolveNew_of_makeDir (h : t.makeDir path = .error .notFound) :
    t.resolveNew path = .error .notFound := by
  rw [makeDir] at h
  cases hresolve : t.resolveNew path with
  | ok target => cases target <;> simp [hresolve] at h
  | error e =>
    simp only [hresolve, Except.error.injEq] at h
    rw [h]

/-- Below a directory that is there, nothing is missing. -/
theorem makeDir_ne_notFound (hleads : LeadsTo t dir loc) (hpath : path ≠ "")
    (hfault : pathFault? path = none)
    (habsolute : FilePath.isAbsolute dir = FilePath.isAbsolute path) {m : ℕ} {name : String}
    (hnames : namesOf path = namesOf dir ++ (List.replicate m "." ++ [name])) :
    t.makeDir path ≠ .error .notFound := by
  intro hmake
  have hresolve := resolveNew_of_makeDir hmake
  have horigin : t.origin path = t.origin dir := by rw [origin, origin, habsolute]
  obtain ⟨links, hlinks⟩ := exists_follow_append hleads.reached
  rw [resolveNew_eq t hpath, hfault, Option.elim_none, horigin, hnames,
    hlinks t (.refl t) .kept _ (by simp) (by simp), follow_replicate_dot] at hresolve
  exact follow_singleton_ne_notFound t links loc name hresolve

section Succeeds

variable (hlinks : r.LinksLead) (hrs : Develops r s) (hst : Develops s t)

include hlinks hrs hst

theorem makeOne_eq_none (hcurrent : s.get? s.current = some .directory)
    (hleads : LeadsTo t path loc) (hpath : path ≠ "") (hfault : pathFault? path = none)
    (hmake : s.makeDir path ≠ .error .notFound) : (s.makeOne path).2 = none := by
  rcases makeOne_cases s path with ⟨dir, name, -, h⟩ | ⟨-, h⟩ | ⟨e, hdir, hfails, -⟩
  · rw [h]
  · rw [h]
  exfalso
  have hreached := hleads.reached
  obtain ⟨loc', e', hkept⟩ := exists_follow_kept hreached
  rw [hst.origin_eq] at hkept hreached
  rw [makeDir, resolveNew_eq s hpath, hfault, Option.elim_none] at hfails hmake
  rcases hst.follow_or hkept with ⟨target, htarget, -⟩ | hmissing
  · rw [htarget] at hfails
    cases target with
    | free dir name => cases hfails
    | present loc'' e'' =>
      -- something is there, and it is the directory that the developed tree has
      obtain ⟨place, entry, hfollow⟩ :=
        hlinks.exists_follow_of_kept hrs hst htarget hreached
      obtain ⟨target, hfollow', hplace⟩ := hst.follow hfollow
      obtain rfl := Except.ok.inj (hreached.symm.trans hfollow')
      obtain rfl : loc = place := hplace
      have hget : s.get? loc = some entry :=
        fits_of_follow (get?_origin hcurrent path) hfollow
      have hentry : entry = .directory := by
        cases entry with
        | directory => rfl
        | file octets =>
          obtain ⟨octets', hfile⟩ := hst.file hget
          rw [hleads.isDirectory] at hfile
          cases hfile
        | link text =>
          exact absurd hfollow (ne_link_of_follow (get?_origin hcurrent path) (by simp))
      subst hentry
      rw [LeadsTo.isDir ⟨hfollow, hget⟩ hpath hfault] at hdir
      cases hdir
  · rw [hmissing] at hmake
    exact hmake rfl

/-- **Directories that a developed tree has** are made without a failure before, if links lead
somewhere. -/
theorem makeDirsWithin_eq_none (hcurrent : s.get? s.current = some .directory)
    (hleads : LeadsTo t path loc) (hfault : pathFault? path = none)
    (htrimmed : FilePath.IsTrimmed path) (hbound : path.length < bound) :
    (makeDirsWithin bound s path).2 = none := by
  induction bound generalizing path loc with
  | zero => omega
  | succ bound ih =>
    by_cases hpath : path = ""
    · subst hpath
      rfl
    rcases makeDirsWithin_cases bound s hpath with
      ⟨hmake, h⟩ | ⟨hmake, hparent, h⟩ | ⟨parent, s', hmake, hparent, habove⟩
    · rw [h]
      exact makeOne_eq_none hlinks hrs hst hcurrent hleads hpath hfault hmake
    · -- a path without a directory above it leads to where it starts, so nothing is missing
      exfalso
      have hdots := List.eq_replicate_of_mem (FilePath.eq_dot_of_parent?_eq_none hparent)
      have hresolve := resolveNew_of_makeDir hmake
      rw [resolveNew_eq s hpath, hfault, Option.elim_none, hdots,
        ← List.append_nil (List.replicate _ _), follow_replicate_dot, follow] at hresolve
      cases hresolve
    · obtain ⟨⟨rest, hrest⟩, habsolute, htrimmed', name, m, n, hnames, hn⟩ :=
        FilePath.exists_of_parent? hparent
      obtain rfl := hn htrimmed
      have hfault' : pathFault? parent = none := pathFault?_of_append (hrest ▸ hfault)
      have hlength : parent.length < bound := by
        have hne : rest ≠ "" := by
          rintro rfl
          rw [String.append_empty] at hrest
          have hlen := congrArg List.length hnames
          simp [hrest] at hlen
        have hpos : 0 < rest.length := Nat.pos_of_ne_zero (by simpa using hne)
        rw [hrest, String.length_append] at hbound
        omega
      obtain ⟨loc', hleads'⟩ := hleads.exists_parent (hst.get?_current hcurrent) hparent
      have hmade := ih hleads' hfault' htrimmed' hlength
      rcases habove with ⟨e, habove, -⟩ | ⟨habove, h⟩
      · rw [habove] at hmade
        cases hmade
      · have hgrows := Grows.makeDirsWithin bound s parent
        have hdevelops := hst.makeDirsWithin hcurrent hleads' bound
        obtain ⟨loc'', hthere⟩ := exists_leadsTo_of_makeDirsWithin hcurrent hmade
        rw [habove] at hgrows hdevelops hthere
        rw [h]
        exact makeOne_eq_none hlinks (hrs.trans hgrows.develops) hdevelops
          (hgrows.develops.get?_current hcurrent) hleads hpath hfault
          (makeDir_ne_notFound hthere hpath hfault habsolute hnames)

end Succeeds

end Making

end SiteSnapshot.FileTree
