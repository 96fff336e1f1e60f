import SiteSnapshot.Proofs.FileTree.Directories

/-!
# What writing files does to a tree

Writing a file changes any tree at one place only, the one that the path of the file leads to
(`exists_of_write`), and afterwards the path leads to that file (`FileAt`).

This commutes with the development of a tree. A file that a developed tree has can be written
before, whatever its contents are then (`Develops.write`), and it is written without a failure
before, once its directory is there and if every link leads somewhere (`exists_write_eq`).
-/

namespace SiteSnapshot.FileTree

/-- A path under which a file is written at a place. -/
def FileAt (t : FileTree) (path : FilePath) (place : Location) (octets : Bytes) : Prop :=
  t.resolve .written path = .ok (.present place (.file octets))

/-- A tree in which a file was put at a place, where there was a file or nothing. -/
structure Puts (t : FileTree) (place : Location) (octets : Bytes) (t' : FileTree) : Prop where
  current : t'.current = t.current
  get?_eq : ∀ loc, t'.get? loc = if loc = place then some (.file octets) else t.get? loc
  free : t.get? place = none ∨ ∃ old, t.get? place = some (.file old)

theorem Puts.of_fits {t : FileTree} {dir : Location} {name : String}
    (hdir : t.get? dir = some .directory)
    (hfree : t.get? (dir ++ [name]) = none ∨ ∃ old, t.get? (dir ++ [name]) = some (.file old))
    (octets : Bytes) : Puts t (dir ++ [name]) octets (t.put dir name (.file octets)) := by
  refine ⟨current_put t _ _ _, get?_put hdir ?_, hfree⟩
  rcases hfree with hnone | ⟨old, hold⟩
  · simp [hnone]
  · simp [hold]

theorem Puts.develops {t t' : FileTree} {place : Location} {octets : Bytes}
    (h : Puts t place octets t') : Develops t t' := by
  refine ⟨h.current, fun {loc} hloc => ?_, fun {loc old} hloc => ?_, fun {loc text} => ?_⟩
  all_goals rw [h.get?_eq loc]; split_ifs with hplace
  · subst hplace
    rcases h.free with hnone | ⟨old, hold⟩ <;> simp_all
  · exact hloc
  · exact ⟨octets, rfl⟩
  · exact ⟨old, hloc⟩
  · subst hplace
    rcases h.free with hnone | ⟨old, hold⟩ <;> simp_all
  · rfl

section Writing

variable {r s t t' : FileTree} {path dir : FilePath} {place loc : Location} {octets old : Bytes}
  {target : Target}

theorem FileAt.get? (h : FileAt t path place octets)
    (hcurrent : t.get? t.current = some .directory) : t.get? place = some (.file octets) := by
  obtain ⟨-, -, hfollow⟩ := resolve_eq_ok_iff.mp h
  exact fits_of_follow (get?_origin hcurrent path) hfollow

/-- A path has at most one file. -/
theorem FileAt.eq {place' : Location} {octets' : Bytes} (h : FileAt t path place octets)
    (h' : FileAt t path place' octets') : place = place' ∧ octets = octets' := by
  obtain ⟨rfl, hfile⟩ := Target.present.inj (Except.ok.inj (h.symm.trans h'))
  exact ⟨rfl, Entry.file.inj hfile⟩

theorem Develops.resolve (h : Develops s t) {last : LastName}
    (hs : s.resolve last path = .ok target) :
    ∃ target', t.resolve last path = .ok target' ∧ target'.place = target.place := by
  obtain ⟨hpath, hfault, hfollow⟩ := resolve_eq_ok_iff.mp hs
  obtain ⟨target', hfollow', hplace⟩ := h.follow hfollow
  rw [← h.origin_eq] at hfollow'
  exact ⟨target', resolve_eq_ok_iff.mpr ⟨hpath, hfault, hfollow'⟩, hplace⟩

theorem fits_of_resolve (hcurrent : t.get? t.current = some .directory) {last : LastName}
    (h : t.resolve last path = .ok target) : target.Fits t := by
  obtain ⟨-, -, hfollow⟩ := resolve_eq_ok_iff.mp h
  exact fits_of_follow (get?_origin hcurrent path) hfollow

/-- A path leads to the file that is at its place. -/
theorem fileAt_of_resolve (hcurrent : t.get? t.current = some .directory)
    (h : t.resolve .written path = .ok target) (hget : t.get? target.place = some (.file octets)) :
    FileAt t path target.place octets := by
  have hfits := fits_of_resolve hcurrent h
  cases target with
  | free dir name =>
    rw [Target.place, hfits.2] at hget
    cases hget
  | present loc e =>
    obtain rfl := Option.some.inj (hfits.symm.trans hget)
    exact h

/-- The place of a file stays the same while a tree develops. -/
theorem Develops.exists_fileAt (h : Develops s t) (hcurrent : s.get? s.current = some .directory)
    (hfile : FileAt s path place octets) : ∃ octets', FileAt t path place octets' := by
  obtain ⟨octets', hget⟩ := h.file (hfile.get? hcurrent)
  obtain ⟨target, hresolve, rfl⟩ := h.resolve hfile
  exact ⟨octets', fileAt_of_resolve (h.get?_current hcurrent) hresolve hget⟩

/-- **Writing a file** puts it at the place that its path leads to. -/
theorem exists_of_write (hcurrent : t.get? t.current = some .directory)
    (h : t.write path octets = .ok t') :
    ∃ target, t.resolve .written path = .ok target ∧ Puts t target.place octets t' ∧
      FileAt t' path target.place octets := by
  have hputs : ∃ target, t.resolve .written path = .ok target ∧ Puts t target.place octets t' := by
    rw [write] at h
    cases hresolve : t.resolve .written path with
    | error e => simp [hresolve] at h
    | ok target =>
      refine ⟨target, rfl, ?_⟩
      have hfits := fits_of_resolve hcurrent hresolve
      cases target with
      | free dir name =>
        simp only [hresolve, Except.ok.injEq] at h
        exact h ▸ .of_fits hfits.1 (Or.inl hfits.2) octets
      | present loc e =>
        cases e with
        | directory => simp [hresolve] at h
        | link text =>
          obtain ⟨-, -, hfollow⟩ := resolve_eq_ok_iff.mp hresolve
          exact absurd hfollow (ne_link_of_follow (get?_origin hcurrent path) (by simp))
        | file old =>
          rcases List.eq_nil_or_concat loc with rfl | ⟨init, name, rfl⟩
          · simp [hresolve] at h
          · rw [List.concat_eq_append] at hfits hresolve ⊢
            simp only [hresolve, List.getLast?_concat, List.dropLast_concat, Except.ok.injEq] at h
            exact h ▸ .of_fits (get?_of_get?_append_singleton hfits) (Or.inr ⟨old, hfits⟩) octets
  obtain ⟨target, hresolve, hputs⟩ := hputs
  obtain ⟨target', hresolve', hplace⟩ := hputs.develops.resolve hresolve
  have hcurrent' := hputs.develops.get?_current hcurrent
  refine ⟨target, hresolve, hputs, ?_⟩
  rw [← hplace]
  refine fileAt_of_resolve hcurrent' hresolve' ?_
  rw [hplace, hputs.get?_eq, if_pos rfl]

/-- **A file that a developed tree has** can be written before. -/
theorem Develops.write (h : Develops s t) (hcurrent : s.get? s.current = some .directory)
    (hfile : FileAt t path place old) {s' : FileTree} (hwrite : s.write path octets = .ok s') :
    Develops s' t := by
  obtain ⟨target, hresolve, hputs, -⟩ := exists_of_write hcurrent hwrite
  obtain ⟨target', hresolve', hplace⟩ := h.resolve hresolve
  obtain rfl := Except.ok.inj (hfile.symm.trans hresolve')
  have hget : t.get? target.place = some (.file old) := by
    rw [← hplace]
    exact hfile.get? (h.get?_current hcurrent)
  exact h.of_change hputs.current hputs.get?_eq hget (Or.inr ⟨_, _, rfl, rfl⟩)

/-- The last step to a file is its name. -/
theorem last_of_follow_file {last : LastName} {links : ℕ} {dir : Location} {steps : List String}
    (hdir : t.get? dir = some .directory)
    (h : follow t last links dir steps = .ok (.present place (.file octets))) :
    ∃ init name, steps = init ++ [name] ∧ ¬(name = "" ∨ name = ".") ∧ name ≠ ".." := by
  -- a step in front of more steps makes no difference
  have hmore : ∀ {first : String} {rest : List String},
      (∃ init name, rest = init ++ [name] ∧ ¬(name = "" ∨ name = ".") ∧ name ≠ "..") →
        ∃ init name, first :: rest = init ++ [name] ∧ ¬(name = "" ∨ name = ".") ∧ name ≠ ".." := by
    rintro first rest ⟨init, name, rfl, hname⟩
    exact ⟨first :: init, name, rfl, hname⟩
  fun_induction follow t last links dir steps with
  | case1 links dir =>
    rw [hdir] at h
    cases h
  | case2 links dir name rest _ ih => exact hmore (ih hdir h)
  | case3 links dir rest _ ih => exact hmore (ih (get?_dropLast hdir) h)
  | case8 links dir name rest _ _ _ _ hget ih => exact hmore (ih hget h)
  | case9 links dir name rest hstay hup _ _ old _ hrest =>
    rw [List.isEmpty_iff.mp hrest]
    exact ⟨[], name, rfl, hstay, hup⟩
  | case13 dir name rest hstay hup _ _ text _ _ links _ ih =>
    rcases List.eq_nil_or_concat rest with rfl | ⟨init, last, rfl⟩
    · exact ⟨[], name, rfl, hstay, hup⟩
    · obtain ⟨init', last', heq, hname⟩ := ih (get?_linkStart hdir text) h
      rw [List.concat_eq_append, ← List.append_assoc] at heq
      obtain ⟨-, hlast⟩ := List.append_inj' heq rfl
      obtain rfl := List.singleton_inj.mp hlast
      exact ⟨name :: init, last, by simp, hname⟩
  | _ => cases h

/-- The path of a file ends with its name. -/
theorem FileAt.exists_stepsOf (h : FileAt t path place octets)
    (hcurrent : t.get? t.current = some .directory) :
    stepsOf path = namesOf path ∧
      ∃ init name, namesOf path = init ++ [name] ∧ ¬(name = "" ∨ name = ".") ∧ name ≠ ".." := by
  obtain ⟨-, -, hfollow⟩ := resolve_eq_ok_iff.mp h
  obtain ⟨init, last, hsteps, hstay, hup⟩ :=
    last_of_follow_file (get?_origin hcurrent path) hfollow
  have hslash : ¬endsWithSlash path = true := by
    intro hslash
    rw [stepsOf, if_pos hslash] at hsteps
    obtain ⟨-, heq⟩ := List.append_inj' hsteps rfl
    exact hstay (Or.inl (List.singleton_inj.mp heq).symm)
  rw [stepsOf, if_neg hslash, List.append_nil] at hsteps ⊢
  exact ⟨rfl, init, last, hsteps, hstay, hup⟩

/-- The way to a file: to the directory above its path, and then to its name. -/
theorem FileAt.exists_parent (h : FileAt t path place octets)
    (hcurrent : t.get? t.current = some .directory) :
    ∃ dir m name, FilePath.parent? path = some dir ∧
      stepsOf path = namesOf dir ++ (List.replicate m "." ++ [name]) ∧
        ¬(name = "" ∨ name = ".") ∧ name ≠ ".." := by
  obtain ⟨hsteps, init, last, hlast, hstay, hup⟩ := h.exists_stepsOf hcurrent
  rw [hsteps]
  cases hparent : FilePath.parent? path with
  | none =>
    have hdot := FilePath.eq_dot_of_parent?_eq_none hparent last (by simp [hlast])
    exact absurd (Or.inr hdot) hstay
  | some dir =>
    obtain ⟨-, -, -, name, m, n, hnames, -⟩ := FilePath.exists_of_parent? hparent
    -- the last name is no step to the place itself
    cases n with
    | succ n =>
      rw [hlast, List.replicate_succ', ← List.cons_append, ← List.append_assoc,
        ← List.append_assoc] at hnames
      obtain ⟨-, heq⟩ := List.append_inj' hnames rfl
      exact absurd (Or.inr (List.singleton_inj.mp heq)) hstay
    | zero =>
      have heq := hlast.symm.trans hnames
      rw [List.replicate_zero, ← List.append_assoc] at heq
      obtain ⟨-, heq⟩ := List.append_inj' heq rfl
      obtain rfl := List.singleton_inj.mp heq
      exact ⟨dir, m, last, rfl, hnames, hstay, hup⟩

/-- The directory above the path of a file is there. -/
theorem FileAt.exists_leadsTo (h : FileAt t path place octets)
    (hcurrent : t.get? t.current = some .directory) (hparent : FilePath.parent? path = some dir) :
    pathFault? dir = none ∧ ∃ loc, LeadsTo t dir loc := by
  obtain ⟨-, hfault, hfollow⟩ := resolve_eq_ok_iff.mp h
  obtain ⟨⟨rest, hrest⟩, habsolute, -, -⟩ := FilePath.exists_of_parent? hparent
  obtain ⟨dir', m, name, hparent', hsteps, -⟩ := h.exists_parent hcurrent
  obtain rfl := Option.some.inj (hparent.symm.trans hparent')
  rw [hsteps] at hfollow
  exact ⟨pathFault?_of_append (hrest ▸ hfault),
    exists_leadsTo_of_follow hcurrent habsolute (by simp) hfollow⟩

/-- A file can be written wherever a developed tree has one. -/
theorem exists_write_of_resolve (hst : Develops s t)
    (hcurrent : s.get? s.current = some .directory) (hfile : FileAt t path place old)
    (hresolve : s.resolve .written path = .ok target) (octets : Bytes) :
    ∃ s', s.write path octets = .ok s' := by
  have hfits := fits_of_resolve hcurrent hresolve
  obtain ⟨target', hresolve', hplace⟩ := hst.resolve hresolve
  obtain rfl := Except.ok.inj (hfile.symm.trans hresolve')
  have hget := hfile.get? (hst.get?_current hcurrent)
  rw [write, hresolve]
  cases target with
  | free dir name => exact ⟨_, rfl⟩
  | present loc e =>
    obtain rfl : place = loc := hplace
    cases e with
    | directory =>
      rw [hst.directory hfits] at hget
      cases hget
    | link text =>
      obtain ⟨-, -, hfollow⟩ := resolve_eq_ok_iff.mp hresolve
      exact absurd hfollow (ne_link_of_follow (get?_origin hcurrent path) (by simp))
    | file old =>
      rcases List.eq_nil_or_concat place with rfl | ⟨init, name, rfl⟩
      · cases hget
      · simp

/-- **A file that a developed tree has** is written without a failure before, once its directory
is there and if links lead somewhere. -/
theorem exists_write_eq (hlinks : r.LinksLead) (hrs : Develops r s) (hst : Develops s t)
    (hcurrent : s.get? s.current = some .directory) (hfile : FileAt t path place old)
    (hparent : FilePath.parent? path = some dir) (hleads : LeadsTo s dir loc) (octets : Bytes) :
    ∃ s', s.write path octets = .ok s' := by
  have hcurrent' := hst.get?_current hcurrent
  obtain ⟨hpath, hfault, hfollow⟩ := resolve_eq_ok_iff.mp hfile
  obtain ⟨-, habsolute, -, -⟩ := FilePath.exists_of_parent? hparent
  obtain ⟨dir', m, name, hparent', hsteps, hstay, hup⟩ := hfile.exists_parent hcurrent'
  obtain rfl := Option.some.inj (hparent.symm.trans hparent')
  have horigin : s.origin dir = s.origin path := by rw [origin, origin, habsolute]
  have hname : List.replicate m "." ++ [name] ≠ [""] := by
    intro heq
    have hmem : name ∈ [""] := heq ▸ by simp
    exact hstay (Or.inl (List.mem_singleton.mp hmem))
  -- in both trees the way leads to the same directory, and then to the name
  obtain ⟨links, hway⟩ := exists_follow_append hleads.reached
  have hend : ∀ t', KeepsPlaces s t' →
      follow t' .written maxLinks (s.origin path) (stepsOf path) =
        follow t' .written links loc [name] := by
    intro t' hkeeps
    rw [hsteps, ← horigin, hway t' hkeeps .written _ (by simp) (fun heq => absurd heq hname),
      follow_replicate_dot]
  rw [hst.origin_eq, hend t hst.keepsPlaces] at hfollow
  have hreads : Reads .written name [] := .of_follow hstay hup hfollow
  have hshort : ¬name.utf8ByteSize > maxName := by
    intro hlong
    rw [follow_tooLong hreads hlong] at hfollow
    cases hfollow
  suffices ∃ target, follow s .written links loc [name] = .ok target by
    obtain ⟨target, htarget⟩ := this
    rw [← hend s (.refl s)] at htarget
    exact exists_write_of_resolve hst hcurrent hfile
      (resolve_eq_ok_iff.mpr ⟨hpath, hfault, htarget⟩) octets
  by_cases hlink : ∃ text, s.get? (loc ++ [name]) = some (.link text)
  · obtain ⟨text, hlink⟩ := hlink
    cases links with
    | zero =>
      rw [follow_linkLoop hreads hshort (hst.link.mpr hlink) (by simp)] at hfollow
      cases hfollow
    | succ links =>
      rw [follow_link hreads hshort (hst.link.mpr hlink) (by simp), List.append_nil] at hfollow
      obtain ⟨loc', e, hpresent⟩ := hlinks.exists_follow hrs hst (by simp) hlink hfollow
      exact ⟨_, by rw [follow_link hreads hshort hlink (by simp), List.append_nil, hpresent]⟩
  · obtain ⟨target, htarget, -⟩ : ∃ target, follow s .written links loc [name] = .ok target ∧
        target.place = loc ++ [name] :=
      exists_follow_singleton hreads hshort (not_exists.mp hlink)
    exact ⟨target, htarget⟩

end Writing

end SiteSnapshot.FileTree
