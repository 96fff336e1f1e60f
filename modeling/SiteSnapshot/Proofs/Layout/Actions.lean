import SiteSnapshot.Proofs.Layout.Additions

/-!
# Outputs one after the other

Making directories and writing files are **actions**. Some of them that succeed one after the other
(`Performs`) also succeed on the tree that they have come to, and leave it as it is
(`Performs.again`), even if later ones have written files that earlier ones write again. No place
changes between a file and a directory, so every path still leads where it led, and the last file
that is written to a place is the same: while the actions are repeated, every place has what it has
in the end, or what it had at this time before (`Repeated`).
-/

namespace SiteSnapshot.Output

open FileTree

/-- Something that is put into the output. -/
inductive Action where
  | directory (path : FilePath)
  | file (path : FilePath) (octets : Bytes)

namespace Action

def path : Action → FilePath
  | directory path => path
  | file path _ => path

def perform (t : FileTree) : Action → FileTree × Except Failure Unit
  | directory path => ensureDir t path
  | file path octets => write t path octets

end Action

/-- Actions that succeed one after the other. -/
inductive Performs : FileTree → List Action → FileTree → Prop
  | nil (t : FileTree) : Performs t [] t
  | cons {s t u : FileTree} {action : Action} {rest : List Action}
      (first : action.perform s = (t, .ok ())) (after : Performs t rest u) :
      Performs s (action :: rest) u

variable {s s' t u u' : FileTree} {action : Action} {actions more : List Action}
  {path dir : FilePath} {loc place : Location} {octets old : Bytes}

theorem performs_singleton_iff : Performs s [action] t ↔ action.perform s = (t, .ok ()) := by
  constructor
  · intro h
    cases h with
    | cons first after =>
      cases after
      exact first
  · exact fun h => .cons h (.nil t)

theorem performs_append_iff :
    Performs s (actions ++ more) u ↔ ∃ t, Performs s actions t ∧ Performs t more u := by
  induction actions generalizing s with
  | nil =>
    constructor
    · exact fun h => ⟨s, .nil s, h⟩
    · rintro ⟨t, h, h'⟩
      cases h
      exact h'
  | cons action actions ih =>
    constructor
    · intro h
      cases h with
      | cons first after =>
        obtain ⟨t, hactions, hmore⟩ := ih.mp after
        exact ⟨t, .cons first hactions, hmore⟩
    · rintro ⟨t, h, hmore⟩
      cases h with
      | cons first after => exact .cons first (ih.mpr ⟨t, after, hmore⟩)

theorem develops_of_perform (hcurrent : s.get? s.current = some .directory)
    (h : action.perform s = (t, .ok ())) : Develops s t := by
  cases action with
  | directory path => exact (grows_of_ensureDir h).develops
  | file path octets => exact develops_of_write hcurrent h

theorem Performs.develops (hcurrent : s.get? s.current = some .directory)
    (h : Performs s actions t) : Develops s t := by
  induction h with
  | nil t => exact .refl t
  | cons first _ ih =>
    have hdevelops := develops_of_perform hcurrent first
    exact hdevelops.trans (ih (hdevelops.get?_current hcurrent))

/-! ### One action again -/

/-- A directory that is made has a path without a fault. -/
theorem pathFault?_of_ensureDir (h : ensureDir t dir = (u, .ok ())) (hne : dir ≠ "") :
    pathFault? dir = none := by
  have hmade := ((ensureDir_snd_eq_ok_iff t dir).mp (congrArg Prod.snd h)).resolve_left hne
  -- at last the directory itself is made, or it is there
  have hone : ∀ t : FileTree, (t.makeOne dir).2 = none → pathFault? dir = none := by
    intro t hone
    rcases makeOne_cases t dir with ⟨parent, name, hresolve, -⟩ | ⟨hdir, -⟩ | ⟨e, -, -, hfails⟩
    · exact (resolveNew_eq_ok_iff.mp hresolve).2.1
    · obtain ⟨loc, hpresent⟩ := isDir_iff.mp hdir
      exact (resolve_eq_ok_iff.mp hpresent).2.1
    · rw [hfails] at hone
      cases hone
  rw [makeDirs] at hmade
  rcases makeDirsWithin_cases _ t hne with
    ⟨-, heq⟩ | ⟨-, -, heq⟩ | ⟨parent, t', -, -, ⟨e, -, heq⟩ | ⟨-, heq⟩⟩
  · exact hone t (heq ▸ hmade)
  · rw [heq] at hmade
    cases hmade
  · rw [heq] at hmade
    cases hmade
  · exact hone t' (heq ▸ hmade)

/-- A directory that is there is not made again. -/
theorem ensureDir_eq_self (hleads : LeadsTo t dir loc) (hfault : dir ≠ "" → pathFault? dir = none) :
    ensureDir t dir = (t, .ok ()) := by
  by_cases hdir : dir = ""
  · rw [ensureDir, if_pos (by simpa using hdir)]
  · have hway := makesWay_of_leadsTo hleads hdir
    have hnone : (t.makeDirs dir).2 = none := by
      rw [hway.failure, wayFault?, hfault hdir]
      simp
    have hsame : (t.makeDirs dir).1 = t := by
      refine ext_get? hway.grows.current fun place => ?_
      rcases hway.grows.get?_or place with hsame | ⟨hfree, -, above, habove, rfl⟩
      · exact hsame
      · rw [List.prefix_nil.mp habove, List.append_nil, hleads.isDirectory] at hfree
        cases hfree
    refine Prod.ext ?_ ((ensureDir_snd_eq_ok_iff t dir).mpr (Or.inr hnone))
    rw [ensureDir_fst, if_neg hdir, hsame]

/-- **A file that is there** is written again. -/
theorem exists_write_of_fileAt (hcurrent : t.get? t.current = some .directory)
    (hfile : FileAt t path place old) (octets : Bytes) :
    ∃ t', write t path octets = (t', .ok ()) ∧ Puts t place octets t' := by
  obtain ⟨t', hwrite⟩ := exists_write_of_resolve (.refl t) hcurrent hfile hfile octets
  obtain ⟨target, hresolve, hputs, -⟩ := exists_of_write hcurrent hwrite
  obtain rfl := Except.ok.inj (hfile.symm.trans hresolve)
  refine ⟨t', ?_, hputs⟩
  obtain ⟨dir, -, -, hparent, -⟩ := hfile.exists_parent hcurrent
  obtain ⟨hfault, loc, hleads⟩ := hfile.exists_leadsTo hcurrent hparent
  rw [write_of_ok hparent (ensureDir_eq_self hleads fun _ => hfault), writeFile_of_ok hwrite]

/-- What writing a file has changed: the file is at its place, and directories are new. -/
theorem exists_place_of_write (hcurrent : s.get? s.current = some .directory)
    (h : write s path octets = (s', .ok ())) :
    ∃ place, FileAt s' path place octets ∧ ∀ loc, loc ≠ place →
      s'.get? loc = s.get? loc ∨ s.get? loc = none ∧ s'.get? loc = some .directory := by
  have hfile : ∀ t : FileTree, Grows s t → writeFile t path octets = (s', .ok ()) →
      ∃ place, FileAt s' path place octets ∧ ∀ loc, loc ≠ place →
        s'.get? loc = s.get? loc ∨ s.get? loc = none ∧ s'.get? loc = some .directory := by
    intro t hgrows hwrite
    rcases writeFile_cases t path octets with ⟨t', hput, hresult⟩ | ⟨f, hresult⟩
    · obtain rfl := congrArg Prod.fst (hresult.symm.trans hwrite)
      obtain ⟨target, -, hputs, hat⟩ :=
        exists_of_write (hgrows.develops.get?_current hcurrent) hput
      refine ⟨target.place, hat, fun loc hloc => ?_⟩
      rw [hputs.get?_eq, if_neg hloc]
      exact hgrows.get?_or loc
    · cases hresult.symm.trans hwrite
  rcases write_cases s path octets with ⟨-, hwrite⟩ | ⟨dir, -, ⟨-, hwrite⟩ | ⟨f, -, hwrite⟩⟩
  · exact hfile s (.refl s) (hwrite ▸ h)
  · exact hfile _ (grows_ensureDir s dir) (hwrite ▸ h)
  · cases hwrite.symm.trans h

/-! ### All actions again -/

/-- A tree `u` on which actions are repeated that once led over `s` to `t`. -/
structure Repeated (s t u : FileTree) : Prop where
  before : Develops s t
  after : Develops t u
  get?_or : ∀ loc, u.get? loc = t.get? loc ∨ u.get? loc = s.get? loc

/-- What an action has changed but for one place. -/
private theorem get?_or_of_change (h : Repeated s t u) (hdevelops : Develops s' t) {loc : Location}
    (hchange : s'.get? loc = s.get? loc ∨ s.get? loc = none ∧ s'.get? loc = some .directory) :
    u.get? loc = t.get? loc ∨ u.get? loc = s'.get? loc := by
  rcases hchange with hsame | ⟨-, hdir⟩
  · rw [hsame]
    exact h.get?_or loc
  · have hdir' := hdevelops.directory hdir
    rw [hdir', h.after.directory hdir']
    exact Or.inl rfl

/-- **One action** is repeated. -/
theorem Repeated.exists_perform (h : Repeated s t u) (hcurrent : s.get? s.current = some .directory)
    (hperform : action.perform s = (s', .ok ())) (hdevelops : Develops s' t) :
    ∃ u', action.perform u = (u', .ok ()) ∧ Repeated s' t u' := by
  have hcurrent' := (develops_of_perform hcurrent hperform).get?_current hcurrent
  cases action with
  | directory path =>
    replace hperform : ensureDir s path = (s', .ok ()) := hperform
    obtain ⟨loc, hleads⟩ := exists_leadsTo_of_ensureDir hcurrent hperform
    have hfault := pathFault?_of_ensureDir hperform
    have hleads' := hleads.of_keepsPlaces (hdevelops.trans h.after).keepsPlaces
    exact ⟨u, ensureDir_eq_self hleads' hfault, hdevelops, h.after,
      fun loc => get?_or_of_change h hdevelops ((grows_of_ensureDir hperform).get?_or loc)⟩
  | file path octets =>
    obtain ⟨place, hfile, hchange⟩ := exists_place_of_write hcurrent hperform
    obtain ⟨old, hold⟩ := (hdevelops.trans h.after).exists_fileAt hcurrent' hfile
    obtain ⟨u', hwrite, hputs⟩ := exists_write_of_fileAt
      ((hdevelops.trans h.after).get?_current hcurrent') hold octets
    refine ⟨u', hwrite, hdevelops, h.after.trans hputs.develops, fun loc => ?_⟩
    rw [hputs.get?_eq]
    split_ifs with hloc
    · exact Or.inr (hloc ▸ (hfile.get? hcurrent').symm)
    · exact get?_or_of_change h hdevelops (hchange loc hloc)

/-- **All actions** are repeated, to the same tree. -/
theorem Repeated.performs (h : Repeated s t u) (hcurrent : s.get? s.current = some .directory)
    (hactions : Performs s actions t) : Performs u actions t := by
  induction hactions generalizing u with
  | nil t =>
    have hsame : u = t :=
      ext_get? h.after.current fun loc => (h.get?_or loc).elim id id
    exact hsame ▸ .nil u
  | cons first after ih =>
    have hcurrent' := (develops_of_perform hcurrent first).get?_current hcurrent
    obtain ⟨u', hperform, h'⟩ := h.exists_perform hcurrent first (after.develops hcurrent')
    exact .cons hperform (ih h' hcurrent')

/-- **Actions that have been performed** leave the tree as it is when they are performed again. -/
theorem Performs.again (hcurrent : s.get? s.current = some .directory)
    (h : Performs s actions t) : Performs t actions t :=
  Repeated.performs ⟨h.develops hcurrent, .refl t, fun _ => Or.inl rfl⟩ hcurrent h

end SiteSnapshot.Output
