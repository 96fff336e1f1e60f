import SiteSnapshot.Proofs.FileTree.Files
import SiteSnapshot.Proofs.Layout.Output

/-!
# What writing output does to a tree

The two steps that write an output file, making its directory and putting it there, on any tree.
A failure leaves at most new directories behind (`grows_of_write`). What has happened in a
developed tree makes no difference to it when it happens before (`develops_ensureDir`,
`develops_writeFile`), and a directory that is there is made before without a failure if every link
leads somewhere (`ensureDir_snd`). Both steps together let any tree develop (`develops_write`).
-/

namespace SiteSnapshot

open FileTree

namespace Output

variable {r s t t' : FileTree} {path dir : FilePath} {loc place : Location} {octets old : Bytes}
  {f : Failure} {result : Except Failure Unit}

/-! ### Making the directory -/

theorem ensureDir_fst (t : FileTree) (dir : FilePath) :
    (ensureDir t dir).1 = if dir = "" then t else (t.makeDirs dir).1 := by
  by_cases hdir : dir = ""
  · rw [ensureDir, if_pos (by simpa using hdir), if_pos hdir]
  · rw [ensureDir, if_neg (by simpa using hdir), if_neg hdir]
    rcases t.makeDirs dir with ⟨t', - | e⟩ <;> rfl

theorem ensureDir_snd_eq_ok_iff (t : FileTree) (dir : FilePath) :
    (ensureDir t dir).2 = .ok () ↔ dir = "" ∨ (t.makeDirs dir).2 = none := by
  by_cases hdir : dir = ""
  · rw [ensureDir, if_pos (by simpa using hdir)]
    simp [hdir]
  · rw [ensureDir, if_neg (by simpa using hdir)]
    rcases t.makeDirs dir with ⟨t', - | e⟩ <;> simp [hdir]

theorem grows_ensureDir (t : FileTree) (dir : FilePath) : Grows t (ensureDir t dir).1 := by
  rw [ensureDir_fst]
  split_ifs
  · exact .refl t
  · exact .makeDirsWithin _ t dir

theorem grows_of_ensureDir (h : ensureDir t dir = (t', result)) : Grows t t' := by
  have hgrows := grows_ensureDir t dir
  rwa [h] at hgrows

/-- A directory that is made is led to. -/
theorem exists_leadsTo_of_ensureDir (hcurrent : t.get? t.current = some .directory)
    (h : ensureDir t dir = (t', .ok ())) : ∃ loc, LeadsTo t' dir loc := by
  have hmade := (ensureDir_snd_eq_ok_iff t dir).mp (congrArg Prod.snd h)
  obtain rfl : (ensureDir t dir).1 = t' := congrArg Prod.fst h
  rw [ensureDir_fst]
  split_ifs with hdir
  · exact ⟨t.current, hdir ▸ leadsTo_empty hcurrent⟩
  · exact exists_leadsTo_of_makeDirsWithin hcurrent (hmade.resolve_left hdir)

/-- Making a directory that a developed tree has. -/
theorem develops_ensureDir (h : Develops s t) (hcurrent : s.get? s.current = some .directory)
    (hleads : LeadsTo t dir loc) : Develops (ensureDir s dir).1 t := by
  rw [ensureDir_fst]
  split_ifs
  · exact h
  · exact h.makeDirsWithin hcurrent hleads _

/-- A directory that a developed tree has is made without a failure. -/
theorem ensureDir_snd (hlinks : r.LinksLead) (hrs : Develops r s) (hst : Develops s t)
    (hcurrent : s.get? s.current = some .directory) (hleads : LeadsTo t dir loc)
    (hfault : pathFault? dir = none) (htrimmed : FilePath.IsTrimmed dir) :
    (ensureDir s dir).2 = .ok () := by
  rw [ensureDir_snd_eq_ok_iff]
  exact Or.inr (makeDirsWithin_eq_none hlinks hrs hst hcurrent hleads hfault htrimmed
    (Nat.lt_succ_self _))

/-! ### Putting the file there -/

theorem writeFile_of_ok (h : t.write path octets = .ok t') :
    writeFile t path octets = (t', .ok ()) := by
  rw [writeFile, h]

/-- A file is written, or nothing has changed. -/
theorem writeFile_cases (t : FileTree) (path : FilePath) (octets : Bytes) :
    (∃ t', t.write path octets = .ok t' ∧ writeFile t path octets = (t', .ok ())) ∨
      ∃ f, writeFile t path octets = (t, .error f) := by
  rw [writeFile]
  cases t.write path octets with
  | ok t' => exact Or.inl ⟨t', rfl, rfl⟩
  | error e => exact Or.inr ⟨_, rfl⟩

theorem develops_writeFile_self (hcurrent : t.get? t.current = some .directory) (path : FilePath)
    (octets : Bytes) : Develops t (writeFile t path octets).1 := by
  rcases writeFile_cases t path octets with ⟨t', hwrite, h⟩ | ⟨f, h⟩
  · obtain ⟨target, -, hputs, -⟩ := exists_of_write hcurrent hwrite
    rw [h]
    exact hputs.develops
  · rw [h]
    exact .refl t

/-- Writing a file that a developed tree has. -/
theorem develops_writeFile (h : Develops s t) (hcurrent : s.get? s.current = some .directory)
    (hfile : FileAt t path place old) (octets : Bytes) :
    Develops (writeFile s path octets).1 t := by
  rcases writeFile_cases s path octets with ⟨s', hwrite, hresult⟩ | ⟨f, hresult⟩
  · rw [hresult]
    exact h.write hcurrent hfile hwrite
  · rwa [hresult]

/-! ### Both steps -/

/-- A file without a directory above it is written as it is. -/
theorem write_of_none (hparent : FilePath.parent? path = none) :
    write t path octets = writeFile t path octets := by
  rw [write, hparent]

/-- What writing a file comes to: its directory, if it has one, and then the file. -/
theorem write_cases (t : FileTree) (path : FilePath) (octets : Bytes) :
    (FilePath.parent? path = none ∧ write t path octets = writeFile t path octets) ∨
      ∃ dir, FilePath.parent? path = some dir ∧
        (((ensureDir t dir).2 = .ok () ∧
            write t path octets = writeFile (ensureDir t dir).1 path octets) ∨
          ∃ f, (ensureDir t dir).2 = .error f ∧
            write t path octets = ((ensureDir t dir).1, .error f)) := by
  cases hparent : FilePath.parent? path with
  | none => exact Or.inl ⟨rfl, write_of_none hparent⟩
  | some dir =>
    refine Or.inr ⟨dir, rfl, ?_⟩
    cases hdir : ensureDir t dir with
    | mk t' made =>
      cases made with
      | ok u => exact Or.inl ⟨rfl, write_of_ok hparent hdir⟩
      | error f => exact Or.inr ⟨f, rfl, write_of_error hparent hdir⟩

/-- What is left of a file that is not written is what making its directory has left. -/
theorem write_fst_of_error (h : (write t path octets).2 = .error f) :
    (write t path octets).1 = t ∨ ∃ dir, FilePath.parent? path = some dir ∧
      (write t path octets).1 = (ensureDir t dir).1 := by
  -- where the file itself is not written, nothing has changed since its directory was made
  have hfile : ∀ t', (writeFile t' path octets).2 = .error f →
      (writeFile t' path octets).1 = t' := by
    intro t' hfails
    rcases writeFile_cases t' path octets with ⟨t'', -, hresult⟩ | ⟨f', hresult⟩
    · rw [hresult] at hfails
      cases hfails
    · rw [hresult]
  rcases write_cases t path octets with
    ⟨-, hwrite⟩ | ⟨dir, hparent, ⟨-, hwrite⟩ | ⟨f', -, hwrite⟩⟩
  · rw [hwrite] at h ⊢
    exact Or.inl (hfile t h)
  · rw [hwrite] at h ⊢
    exact Or.inr ⟨dir, hparent, hfile _ h⟩
  · rw [hwrite]
    exact Or.inr ⟨dir, hparent, rfl⟩

/-- **A file that is not written** leaves at most new directories behind. -/
theorem grows_of_write (h : (write t path octets).2 = .error f) :
    Grows t (write t path octets).1 := by
  rcases write_fst_of_error h with hsame | ⟨dir, -, hdir⟩
  · rw [hsame]
    exact .refl t
  · rw [hdir]
    exact grows_ensureDir t dir

/-- A tree develops when a file is written. -/
theorem develops_write (hcurrent : t.get? t.current = some .directory) (path : FilePath)
    (octets : Bytes) : Develops t (write t path octets).1 := by
  rcases write_cases t path octets with ⟨-, hwrite⟩ | ⟨dir, -, ⟨-, hwrite⟩ | ⟨f, -, hwrite⟩⟩
  · rw [hwrite]
    exact develops_writeFile_self hcurrent path octets
  · have hdir := (grows_ensureDir t dir).develops
    rw [hwrite]
    exact hdir.trans (develops_writeFile_self (hdir.get?_current hcurrent) path octets)
  · rw [hwrite]
    exact (grows_ensureDir t dir).develops

theorem develops_of_write (hcurrent : t.get? t.current = some .directory)
    (h : write t path octets = (t', result)) : Develops t t' := by
  have hdevelops := develops_write hcurrent path octets
  rwa [h] at hdevelops

/-- **A file that is written** is where its path leads. -/
theorem exists_fileAt_of_write (hcurrent : t.get? t.current = some .directory)
    (h : write t path octets = (t', .ok ())) : ∃ place, FileAt t' path place octets := by
  have hfile : ∀ s : FileTree, s.get? s.current = some .directory →
      writeFile s path octets = (t', .ok ()) → ∃ place, FileAt t' path place octets := by
    intro s hs hwrite
    rcases writeFile_cases s path octets with ⟨s', hput, hresult⟩ | ⟨f, hresult⟩
    · obtain rfl := congrArg Prod.fst (hresult.symm.trans hwrite)
      obtain ⟨target, -, -, hat⟩ := exists_of_write hs hput
      exact ⟨target.place, hat⟩
    · cases hresult.symm.trans hwrite
  rcases write_cases t path octets with ⟨-, hwrite⟩ | ⟨dir, -, ⟨-, hwrite⟩ | ⟨f, -, hwrite⟩⟩
  · exact hfile t hcurrent (hwrite ▸ h)
  · have hdir := (grows_ensureDir t dir).develops
    exact hfile _ (hdir.get?_current hcurrent) (hwrite ▸ h)
  · cases hwrite.symm.trans h

end Output

end SiteSnapshot
