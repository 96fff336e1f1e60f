import SiteSnapshot.Layout.Output
import SiteSnapshot.Proofs.FileTree.Writing

/-!
# Writing output files

The file of a page is written in two steps: the directory above it is made, and then the file is
put there. Where neither a file nor a link is in the way, both steps either succeed or fail for a
reason that the path alone gives (`fault?`): which other files there are, and what is written,
does not matter.
-/

namespace SiteSnapshot

open FileTree

theorem Failure.exists_eq_file {f : Failure} (h : f.isFatal = true) :
    ∃ path cause, f = .file path cause := by
  cases f with
  | file path cause => exact ⟨path, cause, rfl⟩
  | _ => cases h

namespace Output

/-! ### Failures -/

section Failures

variable {t t' : FileTree} {path dir : FilePath} {octets : Bytes} {f : Failure}

/-- A directory that is not made is a failure that stops the run. -/
theorem isFatal_of_ensureDir (h : ensureDir t dir = (t', .error f)) : f.isFatal = true := by
  rw [ensureDir] at h
  split_ifs at h with hempty
  · cases h
  · cases hmake : t.makeDirs dir with
    | mk t'' failure =>
      cases failure with
      | none => simp [hmake] at h
      | some cause =>
        simp only [hmake, Prod.mk.injEq, Except.error.injEq] at h
        rw [← h.2]
        rfl

/-- A file that is not put in its directory is a failure that stops the run. -/
theorem isFatal_of_writeFile (h : (writeFile t path octets).2 = .error f) : f.isFatal = true := by
  rw [writeFile] at h
  cases hresult : t.write path octets with
  | ok t' => simp [hresult] at h
  | error cause =>
    simp only [hresult, Except.error.injEq] at h
    rw [← h]
    rfl

/-- A file that is not written is a failure that stops the run. -/
theorem isFatal_of_write (h : (write t path octets).2 = .error f) : f.isFatal = true := by
  rw [write] at h
  cases hparent : FilePath.parent? path with
  | none =>
    rw [hparent] at h
    exact isFatal_of_writeFile h
  | some dir =>
    simp only [hparent] at h
    cases hdir : ensureDir t dir with
    | mk t' made =>
      cases made with
      | ok u =>
        rw [hdir] at h
        exact isFatal_of_writeFile h
      | error f' =>
        simp only [hdir, Except.error.injEq] at h
        exact h ▸ isFatal_of_ensureDir hdir

end Failures

/-! ### Faults -/

/-- Why the directory above a file cannot be made. -/
def placeFault? (place : FilePath) (names : List String) : Option Failure :=
  if place = "" then none else (wayFault? place names).map (.file place)

/-- Why a file below a directory cannot be written. -/
def fault? (dir : FilePath) (init : List String) (name : String) : Option Failure :=
  (placeFault? (dir.below init).top init).or
    ((wayFault? (dir.below (init ++ [name])) (init ++ [name])).map
      (.file (dir.below (init ++ [name]))))

theorem isFatal_of_placeFault? {place : FilePath} {names : List String} {f : Failure}
    (h : placeFault? place names = some f) : f.isFatal = true := by
  rw [placeFault?] at h
  split_ifs at h
  obtain ⟨e, -, rfl⟩ := Option.map_eq_some_iff.mp h
  rfl

section Below

variable {t : FileTree} {dir : FilePath} {loc : Location} {init : List String} {name : String}

/-- **Making the directory of a file** lets the tree grow, and fails only with the fault of its
path. -/
theorem ensureDir_below (h : LeadsTo t dir loc) (hnames : ∀ s ∈ init, IsName s ∧ IsPlain s)
    (hclear : Clear t loc init) :
    ∃ t', GrowsTo t loc init t' ∧
      ensureDir t (dir.below init).top =
        (t', (placeFault? (dir.below init).top init).elim (.ok ()) .error) ∧
      (placeFault? (dir.below init).top init = none → AllDirectories t' loc init) := by
  by_cases hne : (dir.below init).top = ""
  · refine ⟨t, .refl t loc init, ?_, fun _ above habove => ?_⟩
    · rw [ensureDir, placeFault?, if_pos hne, hne]
      rfl
    · -- only the names of the empty path lead to the empty path
      have hnil : init = [] := by
        by_contra hinit
        have hbelow := FilePath.namesOf_below (fun s hs => (hnames s hs).1) dir
        rw [FilePath.top_eq_empty_iff.mp hne, namesOf_empty] at hbelow
        exact hinit (List.append_eq_nil_iff.mp hbelow.symm).2
      rw [hnil, List.prefix_nil] at habove
      rw [habove, List.append_nil]
      exact h.isDirectory
  · obtain ⟨hgrows, hfailure, hmade⟩ := makeDirs_below h hnames hclear hne
    have hempty : (dir.below init).top.isEmpty = false := by simpa using hne
    rw [ensureDir, hempty, placeFault?, if_neg hne, if_neg Bool.false_ne_true, ← hfailure]
    generalize t.makeDirs (dir.below init).top = result at hgrows hmade
    obtain ⟨t', failure⟩ := result
    cases failure with
    | none => exact ⟨t', hgrows, rfl, fun _ => hmade rfl⟩
    | some e => exact ⟨t', hgrows, rfl, by simp⟩

/-- **Writing a file** in its directory puts it there, and fails only with the fault of its
path. -/
theorem writeFile_below (h : LeadsTo t dir loc)
    (hnames : ∀ s ∈ init ++ [name], IsName s ∧ IsPlain s) (hroom : HasRoom t loc init name)
    (octets : Bytes) :
    writeFile t (dir.below (init ++ [name])) octets =
      (wayFault? (dir.below (init ++ [name])) (init ++ [name])).elim
        (t.put (loc ++ init) name (.file octets), .ok ())
        fun e => (t, .error (.file (dir.below (init ++ [name])) e)) := by
  rw [writeFile, write_below h hnames hroom]
  cases wayFault? (dir.below (init ++ [name])) (init ++ [name]) <;> rfl

/-- A file is put in its directory when that is made. -/
theorem write_of_ok {path place : FilePath} {t' : FileTree} {octets : Bytes}
    (hparent : FilePath.parent? path = some place) (hplace : ensureDir t place = (t', .ok ())) :
    write t path octets = writeFile t' path octets := by
  rw [write, hparent]
  simp only [hplace]

/-- Without its directory a file is not written. -/
theorem write_of_error {path place : FilePath} {t' : FileTree} {octets : Bytes} {f : Failure}
    (hparent : FilePath.parent? path = some place) (hplace : ensureDir t place = (t', .error f)) :
    write t path octets = (t', .error f) := by
  rw [write, hparent]
  simp only [hplace]

/-- Whether a file can be written depends neither on other files nor on what is written. -/
theorem write_below_snd (h : LeadsTo t dir loc)
    (hnames : ∀ s ∈ init ++ [name], IsName s ∧ IsPlain s) (hclear : Clear t loc init)
    (hlast : t.get? (loc ++ (init ++ [name])) = none ∨
      ∃ old, t.get? (loc ++ (init ++ [name])) = some (.file old)) (octets : Bytes) :
    (write t (dir.below (init ++ [name])) octets).2 =
      (fault? dir init name).elim (.ok ()) .error := by
  obtain ⟨hname, hplain⟩ := hnames name (by simp)
  obtain ⟨t', hgrows, hresult, hmade⟩ :=
    ensureDir_below h (fun s hs => hnames s (List.mem_append_left _ hs)) hclear
  have hparent : FilePath.parent? (dir.below (init ++ [name])) = some (dir.below init).top := by
    rw [FilePath.below_append_singleton, FilePath.parent?_join hname hplain.1]
  rw [fault?]
  cases hplace : placeFault? (dir.below init).top init with
  | some f =>
    rw [hplace, Option.elim_some] at hresult
    rw [write_of_error hparent hresult, Option.some_or, Option.elim_some]
  | none =>
    rw [hplace, Option.elim_none] at hresult
    -- growing changes nothing below the directories, so the last place is as it was
    have hroom : HasRoom t' loc init name :=
      ⟨hmade hplace, by rwa [hgrows.get?_append (List.cons_ne_nil name [])]⟩
    have h' := h.of_keepsPlaces hgrows.keepsPlaces
    rw [write_of_ok hparent hresult, Option.none_or, writeFile_below h' hnames hroom]
    cases wayFault? (dir.below (init ++ [name])) (init ++ [name]) <;> rfl

end Below

end Output

end SiteSnapshot
