import Mathlib.Data.Nat.Notation
import SiteSnapshot.Bundle.Copy
import SiteSnapshot.Proofs.Export.PageReport
import SiteSnapshot.Proofs.Layout.Effects

/-!
# What copying a bundle does

Copying takes one step for each item of the walk, and the first failure ends it, which is always one
to read or write a file (`Bundle.isFatal_of_copy`). A copy that succeeds has written every file of
the walk (`Bundle.exists_of_copy`), to a tree that has developed up to then and goes on to develop.
-/

namespace SiteSnapshot

open FileTree

namespace Bundle

variable {t t' : FileTree} {bundle : Bundle} {mount path : String} {root out : FilePath} {count : ℕ}
  {f : Failure}

/-! ### The steps -/

/-- An item is copied as a directory or as a file. -/
theorem copyItems_cons (bundle : Bundle) (mount : String) (root : FilePath) (t : FileTree)
    (count : ℕ) (item : BundleItem) (rest : List BundleItem) :
    bundle.copyItems mount root t count (item :: rest) =
      if item.isDir then
        match Output.ensureDir t (FilePath.join root item.path) with
        | (t, .ok ()) => bundle.copyItems mount root t count rest
        | (t, .error e) => (t, .error e)
      else
        match bundle.read t item.path with
        | .error e => (t, .error e)
        | .ok octets =>
          match Output.write t (FilePath.join root item.path) (written mount item.path octets) with
          | (t, .ok ()) => bundle.copyItems mount root t (count + 1) rest
          | (t, .error e) => (t, .error e) := by
  rfl

theorem isFatal_of_walk (h : bundle.walk t = .error f) : f.isFatal = true := by
  cases bundle with
  | memory b => cases h
  | directory root =>
    rw [walk] at h
    split_ifs at h
    exact Except.error.inj h ▸ rfl

theorem isFatal_of_read (h : bundle.read t path = .error f) : f.isFatal = true := by
  cases bundle with
  | memory b =>
    rw [read, MemoryBundle.read] at h
    cases hfile : b.files.lookup path with
    | none => exact Except.error.inj (hfile ▸ h) ▸ rfl
    | some octets => simp [hfile] at h
  | directory root =>
    rw [read] at h
    cases hfile : t.read (FilePath.join root path) with
    | error cause =>
      rw [hfile] at h
      exact Except.error.inj h ▸ rfl
    | ok octets => simp [hfile] at h

/-- **One item is copied**, and the rest after it, or a failure ends the copy. -/
theorem copyItems_cases (bundle : Bundle) (mount : String) (root : FilePath) (t : FileTree)
    (count : ℕ) (item : BundleItem) (rest : List BundleItem) :
    (∃ f, (bundle.copyItems mount root t count (item :: rest)).2 = .error f ∧ f.isFatal = true) ∨
      (∃ t₁, item.isDir = true ∧ Output.ensureDir t (FilePath.join root item.path) = (t₁, .ok ()) ∧
        bundle.copyItems mount root t count (item :: rest) =
          bundle.copyItems mount root t₁ count rest) ∨
      ∃ octets t₁, item.isDir = false ∧ bundle.read t item.path = .ok octets ∧
        Output.write t (FilePath.join root item.path) (written mount item.path octets) =
          (t₁, .ok ()) ∧
        bundle.copyItems mount root t count (item :: rest) =
          bundle.copyItems mount root t₁ (count + 1) rest := by
  rw [copyItems_cons]
  cases hdir : item.isDir with
  | true =>
    rw [if_pos rfl]
    rcases hmade : Output.ensureDir t (FilePath.join root item.path) with ⟨t₁, f | u⟩
    · exact Or.inl ⟨f, rfl, Output.isFatal_of_ensureDir hmade⟩
    · exact Or.inr (Or.inl ⟨t₁, rfl, rfl, rfl⟩)
  | false =>
    rw [if_neg Bool.false_ne_true]
    cases hread : bundle.read t item.path with
    | error f => exact Or.inl ⟨f, rfl, isFatal_of_read hread⟩
    | ok octets =>
      dsimp only
      rcases hwrite : Output.write t (FilePath.join root item.path)
        (written mount item.path octets) with ⟨t₁, f | u⟩
      · exact Or.inl ⟨f, rfl, Output.isFatal_of_write (congrArg Prod.snd hwrite)⟩
      · exact Or.inr (Or.inr ⟨octets, t₁, rfl, rfl, hwrite, rfl⟩)

/-- **What a copy comes to**: a failure, or the items of the walk in the directory of the mount. -/
theorem copy_cases (t : FileTree) (bundle : Bundle) (mount : String) (out : FilePath) :
    (∃ f, (bundle.copy t mount out).2 = .error f ∧ f.isFatal = true) ∨
      ∃ t₁ items, Output.ensureDir t (FilePath.join out mount) = (t₁, .ok ()) ∧
        bundle.walk t₁ = .ok items ∧
          bundle.copy t mount out =
            bundle.copyItems mount (FilePath.join out mount) t₁ 0 items := by
  rw [copy]
  rcases hmade : Output.ensureDir t (FilePath.join out mount) with ⟨t₁, f | u⟩
  · exact Or.inl ⟨f, rfl, Output.isFatal_of_ensureDir hmade⟩
  · dsimp only
    cases hwalk : bundle.walk t₁ with
    | error f => exact Or.inl ⟨f, rfl, isFatal_of_walk hwalk⟩
    | ok items => exact Or.inr ⟨t₁, items, rfl, hwalk, rfl⟩

/-! ### Failures -/

theorem isFatal_of_copyItems {items : List BundleItem}
    (h : (bundle.copyItems mount root t count items).2 = .error f) : f.isFatal = true := by
  induction items generalizing t count with
  | nil => cases h
  | cons item rest ih =>
    rcases copyItems_cases bundle mount root t count item rest with
      ⟨f', hfails, hfatal⟩ | ⟨t₁, -, -, hrest⟩ | ⟨octets, t₁, -, -, -, hrest⟩
    · rwa [Except.error.inj (h.symm.trans hfails)]
    · exact ih (hrest ▸ h)
    · exact ih (hrest ▸ h)

/-- **A bundle that is not copied** is a failure that stops the run. -/
theorem isFatal_of_copy (h : (bundle.copy t mount out).2 = .error f) : f.isFatal = true := by
  rcases copy_cases t bundle mount out with ⟨f', hfails, hfatal⟩ | ⟨t₁, items, -, -, hitems⟩
  · rwa [Except.error.inj (h.symm.trans hfails)]
  · exact isFatal_of_copyItems (hitems ▸ h)

/-! ### Success -/

/-- **A file that a copy has written**: at some time during the copy it was read from the bundle and
written to its path. -/
structure Wrote (bundle : Bundle) (mount : String) (root : FilePath) (path : String)
    (t t' s s' : FileTree) (octets : Bytes) : Prop where
  before : Develops t s
  read : bundle.read s path = .ok octets
  write : Output.write s (FilePath.join root path) (written mount path octets) = (s', .ok ())
  after : Develops s' t'

/-- The copy may have begun earlier. -/
theorem Wrote.of_develops {t₁ s s' : FileTree} {octets : Bytes} (h : Develops t t₁)
    (hwrote : Wrote bundle mount root path t₁ t' s s' octets) :
    Wrote bundle mount root path t t' s s' octets :=
  ⟨h.trans hwrote.before, hwrote.read, hwrote.write, hwrote.after⟩

/-- **A copy that succeeds** lets the tree develop and has written every file. -/
theorem of_copyItems {items : List BundleItem} {n : ℕ}
    (hcurrent : t.get? t.current = some .directory)
    (h : bundle.copyItems mount root t count items = (t', .ok n)) :
    Develops t t' ∧ ∀ path, ⟨path, false⟩ ∈ items →
      ∃ s s' octets, Wrote bundle mount root path t t' s s' octets := by
  induction items generalizing t count with
  | nil =>
    obtain rfl := congrArg Prod.fst h
    exact ⟨.refl t, fun _ hmem => absurd hmem List.not_mem_nil⟩
  | cons item rest ih =>
    rcases copyItems_cases bundle mount root t count item rest with
      ⟨f, hfails, -⟩ | ⟨t₁, hdir, hmade, hrest⟩ | ⟨octets, t₁, hfile, hread, hwrite, hrest⟩
    · rw [h] at hfails
      cases hfails
    · have hstep := (Output.grows_of_ensureDir hmade).develops
      obtain ⟨hdevelops, hwrote⟩ := ih (hstep.get?_current hcurrent) (hrest ▸ h)
      refine ⟨hstep.trans hdevelops, fun path hmem => ?_⟩
      rcases List.mem_cons.mp hmem with rfl | hmem
      · cases hdir
      · obtain ⟨s, s', octets, hs⟩ := hwrote path hmem
        exact ⟨s, s', octets, hs.of_develops hstep⟩
    · have hstep := Output.develops_of_write hcurrent hwrite
      obtain ⟨hdevelops, hwrote⟩ := ih (hstep.get?_current hcurrent) (hrest ▸ h)
      refine ⟨hstep.trans hdevelops, fun path hmem => ?_⟩
      rcases List.mem_cons.mp hmem with rfl | hmem
      · exact ⟨t, t₁, octets, .refl t, hread, hwrite, hdevelops⟩
      · obtain ⟨s, s', octets', hs⟩ := hwrote path hmem
        exact ⟨s, s', octets', hs.of_develops hstep⟩

/-- **A bundle that is copied** is walked when the directory of the mount is made, and every file of
the walk is written. -/
theorem exists_of_copy {n : ℕ} (hcurrent : t.get? t.current = some .directory)
    (h : bundle.copy t mount out = (t', .ok n)) :
    ∃ items, bundle.walk (Output.ensureDir t (FilePath.join out mount)).1 = .ok items ∧
      ∀ path, ⟨path, false⟩ ∈ items →
        ∃ s s' octets, Wrote bundle mount (FilePath.join out mount) path t t' s s' octets := by
  rcases copy_cases t bundle mount out with ⟨f, hfails, -⟩ | ⟨t₁, items, hmade, hwalk, hitems⟩
  · rw [h] at hfails
    cases hfails
  · have hstep := (Output.grows_of_ensureDir hmade).develops
    obtain ⟨-, hwrote⟩ := of_copyItems (hstep.get?_current hcurrent) (hitems ▸ h)
    refine ⟨items, by rwa [hmade], fun path hmem => ?_⟩
    obtain ⟨s, s', octets, hs⟩ := hwrote path hmem
    exact ⟨s, s', octets, hs.of_develops hstep⟩

end Bundle

end SiteSnapshot
