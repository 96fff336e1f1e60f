import SiteSnapshot.Proofs.Export.PageReport

/-!
# The phases of a run

A run exports its pages and then copies the bundles and the favicon (`Export.afterPages`). What
comes after the pages takes from them only the file tree and whether they stopped the run
(`Export.afterPages_congr`), and without mounts it leaves both as they are
(`Export.sameTree_afterPages`).
-/

namespace SiteSnapshot

namespace Export

variable {e : Export} {o o' : Outcome} {p q : Progress}

/-- The rest of a run, after its pages. -/
def afterPages (e : Export) (pages : Outcome) : Outcome :=
  let bundles := andThen pages fun p =>
    copyMounts e e.mounts
      (if e.mounts.isEmpty then p else announce (.stage "Copying static assets...") p)
  let favicon := andThen bundles (copyFavicon e)
  andThen favicon fun p =>
    ⟨announce (.stage ("Static site generated in " ++ e.out)) p, none⟩

/-- A run is its pages and the rest. -/
theorem run_eq_afterPages (e : Export) (units : List String) (t : FileTree) :
    e.run units t = e.afterPages (e.pagePhase units t) := rfl

/-- Outcomes that leave the same tree behind and stop for the same reason. -/
def SameTree (o o' : Outcome) : Prop :=
  o.tree = o'.tree ∧ o.stopped = o'.stopped

theorem sameTree_andThen {next next' : Progress → Outcome} (h : SameTree o o')
    (hnext : ∀ p q, p.tree = q.tree → SameTree (next p) (next' q)) :
    SameTree (andThen o next) (andThen o' next') := by
  obtain ⟨htree, hstopped⟩ := h
  rw [andThen, andThen, ← hstopped]
  cases hrunning : o.stopped with
  | none => exact hnext _ _ htree
  | some f => exact ⟨htree, hstopped⟩

theorem sameTree_copyMounts (e : Export) (mounts : List Mount) (h : p.tree = q.tree) :
    SameTree (e.copyMounts mounts p) (e.copyMounts mounts q) := by
  induction mounts generalizing p q with
  | nil => exact ⟨h, rfl⟩
  | cons mount rest ih =>
    rw [copyMounts, copyMounts, h]
    rcases mount.bundle.copy q.tree mount.name e.out with ⟨tree, f | count⟩
    · exact ⟨rfl, rfl⟩
    · exact ih rfl

theorem sameTree_copyFavicon (e : Export) (h : p.tree = q.tree) :
    SameTree (e.copyFavicon p) (e.copyFavicon q) := by
  rw [copyFavicon, copyFavicon, h]
  cases e.favicon? with
  | none => exact ⟨h, rfl⟩
  | some found =>
    obtain ⟨mount, path⟩ := found
    dsimp only
    cases mount.bundle.read q.tree path with
    | error f => exact ⟨h, rfl⟩
    | ok octets =>
      dsimp only
      rcases Output.write q.tree (FilePath.join e.out "favicon.ico") octets with ⟨tree, f | u⟩
      · exact ⟨rfl, rfl⟩
      · exact ⟨rfl, rfl⟩

/-- **The rest of a run** does the same after the same pages. -/
theorem afterPages_congr (e : Export) (h : SameTree o o') :
    SameTree (e.afterPages o) (e.afterPages o') := by
  refine sameTree_andThen (sameTree_andThen (sameTree_andThen h fun p q hpq => ?_)
    fun p q hpq => sameTree_copyFavicon e hpq) fun p q hpq => ⟨hpq, rfl⟩
  refine sameTree_copyMounts e e.mounts ?_
  split_ifs
  · exact hpq
  · exact hpq

/-- **Without mounts** nothing comes after the pages. -/
theorem sameTree_afterPages (hmounts : e.mounts = []) (o : Outcome) :
    SameTree (e.afterPages o) o := by
  have hfavicon : e.favicon? = none := by
    simp [favicon?, hmounts]
  rw [afterPages, hmounts]
  cases hstopped : o.stopped with
  | some f => simp [andThen, hstopped, SameTree]
  | none =>
    simp only [andThen, hstopped, copyMounts, copyFavicon, hfavicon]
    exact ⟨rfl, hstopped.symm⟩

end Export

end SiteSnapshot
