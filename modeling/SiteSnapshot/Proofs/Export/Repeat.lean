import SiteSnapshot.Proofs.Export.Stops
import SiteSnapshot.Proofs.Layout.Actions

/-!
# Running again

A run is a chain of actions on its output: files of pages, directories and files of bundles, and the
favicon. Where one part of a run succeeds, it has performed some actions, and wherever the same
actions can be performed it succeeds with the same report (`Replays`); this holds of every part, and
so of the run (`replays_run`), as long as its bundles answer the same whatever has been put into the
output (`Export.Independent`). Since actions can be performed again without any change
(`Output.Performs.again`), so can runs (`run_again`).
-/

namespace SiteSnapshot

open FileTree Output

/-! ### Parts of a run -/

section Replays

variable {paths : FilePath → Prop} {r s s' t u : FileTree} {action : Action}
  {again again' : FileTree → FileTree → Prop}

/-- A tree with more in it at some paths. -/
def Fills (paths : FilePath → Prop) (s t : FileTree) : Prop :=
  ∃ actions, (∀ action ∈ actions, paths action.path) ∧ Performs s actions t

theorem Fills.refl (t : FileTree) : Fills paths t t :=
  ⟨[], by simp, .nil t⟩

theorem Fills.perform (h : Fills paths s t) (hpath : paths action.path)
    (hperform : action.perform t = (u, .ok ())) : Fills paths s u := by
  obtain ⟨actions, hpaths, hactions⟩ := h
  refine ⟨actions ++ [action], fun a ha => ?_,
    performs_append_iff.mpr ⟨t, hactions, performs_singleton_iff.mpr hperform⟩⟩
  rcases List.mem_append.mp ha with ha | ha
  · exact hpaths a ha
  · rwa [List.mem_singleton.mp ha]

theorem Fills.performs (h : Fills paths s t) {actions : List Action}
    (hpaths : ∀ action ∈ actions, paths action.path) (hactions : Performs t actions u) :
    Fills paths s u := by
  induction hactions with
  | nil t => exact h
  | cons first _ ih =>
    obtain ⟨hpath, hrest⟩ := List.forall_mem_cons.mp hpaths
    exact ih (h.perform hpath first) hrest

/-- A part of a run on `r` that has led from one tree to another by actions, and that does the same
(`again`) wherever these lead from one tree to another. -/
def Replays (paths : FilePath → Prop) (r s t : FileTree)
    (again : FileTree → FileTree → Prop) : Prop :=
  ∃ actions, (∀ action ∈ actions, paths action.path) ∧ Performs s actions t ∧
    ∀ u u', Fills paths r u → Performs u actions u' → again u u'

theorem Replays.nil (h : ∀ u, Fills paths r u → again u u) : Replays paths r t t again := by
  refine ⟨[], by simp, .nil t, fun u u' hu hactions => ?_⟩
  cases hactions
  exact h u hu

theorem Replays.perform (hpath : paths action.path) (hperform : action.perform s = (t, .ok ())) :
    Replays paths r s t fun u u' => action.perform u = (u', .ok ()) :=
  ⟨[action], by simpa using hpath, performs_singleton_iff.mpr hperform,
    fun _ _ _ hactions => performs_singleton_iff.mp hactions⟩

theorem Replays.directory {path : FilePath} (hpath : paths path)
    (hmade : ensureDir s path = (t, .ok ())) :
    Replays paths r s t fun u u' => ensureDir u path = (u', .ok ()) :=
  have h : (Action.directory path).perform s = (t, .ok ()) := hmade
  .perform hpath h

theorem Replays.file {path : FilePath} {octets : Bytes} (hpath : paths path)
    (hwrite : Output.write s path octets = (t, .ok ())) :
    Replays paths r s t fun u u' => Output.write u path octets = (u', .ok ()) :=
  have h : (Action.file path octets).perform s = (t, .ok ()) := hwrite
  .perform hpath h

theorem Replays.mono (h : Replays paths r s t again)
    (hagain : ∀ u u', Fills paths r u → again u u' → again' u u') : Replays paths r s t again' := by
  obtain ⟨actions, hpaths, hactions, h⟩ := h
  exact ⟨actions, hpaths, hactions, fun u u' hu hu' => hagain u u' hu (h u u' hu hu')⟩

/-- **One part after another.** -/
theorem Replays.trans {both : FileTree → FileTree → Prop} (h : Replays paths r s t again)
    (h' : Replays paths r t u again')
    (hboth : ∀ u u₁ u₂, Fills paths r u → Fills paths r u₁ → again u u₁ → again' u₁ u₂ →
      both u u₂) :
    Replays paths r s u both := by
  obtain ⟨actions, hpaths, hactions, hagain⟩ := h
  obtain ⟨more, hpaths', hmore, hagain'⟩ := h'
  refine ⟨actions ++ more, fun a ha => ?_, performs_append_iff.mpr ⟨t, hactions, hmore⟩,
    fun v w hv hw => ?_⟩
  · exact (List.mem_append.mp ha).elim (hpaths a) (hpaths' a)
  · obtain ⟨v', hv', hw⟩ := performs_append_iff.mp hw
    have hfills := hv.performs hpaths hv'
    exact hboth v v' w hv hfills (hagain v v' hv hv') (hagain' v' w hfills hw)

theorem Replays.fills (h : Replays paths r s t again) (hs : Fills paths r s) : Fills paths r t := by
  obtain ⟨actions, hpaths, hactions, -⟩ := h
  exact hs.performs hpaths hactions

end Replays

/-! ### Bundles -/

section Bundles

variable {paths : FilePath → Prop} {r s s' : FileTree} {bundle : Bundle} {mount : String}
  {root out : FilePath} {items : List BundleItem} {count n : ℕ}

/-- **Items** are copied again. -/
theorem Bundle.replays_copyItems (hpaths : ∀ item ∈ items, paths (FilePath.join root item.path))
    (hread : ∀ item ∈ items, item.isDir = false →
      ∀ s, Fills paths r s → bundle.read s item.path = bundle.read r item.path)
    (hs : Fills paths r s) (h : bundle.copyItems mount root s count items = (s', .ok n)) :
    Replays paths r s s' fun u u' => bundle.copyItems mount root u count items = (u', .ok n) := by
  induction items generalizing s count with
  | nil =>
    obtain ⟨rfl, hcount⟩ := Prod.mk.inj h
    obtain rfl := Except.ok.inj hcount
    exact .nil fun u _ => rfl
  | cons item rest ih =>
    obtain ⟨hpath, hpaths⟩ := List.forall_mem_cons.mp hpaths
    obtain ⟨hitem, hread⟩ := List.forall_mem_cons.mp hread
    rcases copyItems_cases bundle mount root s count item rest with
      ⟨f, hfails, -⟩ | ⟨s₁, hdir, hmade, hcopy⟩ | ⟨octets, s₁, hfile, hoctets, hwrite, hcopy⟩
    · rw [h] at hfails
      cases hfails
    · have hfirst := Replays.directory (r := r) hpath hmade
      refine hfirst.trans (ih hpaths hread (hfirst.fills hs) (hcopy ▸ h)) ?_
      intro u u₁ u₂ _ _ hu hrest
      rw [copyItems_cons, if_pos hdir, hu]
      exact hrest
    · have hfirst := Replays.file (r := r) hpath hwrite
      refine hfirst.trans (ih hpaths hread (hfirst.fills hs) (hcopy ▸ h)) ?_
      intro u u₁ u₂ hfills _ hu hrest
      rw [copyItems_cons, if_neg (by simp [hfile]), hitem hfile u hfills, ← hitem hfile s hs,
        hoctets]
      dsimp only
      rw [hu]
      exact hrest

/-- **A bundle** is copied again. -/
theorem Bundle.replays_copy (hroot : paths (FilePath.join out mount))
    (hwalk : ∀ s, Fills paths r s → bundle.walk s = bundle.walk r)
    (hitems : ∀ items, bundle.walk r = .ok items → ∀ item ∈ items,
      paths (FilePath.join (FilePath.join out mount) item.path) ∧ (item.isDir = false →
        ∀ s, Fills paths r s → bundle.read s item.path = bundle.read r item.path))
    (hs : Fills paths r s) (h : bundle.copy s mount out = (s', .ok n)) :
    Replays paths r s s' fun u u' => bundle.copy u mount out = (u', .ok n) := by
  rcases copy_cases s bundle mount out with ⟨f, hfails, -⟩ | ⟨s₁, items, hmade, hwalked, hcopy⟩
  · rw [h] at hfails
    cases hfails
  have hfirst := Replays.directory (r := r) hroot hmade
  have hwalked' : bundle.walk r = .ok items := (hwalk s₁ (hfirst.fills hs)).symm.trans hwalked
  refine hfirst.trans (replays_copyItems (fun item hitem => (hitems items hwalked' item hitem).1)
    (fun item hitem => (hitems items hwalked' item hitem).2) (hfirst.fills hs) (hcopy ▸ h)) ?_
  intro u u₁ u₂ _ hfills hu hrest
  rw [copy, hu]
  dsimp only
  rw [hwalk u₁ hfills, hwalked']
  exact hrest

end Bundles

/-! ### Stages -/

namespace Export

section Stages

variable {paths : FilePath → Prop} {r : FileTree} {e : Export} {p : Progress}
  {next next' : Progress → Outcome}

/-- A stage that has not stopped a run on `r`, and that does the same again. -/
def Repeats (paths : FilePath → Prop) (r : FileTree) (next : Progress → Outcome)
    (p : Progress) : Prop :=
  Replays paths r p.tree (next p).tree fun u u' => ∀ events, ∃ events',
    next ⟨u, p.report, events⟩ = ⟨⟨u', (next p).progress.report, events'⟩, none⟩

theorem stopped_of_andThen {o : Outcome} (h : (Export.andThen o next).stopped = none) :
    o.stopped = none ∧ (next o.progress).stopped = none := by
  cases hstopped : o.stopped with
  | none =>
    rw [andThen_of_none hstopped] at h
    exact ⟨rfl, h⟩
  | some f =>
    rw [andThen_of_some hstopped, hstopped] at h
    cases h

/-- **One stage after another.** -/
theorem Repeats.andThen (next next' : Progress → Outcome) (hfills : Fills paths r p.tree)
    (h : (next p).stopped = none → Repeats paths r next p)
    (h' : Fills paths r (next p).tree → (next' (next p).progress).stopped = none →
      Repeats paths r next' (next p).progress)
    (hrunning : (Export.andThen (next p) next').stopped = none) :
    Repeats paths r (fun p => Export.andThen (next p) next') p := by
  obtain ⟨hfirst, hlast⟩ := stopped_of_andThen hrunning
  have hboth : Export.andThen (next p) next' = next' (next p).progress := andThen_of_none hfirst
  rw [Repeats, hboth]
  refine Replays.trans (h hfirst) (h' ((h hfirst).fills hfills) hlast) ?_
  intro u u₁ u₂ _ _ hu hrest events
  obtain ⟨events', hnext⟩ := hu events
  obtain ⟨events'', hnext'⟩ := hrest events'
  exact ⟨events'', by rw [hnext, andThen_of_none rfl, hnext']⟩

theorem exportPages_cons_of_ok {total index : ℕ} {page : String} {rest : List String}
    {tree : FileTree} {result : Except Failure Unit} {report : Report}
    (h : e.exportPage p.tree page = (tree, result))
    (hadd : p.report.addPage page result = .ok report) :
    e.exportPages total index (page :: rest) p = e.exportPages total (index + 1) rest
      ⟨tree, report, p.events ++ .page index total page :: e.pageRequests page⟩ := by
  rw [exportPages, h]
  simp only [hadd]

/-- **A page** is exported again. -/
theorem replays_exportPage {s s' : FileTree} {page : String} {result : Except Failure Unit}
    {report report' : Report} (hpath : paths (e.pageFile page))
    (h : e.exportPage s page = (s', result)) (hadd : report.addPage page result = .ok report') :
    Replays paths r s s' fun u u' => e.exportPage u page = (u', result) := by
  rw [exportPage] at h
  cases hrender : Crawl.render e.router page with
  | error f =>
    rw [hrender] at h
    obtain ⟨rfl, rfl⟩ := Prod.mk.inj h
    refine .nil fun u _ => ?_
    rw [exportPage, hrender]
  | ok rendered =>
    rw [hrender] at h
    dsimp only at h
    obtain rfl : result = .ok () := by
      rcases result with f | ⟨⟩
      · rw [Report.addPage, if_pos (Output.isFatal_of_write (congrArg Prod.snd h))] at hadd
        cases hadd
      · rfl
    refine (Replays.file (r := r) hpath h).mono fun u u' _ hu => ?_
    rw [exportPage, hrender]
    exact hu

/-- **The pages** are exported again. -/
theorem repeats_exportPages {total index : ℕ} {pages : List String}
    (hpaths : ∀ page ∈ pages, paths (e.pageFile page))
    (hrunning : (e.exportPages total index pages p).stopped = none) :
    Repeats paths r (e.exportPages total index pages) p := by
  induction pages generalizing index p with
  | nil => exact .nil fun u _ events => ⟨events, rfl⟩
  | cons page rest ih =>
    obtain ⟨hpath, hpaths⟩ := List.forall_mem_cons.mp hpaths
    rcases hexport : e.exportPage p.tree page with ⟨tree, result⟩
    cases hadd : p.report.addPage page result with
    | error f =>
      rw [exportPages, hexport] at hrunning
      simp [hadd] at hrunning
    | ok report =>
      have hcons : e.exportPages total index (page :: rest) p =
          e.exportPages total (index + 1) rest _ := exportPages_cons_of_ok hexport hadd
      rw [hcons] at hrunning
      rw [Repeats, hcons]
      refine (replays_exportPage hpath hexport hadd).trans (ih hpaths hrunning) ?_
      intro u u₁ u₂ _ _ hu hrest events
      obtain ⟨events', h⟩ := hrest (events ++ .page index total page :: e.pageRequests page)
      exact ⟨events', (exportPages_cons_of_ok (p := ⟨u, p.report, events⟩) hu hadd).trans h⟩

theorem copyMounts_cons_of_ok {mount : Mount} {rest : List Mount} {tree : FileTree} {count : ℕ}
    (h : mount.bundle.copy p.tree mount.name e.out = (tree, .ok count)) :
    e.copyMounts (mount :: rest) p = e.copyMounts rest
      ⟨tree, { p.report with assetsWritten := p.report.assetsWritten + count }, p.events⟩ := by
  rw [copyMounts, h]

/-- The paths that a run on a tree writes to. -/
def WritesTo (e : Export) (units : List String) (r : FileTree) (path : FilePath) : Prop :=
  (∃ page ∈ e.plan units, path = e.pageFile page) ∨
    (∃ mount ∈ e.mounts, path = FilePath.join e.out mount.name ∨
      ∃ items, mount.bundle.walk r = .ok items ∧ ∃ item ∈ items,
        path = FilePath.join (FilePath.join e.out mount.name) item.path) ∨
    path = FilePath.join e.out "favicon.ico"

/-- A run whose bundles answer the same whatever it has written: their walks, the files of these,
and the favicon. -/
structure Independent (e : Export) (units : List String) (r : FileTree) : Prop where
  walk : ∀ mount ∈ e.mounts, ∀ s, Fills (e.WritesTo units r) r s →
    mount.bundle.walk s = mount.bundle.walk r
  read : ∀ mount ∈ e.mounts, ∀ items, mount.bundle.walk r = .ok items →
    ∀ item ∈ items, item.isDir = false → ∀ s, Fills (e.WritesTo units r) r s →
      mount.bundle.read s item.path = mount.bundle.read r item.path
  favicon : ∀ mount path, e.favicon? = some (mount, path) →
    ∀ s, Fills (e.WritesTo units r) r s → mount.bundle.read s path = mount.bundle.read r path

theorem mem_mounts_of_favicon? {mount : Mount} {path : String}
    (h : e.favicon? = some (mount, path)) : mount ∈ e.mounts := by
  simp only [favicon?, Option.bind_eq_bind, Option.bind_eq_some_iff, Option.pure_def,
    Option.some.injEq, Prod.mk.injEq] at h
  obtain ⟨_, _, _, _, _, hfind, rfl, _⟩ := h
  exact List.mem_of_find?_eq_some hfind

/-- Bundles in memory answer the same anyway. -/
theorem independent_of_memory (h : ∀ mount ∈ e.mounts, ∃ b, mount.bundle = .memory b)
    (units : List String) (r : FileTree) : e.Independent units r := by
  refine ⟨fun mount hmount s _ => ?_, fun mount hmount _ _ item _ _ s _ => ?_,
    fun mount path hfavicon s _ => ?_⟩
  · obtain ⟨b, hb⟩ := h mount hmount
    rw [hb]
    rfl
  · obtain ⟨b, hb⟩ := h mount hmount
    rw [hb]
    rfl
  · obtain ⟨b, hb⟩ := h mount (mem_mounts_of_favicon? hfavicon)
    rw [hb]
    rfl

variable {units : List String}

/-- **The mounts** are copied again. -/
theorem repeats_copyMounts (hindependent : e.Independent units r) {mounts : List Mount}
    (hmounts : ∀ mount ∈ mounts, mount ∈ e.mounts) (hfills : Fills (e.WritesTo units r) r p.tree)
    (hrunning : (e.copyMounts mounts p).stopped = none) :
    Repeats (e.WritesTo units r) r (e.copyMounts mounts) p := by
  induction mounts generalizing p with
  | nil => exact .nil fun u _ events => ⟨events, rfl⟩
  | cons mount rest ih =>
    obtain ⟨hmount, hmounts⟩ := List.forall_mem_cons.mp hmounts
    rcases hcopy : mount.bundle.copy p.tree mount.name e.out with ⟨tree, f | count⟩
    · rw [copyMounts, hcopy] at hrunning
      cases hrunning
    have hcons : e.copyMounts (mount :: rest) p = e.copyMounts rest _ := copyMounts_cons_of_ok hcopy
    have hroot : e.WritesTo units r (FilePath.join e.out mount.name) :=
      Or.inr (Or.inl ⟨mount, hmount, Or.inl rfl⟩)
    have hfirst := Bundle.replays_copy hroot (hindependent.walk mount hmount)
      (fun items hwalk item hitem =>
        ⟨Or.inr (Or.inl ⟨mount, hmount, Or.inr ⟨items, hwalk, item, hitem, rfl⟩⟩),
          fun hfile => hindependent.read mount hmount items hwalk item hitem hfile⟩)
      hfills hcopy
    rw [hcons] at hrunning
    rw [Repeats, hcons]
    refine hfirst.trans (ih hmounts (hfirst.fills hfills) hrunning) ?_
    intro u u₁ u₂ _ _ hu hrest events
    obtain ⟨events', h⟩ := hrest events
    exact ⟨events', (copyMounts_cons_of_ok (p := ⟨u, p.report, events⟩) hu).trans h⟩

/-- **The favicon** is copied again. -/
theorem repeats_copyFavicon (hindependent : e.Independent units r)
    (hfills : Fills (e.WritesTo units r) r p.tree)
    (hrunning : (e.copyFavicon p).stopped = none) :
    Repeats (e.WritesTo units r) r e.copyFavicon p := by
  cases hfavicon : e.favicon? with
  | none =>
    have hnothing : ∀ q, e.copyFavicon q = ⟨q, none⟩ := fun q => by rw [copyFavicon, hfavicon]
    rw [Repeats, hnothing]
    exact .nil fun u _ events => ⟨events, hnothing _⟩
  | some found =>
    obtain ⟨mount, path⟩ := found
    have hread := hindependent.favicon mount path hfavicon
    cases hoctets : mount.bundle.read r path with
    | error f =>
      have hnothing : ∀ q : Progress, Fills (e.WritesTo units r) r q.tree →
          e.copyFavicon q = ⟨q, none⟩ := fun q hq => by
        rw [copyFavicon, hfavicon]
        dsimp only
        rw [hread q.tree hq, hoctets]
      rw [Repeats, hnothing p hfills]
      exact .nil fun u hu events => ⟨events, hnothing ⟨u, p.report, events⟩ hu⟩
    | ok octets =>
      -- in both runs the same contents are written
      have hwrites : ∀ (q : Progress) (tree : FileTree), Fills (e.WritesTo units r) r q.tree →
          Output.write q.tree (FilePath.join e.out "favicon.ico") octets = (tree, .ok ()) →
            e.copyFavicon q = ⟨⟨tree,
              { q.report with assetsWritten := q.report.assetsWritten + 1 }, q.events⟩, none⟩ := by
        intro q tree hq hwrite
        rw [copyFavicon, hfavicon]
        dsimp only
        rw [hread q.tree hq, hoctets]
        dsimp only
        rw [hwrite]
      rcases hwrite : Output.write p.tree (FilePath.join e.out "favicon.ico") octets with
        ⟨tree, f | ⟨⟩⟩
      · rw [copyFavicon, hfavicon] at hrunning
        simp [hread p.tree hfills, hoctets, hwrite] at hrunning
      · rw [Repeats, hwrites p tree hfills hwrite]
        exact (Replays.file (Or.inr (Or.inr rfl)) hwrite).mono fun u u' hfills hu events =>
          ⟨events, hwrites ⟨u, p.report, events⟩ u' hfills hu⟩

/-! ### The run -/

/-- The mounts of a run, which are announced if there are any. -/
def mountsStage (e : Export) (p : Progress) : Outcome :=
  e.copyMounts e.mounts { p with events := p.events ++ e.mountsEvents }

/-- The pages of a run. -/
def pagesStage (e : Export) (units : List String) (p : Progress) : Outcome :=
  e.exportPages (e.plan units).length 1 (e.plan units) p

/-- A run is a chain of stages. -/
def stages (e : Export) (units : List String) (p : Progress) : Outcome :=
  Export.andThen
    (Export.andThen (Export.andThen (e.pagesStage units p) e.mountsStage) e.copyFavicon)
    fun p => ⟨announce e.endEvent p, none⟩

theorem run_eq_stages (e : Export) (units : List String) (t : FileTree) :
    e.run units t = e.stages units (announce (.start (e.plan units).length) { tree := t }) := by
  have hmounts : (fun p => e.copyMounts e.mounts
      (if e.mounts.isEmpty then p else announce (.stage "Copying static assets...") p)) =
        e.mountsStage := by
    funext p
    rw [mountsStage, mountsEvents]
    cases e.mounts.isEmpty with
    | true => simp
    | false => rfl
  rw [run, hmounts]
  rfl

theorem repeats_mountsStage (hindependent : e.Independent units r)
    (hfills : Fills (e.WritesTo units r) r p.tree) (hrunning : (e.mountsStage p).stopped = none) :
    Repeats (e.WritesTo units r) r e.mountsStage p := by
  have h := repeats_copyMounts (p := { p with events := p.events ++ e.mountsEvents }) hindependent
    (fun _ hmount => hmount) hfills hrunning
  exact Replays.mono h fun u u' _ hu events => hu (events ++ e.mountsEvents)

/-- **A run** does the same again. -/
theorem repeats_stages (hindependent : e.Independent units p.tree)
    (hrunning : (e.stages units p).stopped = none) :
    Repeats (e.WritesTo units p.tree) p.tree (e.stages units) p := by
  have hpages : (e.pagesStage units p).stopped = none →
      Repeats (e.WritesTo units p.tree) p.tree (e.pagesStage units) p :=
    repeats_exportPages fun page hpage => Or.inl ⟨page, hpage, rfl⟩
  exact .andThen (fun p => Export.andThen (Export.andThen (e.pagesStage units p) e.mountsStage)
      e.copyFavicon) _ (.refl p.tree)
    (.andThen (fun p => Export.andThen (e.pagesStage units p) e.mountsStage) _ (.refl p.tree)
      (.andThen (e.pagesStage units) _ (.refl p.tree) hpages (repeats_mountsStage hindependent))
      (repeats_copyFavicon hindependent))
    (fun _ _ => .nil fun u _ events => ⟨events ++ [e.endEvent], rfl⟩) hrunning

end Stages

end Export

/-- **A run again.** A run that gives a report gives the same report when it is run again on the
tree that it has left behind, and leaves it as it is, as long as its bundles answer the same
whatever it has written. -/
theorem run_again {e : Export} {units : List String} {t : FileTree} {report : Report}
    (hcurrent : t.get? t.current = some .directory) (hindependent : e.Independent units t)
    (hrun : (e.run units t).result = .ok report) :
    (e.run units (e.run units t).tree).result = .ok report ∧
      (e.run units (e.run units t).tree).tree = (e.run units t).tree := by
  have hstopped : (e.run units t).stopped = none := by
    rw [← Export.isOk_result_iff, hrun]
    rfl
  have hreport : (e.run units t).progress.report = report := by
    rw [Outcome.result, hstopped] at hrun
    exact Except.ok.inj hrun
  rw [Export.run_eq_stages] at hstopped
  obtain ⟨actions, hpaths, hactions, hagain⟩ := Export.repeats_stages hindependent hstopped
  -- the actions are performed again, so the stages do the same again
  obtain ⟨events, hsame⟩ := hagain _ _ (.performs (.refl t) hpaths hactions)
    (hactions.again hcurrent) [.start (e.plan units).length]
  have hrun' : e.run units (e.run units t).tree =
      ⟨⟨(e.run units t).tree, (e.run units t).progress.report, events⟩, none⟩ := by
    rw [Export.run_eq_stages, Export.run_eq_stages e units t]
    exact hsame
  rw [hrun']
  exact ⟨congrArg Except.ok hreport, rfl⟩

/-! ### An example -/

/-- A site with a text that a bundle has too, and with one that the favicon replaces. -/
def overwriting : Export where
  router := fun _ _ => .ok { contentType := some "text/plain", body := Utf8.encode "page" }
  config := { staticPages := ["/m/x.txt", "/favicon.ico"], favicon := some "m/x.txt" }
  out := "out"
  mounts := [mount]
where
  mount : Mount := ⟨"m", .memory (({} : MemoryBundle).addFile "x.txt" (Utf8.encode "bundle"))⟩

/-- An earlier output of the site. -/
def oldOutput : FileTree :=
  ((((FileTree.empty.put [] "out" .directory).put ["out"] "index.html" (.file [])).put ["out"] "m"
    .directory).put ["out", "m"] "x.txt" (.file [])).put ["out"] "favicon.ico" (.file [])

/-- A file of the earlier output is written again. -/
theorem exists_write_oldOutput {s : FileTree} {names : List String} (hs : Develops oldOutput s)
    (hnames : names ∈ [["out", "index.html"], ["out", "m", "x.txt"], ["out", "favicon.ico"]])
    (octets : Bytes) :
    ∃ s', Output.write s (FilePath.below "" names) octets = (s', .ok ()) ∧
      Develops oldOutput s' := by
  have hcurrent : oldOutput.get? oldOutput.current = some .directory := rfl
  have hstart : LeadsTo oldOutput "" [] := leadsTo_empty hcurrent
  have hold : oldOutput.get? ([] ++ names) = some (.file []) := by
    rcases List.mem_cons.mp hnames with rfl | hnames
    · rfl
    rcases List.mem_cons.mp hnames with rfl | hnames
    · rfl
    · rw [List.mem_singleton.mp hnames]
      rfl
  obtain ⟨old, hfile⟩ := hs.file hold
  have hplain : ∀ names ∈ [["out", "index.html"], ["out", "m", "x.txt"], ["out", "favicon.ico"]],
      names ≠ [] ∧ (∀ s ∈ names, IsName s ∧ IsPlain s) ∧
        wayFault? (FilePath.below "" names) names = none := by decide
  obtain ⟨hne, hplain, hfault⟩ := hplain names hnames
  obtain ⟨s', hwrite, -⟩ := Output.exists_output_eq (hstart.of_keepsPlaces hs.keepsPlaces) hplain
    hne (.of_get? hfile (by simp)) hfault octets
  exact ⟨s', hwrite, hs.trans (Output.develops_of_write (hs.get?_current hcurrent) hwrite)⟩

theorem exists_exportPage_overwriting {s : FileTree} {page : String} (hs : Develops oldOutput s)
    (hpage : page ∈ overwriting.plan []) :
    ∃ s', overwriting.exportPage s page = (s', .ok ()) ∧ Develops oldOutput s' := by
  have hfile : ∀ page ∈ overwriting.plan [], ∃ names ∈ [["out", "index.html"],
      ["out", "m", "x.txt"], ["out", "favicon.ico"]],
        overwriting.pageFile page = FilePath.below "" names := by decide
  obtain ⟨names, hnames, hpath⟩ := hfile page hpage
  obtain ⟨rendered, hrender⟩ : ∃ r, Crawl.render overwriting.router page = .ok r := ⟨_, rfl⟩
  obtain ⟨s', hwrite, hs'⟩ := exists_write_oldOutput hs hnames (Export.pageContent rendered)
  refine ⟨s', ?_, hs'⟩
  rw [Export.exportPage, hrender]
  dsimp only
  rw [hpath, hwrite]

theorem exportPages_overwriting {total index : ℕ} {pages : List String} {p : Progress}
    (hpages : ∀ page ∈ pages, page ∈ overwriting.plan []) (hp : Develops oldOutput p.tree) :
    (overwriting.exportPages total index pages p).stopped = none ∧
      Develops oldOutput (overwriting.exportPages total index pages p).tree := by
  induction pages generalizing index p with
  | nil => exact ⟨rfl, hp⟩
  | cons page rest ih =>
    obtain ⟨hpage, hrest⟩ := List.forall_mem_cons.mp hpages
    obtain ⟨tree, hexport, htree⟩ := exists_exportPage_overwriting hp hpage
    rw [Export.exportPages_cons_of_ok hexport rfl]
    exact ih hrest htree

theorem mountsStage_overwriting {p : Progress} (hp : Develops oldOutput p.tree) :
    (overwriting.mountsStage p).stopped = none ∧
      Develops oldOutput (overwriting.mountsStage p).tree := by
  have hcurrent : oldOutput.get? oldOutput.current = some .directory := rfl
  have hstart : LeadsTo oldOutput "" [] := leadsTo_empty hcurrent
  have hdir : p.tree.get? ([] ++ ["out", "m"]) = some .directory := hp.directory rfl
  obtain ⟨s, hmade⟩ := Output.exists_ensureDir_eq (hstart.of_keepsPlaces hp.keepsPlaces)
    (show ∀ s ∈ ["out", "m"], IsName s ∧ IsPlain s by decide) (by decide) (.of_get? hdir (by simp))
    (by decide)
  obtain ⟨s', hwrite, hs'⟩ := exists_write_oldOutput
    (hp.trans (Output.grows_of_ensureDir hmade).develops)
    (show ["out", "m", "x.txt"] ∈ _ by decide)
    (Bundle.written "m" "x.txt" (Utf8.encode "bundle"))
  have hroot : FilePath.join "out" "m" = FilePath.below "" ["out", "m"] := by decide
  have hpath : FilePath.join (FilePath.join "out" "m") "x.txt" =
      FilePath.below "" ["out", "m", "x.txt"] := by decide
  have hwalk : (({} : MemoryBundle).addFile "x.txt" (Utf8.encode "bundle")).walk =
      [⟨"x.txt", false⟩] := by cbv
  have hcopy : overwriting.mount.bundle.copy p.tree overwriting.mount.name overwriting.out =
      (s', .ok 1) := by
    change (Bundle.memory _).copy p.tree "m" "out" = (s', .ok 1)
    rw [Bundle.copy, hroot, hmade]
    dsimp only [Bundle.walk]
    rw [hwalk, Bundle.copyItems_cons, if_neg Bool.false_ne_true, ← hroot, hpath]
    dsimp only [Bundle.read]
    rw [show MemoryBundle.read _ "x.txt" = .ok (Utf8.encode "bundle") from rfl]
    dsimp only
    rw [hwrite]
    rfl
  have hmounts : overwriting.mountsStage p = overwriting.copyMounts [] _ :=
    Export.copyMounts_cons_of_ok hcopy
  rw [hmounts]
  exact ⟨rfl, hs'⟩

theorem copyFavicon_overwriting {p : Progress} (hp : Develops oldOutput p.tree) :
    (overwriting.copyFavicon p).stopped = none := by
  obtain ⟨s', hwrite, -⟩ := exists_write_oldOutput hp
    (show ["out", "favicon.ico"] ∈ _ by decide) (Utf8.encode "bundle")
  have hfavicon : overwriting.favicon? = some (overwriting.mount, "x.txt") := by rfl
  have hpath : FilePath.join overwriting.out "favicon.ico" =
      FilePath.below "" ["out", "favicon.ico"] := by decide
  have hread : overwriting.mount.bundle.read p.tree "x.txt" = .ok (Utf8.encode "bundle") := rfl
  rw [Export.copyFavicon, hfavicon]
  dsimp only
  rw [hread]
  dsimp only
  rw [hpath, hwrite]

/-- The site is exported over its earlier output, where the bundle replaces a page and the favicon
another one, and then again. -/
theorem run_again_overwriting : ∃ report, (overwriting.run [] oldOutput).result = .ok report ∧
    (overwriting.run [] (overwriting.run [] oldOutput).tree).result = .ok report ∧
      (overwriting.run [] (overwriting.run [] oldOutput).tree).tree =
        (overwriting.run [] oldOutput).tree := by
  have hmemory : ∀ mount ∈ overwriting.mounts, ∃ b, mount.bundle = .memory b := by
    intro mount hmount
    rw [List.mem_singleton.mp hmount]
    exact ⟨_, rfl⟩
  have hstopped : (overwriting.run [] oldOutput).stopped = none := by
    have hstart : Develops oldOutput (Export.announce (.start (overwriting.plan []).length)
      { tree := oldOutput }).tree := .refl oldOutput
    obtain ⟨hpages, htree⟩ : (overwriting.pagesStage [] _).stopped = none ∧
      Develops oldOutput (overwriting.pagesStage [] _).tree :=
        exportPages_overwriting (fun _ hpage => hpage) hstart
    obtain ⟨hmounts, htree'⟩ := mountsStage_overwriting htree
    rw [Export.run_eq_stages, Export.stages, Export.andThen_of_none hpages,
      Export.andThen_of_none hmounts, Export.andThen_of_none (copyFavicon_overwriting htree')]
  have hresult : (overwriting.run [] oldOutput).result =
      .ok (overwriting.run [] oldOutput).progress.report := by
    rw [Outcome.result, hstopped]
  exact ⟨_, hresult, run_again rfl (Export.independent_of_memory hmemory [] oldOutput) hresult⟩

end SiteSnapshot
