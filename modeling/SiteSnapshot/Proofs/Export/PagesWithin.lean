import SiteSnapshot.Proofs.Export.Concurrency

/-!
# Whether pages stay in the output

The file of a page is read from the output directory, step by step (`Link.follow`). It stays there
exactly if the page does, which is to say if the segments of the page never climb above the place
that they start from (`isSome_follow_mapPath_iff`). Nothing keeps a page from climbing: neither the
plan nor the mapping to files looks at steps up, so a unit such as `../x` is written beside the
output directory (`not_pages_stay`).

`pages_stay` says this of every planned page, and that a run puts files only where the paths of its
pages lead, however its tasks take turns and whether or not it is stopped.
-/

namespace SiteSnapshot

open FileTree

namespace Link

theorem follow_append (dir steps more : List String) :
    follow dir (steps ++ more) = (follow dir steps).bind fun dir => follow dir more := by
  induction steps generalizing dir with
  | nil => rfl
  | cons step rest ih =>
    rw [List.cons_append, follow, follow]
    split_ifs with hdot hup hdir
    · exact ih dir
    · rfl
    · exact ih _
    · exact ih _

/-- **Steps stay below a directory** if at no time more of them have gone up than down and than
there are names to it. -/
theorem isSome_follow_iff {dir steps : List String} :
    (follow dir steps).isSome = true ↔
      ∀ start ∈ steps.inits, start.count ".." ≤ dir.length + start.countP (IsPlain ·) := by
  induction steps generalizing dir with
  | nil => simp [follow]
  | cons step rest ih =>
    -- the empty start counts nothing, and any other one begins with the first step
    have hstarts : (∀ start ∈ (step :: rest).inits,
          start.count ".." ≤ dir.length + start.countP (IsPlain ·)) ↔
        ∀ start ∈ rest.inits,
          (step :: start).count ".." ≤ dir.length + (step :: start).countP (IsPlain ·) := by
      simp
    rw [hstarts, follow]
    by_cases hdot : step = "."
    · rw [if_pos hdot, ih]
      subst hdot
      simp [IsPlain]
    rw [if_neg hdot]
    by_cases hup : step = ".."
    · rw [if_pos hup]
      subst hup
      by_cases hdir : dir = []
      · subst hdir
        rw [if_pos rfl]
        refine iff_of_false (by simp) fun h => ?_
        have h := h [] (by simp)
        simp [IsPlain] at h
      · have hlength : 0 < dir.length := List.length_pos_iff.mpr hdir
        rw [if_neg hdir, ih, List.length_dropLast]
        refine forall₂_congr fun start _ => ?_
        rw [List.count_cons_self, List.countP_cons_of_neg (by simp [IsPlain])]
        omega
    · rw [if_neg hup, ih]
      refine forall₂_congr fun start _ => ?_
      rw [List.count_cons_of_ne hup, List.countP_cons_of_pos (by simp [IsPlain, hdot, hup]),
        List.length_append, List.length_singleton]
      omega

end Link

/-- **The file of a page stays in the output** exactly if the page does. -/
theorem isSome_follow_mapPath_iff (page : String) :
    (Link.follow [] (namesOf (mapPath page))).isSome = true ↔
      ∀ start ∈ (UrlPath.segments page).inits, start.count ".." ≤ start.countP (IsPlain ·) := by
  have hsegments : (Link.follow [] (namesOf (mapPath page))).isSome =
      (Link.follow [] (UrlPath.segments page)).isSome := by
    rcases (namesOf_mapPath_eq page).2 with ⟨hnames, -⟩ | hnames
    · rw [hnames]
    · rw [hnames, Link.follow_append]
      cases Link.follow [] (UrlPath.segments page) <;> rfl
  rw [hsegments, Link.isSome_follow_iff]
  simp

namespace Schedule

variable {e : Export} {plan : List String} {t : FileTree} {s s' : Schedule} {i : ℕ}

/-- **The move that stops a run** leaves at most new directories behind. -/
theorem grows_of_advance (hadvance : advance e i s = some s') {f : Failure}
    (hstopped : s'.outcome.stopped = some f) : Grows s.outcome.tree s'.outcome.tree := by
  obtain ⟨hrunning, task, -, hmove⟩ := advance_eq_some hadvance
  rcases hmove with ⟨-, -, hmove⟩ | ⟨-, hmove⟩ | ⟨page, -, hmove⟩ | ⟨page, -, hmove⟩
  · rw [hmove]
    exact .refl _
  · rw [hmove, Schedule.render]
    cases Crawl.render e.router task.path with
    | ok page => exact .refl _
    | error f =>
      dsimp only
      rw [tree_finish]
      exact .refl _
  · rw [hmove]
    rcases place_cases e s i task.path page with
      ⟨-, hplace⟩ | ⟨dir, tree, -, hmade⟩
    · rw [hplace]
      exact .refl _
    · rcases hmade with ⟨hdir, hplace⟩ | ⟨f, hdir, hplace⟩
      · rw [hplace]
        exact Output.grows_of_ensureDir hdir
      · rw [hplace, tree_finish]
        exact Output.grows_of_ensureDir hdir
  · rw [hmove] at hstopped ⊢
    rcases Output.writeFile_cases s.outcome.tree (e.pageFile task.path) (Export.pageContent page)
      with ⟨tree, -, hresult⟩ | ⟨f, hresult⟩
    · rw [write_of_eq hresult] at hstopped
      cases stopped_finish hrunning hstopped
    · rw [write_of_eq hresult, tree_finish]
      exact .refl _

/-- **The files of a run** are as before or where a planned page leads, even if the run was
stopped. -/
theorem Tracks.of_reaches (hcurrent : t.get? t.current = some .directory) (hnodup : plan.Nodup)
    (h : Tracks e plan t s) (hreaches : Reaches e s s') :
    Develops t s'.outcome.tree ∧
      ∀ place octets, s'.outcome.tree.get? place = some (.file octets) →
        t.get? place = some (.file octets) ∨
          ∃ page ∈ plan, FileAt s'.outcome.tree (e.pageFile page) place octets := by
  induction hreaches with
  | refl s =>
    refine ⟨h.develops, fun place octets hget => (h.files place octets hget).imp_right ?_⟩
    rintro ⟨page, hpage, -, hfile⟩
    exact ⟨page, hpage, hfile⟩
  | @step s s₁ s' i hadvance hrest ih =>
    cases hstopped : s₁.outcome.stopped with
    | none => exact ih (h.advance hcurrent hnodup hadvance hstopped)
    | some f =>
      -- nothing moves after the run was stopped, and the move that stops it writes no file
      have hend : s' = s₁ := by
        cases hrest with
        | refl => rfl
        | step j hnext _ =>
          rw [(advance_eq_some hnext).1] at hstopped
          cases hstopped
      have hgrows := grows_of_advance hadvance hstopped
      rw [← hend] at hgrows
      have hhere := h.get?_current hcurrent
      refine ⟨h.develops.trans hgrows.develops, fun place octets hget => ?_⟩
      refine (h.files place octets (hgrows.get?_of_ne_directory (by simp) hget)).imp_right ?_
      rintro ⟨page, hpage, -, hfile⟩
      obtain ⟨octets', hfile'⟩ := hgrows.develops.exists_fileAt hhere hfile
      have hoctets := hget.symm.trans (hfile'.get? (hgrows.develops.get?_current hhere))
      rw [Entry.file.inj (Option.some.inj hoctets)]
      exact ⟨page, hpage, hfile'⟩

end Schedule

open Schedule

/-- **Where the pages of a run are written.** The file of a planned page stays in the output, read
from the output directory, exactly if the segments of the page go up no more often than down. And
whatever order the tasks take turns in, one page after the other among them, every file that was not
there before is where the path of a planned page leads. Read from the output directory this is the
place in it that the path says, if the page stays and the output has no links; and if the page
climbs out of the output, it is the place that the path says beside the output. -/
theorem pages_stay {e : Export} {units : List String} {t : FileTree}
    (hcurrent : t.get? t.current = some .directory) :
    (∀ page ∈ e.plan units, (Link.follow [] (namesOf (mapPath page))).isSome = true ↔
        ∀ start ∈ (UrlPath.segments page).inits, start.count ".." ≤ start.countP (IsPlain ·)) ∧
      (∃ s, Reaches e (Schedule.start (e.plan units) t) s ∧ s.outcome = e.pagePhase units t) ∧
      ∀ s, Reaches e (Schedule.start (e.plan units) t) s →
        ∀ place octets, s.outcome.tree.get? place = some (.file octets) →
          t.get? place = some (.file octets) ∨
            ∃ page ∈ e.plan units, ∃ loc, LeadsTo s.outcome.tree e.out loc ∧
              ∀ above dir, loc = above ++ dir → NoLinks t above →
                ∀ below, Link.follow dir (namesOf (mapPath page)) = some below →
                  place = above ++ below := by
  refine ⟨fun page _ => isSome_follow_mapPath_iff page, ?_,
    fun s hreaches place octets hget => ?_⟩
  · obtain ⟨s, hreaches, houtcome, -⟩ := exists_reaches_pagePhase e units t
    exact ⟨s, hreaches, houtcome⟩
  obtain ⟨hdevelops, hfiles⟩ := (Tracks.start e (e.plan units) t).of_reaches hcurrent
    (Catalog.nodup_planPages _ _) hreaches
  refine (hfiles place octets hget).imp_right ?_
  rintro ⟨page, hpage, hfile⟩
  obtain ⟨loc, hleads, hplace⟩ := hfile.exists_pagePlace (hdevelops.get?_current hcurrent)
  refine ⟨page, hpage, loc, hleads, fun above dir hloc hlinks => hplace above dir hloc ?_⟩
  exact fun names text hlink => hlinks names text (hdevelops.link.mp hlink)

/-- A unit that goes up and down again stays in the output. -/
theorem pages_stay_up_and_down :
    FileTree.empty.get? FileTree.empty.current = some .directory ∧
      (Link.follow [] (namesOf (mapPath "/go/../net"))).isSome = true := by
  have hcurrent : FileTree.empty.get? FileTree.empty.current = some .directory := rfl
  have hpage : "/go/../net" ∈ oneText.plan ["go/../net"] := by decide
  exact ⟨hcurrent, ((pages_stay hcurrent).1 _ hpage).mpr (by decide)⟩

/-- A unit above the output directory does not stay in it. -/
theorem not_pages_stay :
    ¬∀ (fixedPages units : List String), ∀ page ∈ Catalog.planPages fixedPages units,
      (Link.follow [] (namesOf (mapPath page))).isSome = true := by
  intro h
  have hbeside := h [] ["../x"] "/../x" (by decide)
  exact absurd hbeside (by decide)

end SiteSnapshot
