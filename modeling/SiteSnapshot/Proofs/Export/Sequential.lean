import SiteSnapshot.Proofs.Export.Interleaving

/-!
# One page after the other

Exporting the pages in their order is one of the ways in which their tasks can take turns: each
task goes through all its stages before the next is announced (`exists_reaches_exportPages`). What
holds of every schedule that is reached therefore holds of `Export.exportPages`.

With a job for each page all tasks can be announced first, and then finish in any other order as
well (`exists_reaches_of_perm`).
-/

namespace SiteSnapshot

namespace Schedule

variable {e : Export} {s s' s'' : Schedule} {i : ℕ} {path : String}

theorem Reaches.trans (h : Reaches e s s') (h' : Reaches e s' s'') : Reaches e s s'' := by
  induction h with
  | refl s => exact h'
  | step i hadvance _ ih => exact .step i hadvance (ih h')

/-! ### One task -/

/-- How a run stands after a page with a result. -/
def concluded (p : Progress) (path : String) (result : Except Failure Unit) : Outcome :=
  match p.report.addPage path result with
  | .ok report => ⟨{ p with report }, none⟩
  | .error f => ⟨p, some f⟩

/-- A task that can be finished without a move of another one, and how the run stands then. -/
def FinishesWith (e : Export) (s : Schedule) (i : ℕ) (path : String) (o : Outcome) : Prop :=
  ∃ s', Reaches e s s' ∧ s'.tasks = s.tasks.set i ⟨path, .finished⟩ ∧
    s'.announced = s.announced ∧ s'.outcome = o

/-- A task that finishes. -/
theorem FinishesWith.of_finish {p : Progress} {result : Except Failure Unit}
    (hrunning : s.outcome.stopped = none)
    (hadvance : advance e i s = some (s.finish i path p result)) :
    FinishesWith e s i path (concluded p path result) := by
  refine ⟨_, .step i hadvance (.refl _), tasks_finish s i path p result, ?_, ?_⟩
  · rw [finish]
    split <;> rfl
  · rw [finish, concluded]
    cases p.report.addPage path result with
    | ok report => exact (outcome_move s i path .finished _).trans (by rw [hrunning])
    | error f => rfl

/-- A task that goes on. -/
theorem FinishesWith.of_move {stage : PageStage} {p : Progress} {o : Outcome}
    (hadvance : advance e i s = some (s.move i path stage p))
    (h : FinishesWith e (s.move i path stage p) i path o) : FinishesWith e s i path o := by
  obtain ⟨s', hreaches, htasks, hannounced, houtcome⟩ := h
  refine ⟨s', .step i hadvance hreaches, ?_, hannounced, houtcome⟩
  rw [htasks, tasks_move, List.set_set]

section Task

variable (hrunning : s.outcome.stopped = none) {page : RenderedPage} {tree : FileTree}
  {result : Except Failure Unit}

include hrunning

/-- From a directory to a file. -/
theorem finishesWith_write (htask : s.tasks[i]? = some ⟨path, .placed page⟩)
    (hwrite : Output.writeFile s.outcome.tree (e.pageFile path) (Export.pageContent page) =
      (tree, result)) :
    FinishesWith e s i path (concluded { s.outcome.progress with tree } path result) := by
  refine .of_finish hrunning ?_
  rw [advance, hrunning, htask, ← write_of_eq hwrite]
  rfl

/-- From a page to a file. -/
theorem finishesWith_place (htask : s.tasks[i]? = some ⟨path, .rendered page⟩)
    (hwrite : Output.write s.outcome.tree (e.pageFile path) (Export.pageContent page) =
      (tree, result)) :
    FinishesWith e s i path (concluded { s.outcome.progress with tree } path result) := by
  have hlt : i < s.tasks.length := (List.getElem?_eq_some_iff.mp htask).1
  have hadvance : advance e i s = some (s.place e i path page) := by
    rw [advance, hrunning, htask]
    rfl
  have hplaced : ∀ p, (s.move i path (.placed page) p).tasks[i]? = some ⟨path, .placed page⟩ :=
    fun p => List.getElem?_set_self hlt
  rw [Output.write] at hwrite
  cases hparent : FilePath.parent? (e.pageFile path) with
  | none =>
    rw [hparent] at hwrite
    have hplace : s.place e i path page = s.move i path (.placed page) s.outcome.progress := by
      delta place
      rw [hparent]
    exact .of_move (hadvance.trans (congrArg some hplace))
      (finishesWith_write (s := s.move i path (.placed page) s.outcome.progress) hrunning
        (hplaced _) hwrite)
  | some dir =>
    rw [hparent] at hwrite
    cases hdir : Output.ensureDir s.outcome.tree dir with
    | mk tree' made =>
      simp only [hdir] at hwrite
      cases made with
      | ok u =>
        have hplace : s.place e i path page =
            s.move i path (.placed page) { s.outcome.progress with tree := tree' } :=
          place_of_ok hparent hdir
        exact .of_move (hadvance.trans (congrArg some hplace))
          (finishesWith_write
            (s := s.move i path (.placed page) { s.outcome.progress with tree := tree' }) hrunning
            (hplaced _) hwrite)
      | error f =>
        obtain ⟨rfl, rfl⟩ := Prod.mk.inj hwrite
        have hplace : s.place e i path page =
            s.finish i path { s.outcome.progress with tree := tree' } (.error f) :=
          place_of_error hparent hdir
        exact .of_finish hrunning (hadvance.trans (congrArg some hplace))

/-- From an announced task to a file. -/
theorem finishesWith_render (htask : s.tasks[i]? = some ⟨path, .announced⟩)
    (hexport : e.exportPage s.outcome.tree path = (tree, result)) :
    FinishesWith e s i path
      (concluded ⟨tree, s.outcome.progress.report,
        s.outcome.progress.events ++ e.pageRequests path⟩ path result) := by
  have hlt : i < s.tasks.length := (List.getElem?_eq_some_iff.mp htask).1
  have hadvance : advance e i s = some (s.render e i path) := by
    rw [advance, hrunning, htask]
    rfl
  rw [Export.exportPage] at hexport
  rw [render] at hadvance
  cases hrender : Crawl.render e.router path with
  | error f =>
    rw [hrender] at hexport hadvance
    obtain ⟨rfl, rfl⟩ := Prod.mk.inj hexport
    exact .of_finish hrunning hadvance
  | ok page =>
    rw [hrender] at hexport hadvance
    exact .of_move hadvance (finishesWith_place
      (s := s.move i path (.rendered page)
        { s.outcome.progress with
          events := s.outcome.progress.events ++ e.pageRequests path })
      hrunning (List.getElem?_set_self hlt) hexport)

end Task

/-! ### All tasks -/

/-- Exporting one page. -/
theorem exportPages_singleton (e : Export) (total index : ℕ) (path : String) (p : Progress) :
    e.exportPages total index [path] p =
      concluded ⟨(e.exportPage p.tree path).1, p.report,
        p.events ++ .page index total path :: e.pageRequests path⟩ path
        (e.exportPage p.tree path).2 := by
  rw [Export.exportPages, concluded]
  obtain ⟨tree, result⟩ := e.exportPage p.tree path
  dsimp only
  cases p.report.addPage path result <;> rfl

/-- Exporting one page after the other. -/
theorem exportPages_cons (e : Export) (total index : ℕ) (path : String) (rest : List String)
    (p : Progress) :
    e.exportPages total index (path :: rest) p =
      Export.andThen (e.exportPages total index [path] p)
        (e.exportPages total (index + 1) rest) := by
  rw [Export.exportPages, Export.exportPages]
  obtain ⟨tree, result⟩ := e.exportPage p.tree path
  dsimp only
  cases p.report.addPage path result <;> rfl

/-- A page that is announced while no other task is under way is exported. -/
theorem exists_reaches_page (hrunning : s.outcome.stopped = none) (hidle : s.running = 0)
    (htask : s.tasks[i]? = some ⟨path, .waiting⟩) :
    ∃ s', Reaches e s s' ∧ s'.tasks = s.tasks.set i ⟨path, .finished⟩ ∧
      s'.announced = s.announced + 1 ∧
        s'.outcome =
          e.exportPages s.tasks.length (s.announced + 1) [path] s.outcome.progress := by
  have hlt : i < s.tasks.length := (List.getElem?_eq_some_iff.mp htask).1
  have hannounce : advance e i s = some (s.announce i path) := by
    rw [advance, hrunning, htask]
    simp [hidle]
  have hannounced : (s.announce i path).tasks[i]? = some ⟨path, .announced⟩ :=
    List.getElem?_set_self hlt
  obtain ⟨s', hreaches, htasks, hcount, houtcome⟩ :=
    finishesWith_render (e := e) (s := s.announce i path) hrunning hannounced rfl
  refine ⟨s', .step i hannounce hreaches, ?_, hcount, ?_⟩
  · rw [htasks]
    exact List.set_set ..
  · have hevents : (s.announce i path).outcome.progress.events ++ e.pageRequests path =
        s.outcome.progress.events ++
          .page (s.announced + 1) s.tasks.length path :: e.pageRequests path :=
      List.append_assoc _ [_] _
    rw [houtcome, exportPages_singleton, hevents]
    rfl

/-- Finished tasks in front of waiting ones. -/
def lined (done rest : List String) : List PageTask :=
  done.map (fun path => ⟨path, .finished⟩) ++ rest.map (fun path => ⟨path, .waiting⟩)

/-- **Exporting the pages in their order is one of the ways to take turns**, and it finishes every
task unless it is stopped. -/
theorem exists_reaches_exportPages {done rest : List String}
    (htasks : s.tasks = lined done rest) (hannounced : s.announced = done.length)
    (hrunning : s.outcome.stopped = none) :
    ∃ s', Reaches e s s' ∧
      s'.outcome = e.exportPages s.tasks.length (done.length + 1) rest s.outcome.progress ∧
        (s'.outcome.stopped = none → s'.tasks = lined (done ++ rest) []) := by
  induction rest generalizing s done with
  | nil =>
    refine ⟨s, .refl s, ?_, fun _ => by rw [htasks, List.append_nil]⟩
    rw [Export.exportPages, ← hrunning]
  | cons path rest ih =>
    have htask : s.tasks[done.length]? = some ⟨path, .waiting⟩ := by
      rw [htasks, lined, List.getElem?_append_right (by simp)]
      simp
    -- a limit of one task at a time is never in the way: each is finished before the next
    have hidle : s.running = 0 := by
      rw [running, htasks, lined, List.countP_eq_zero]
      intro task hmem
      rcases List.mem_append.mp hmem with hmem | hmem
      · obtain ⟨p, -, rfl⟩ := List.mem_map.mp hmem
        exact Bool.false_ne_true
      · obtain ⟨p, -, rfl⟩ := List.mem_map.mp hmem
        exact Bool.false_ne_true
    obtain ⟨s₁, hreaches, htasks₁, hannounced₁, houtcome₁⟩ :=
      exists_reaches_page (e := e) hrunning hidle htask
    have hlined : s₁.tasks = lined (done ++ [path]) rest := by
      rw [htasks₁, htasks, lined, lined, List.set_append_right _ _ (by simp)]
      simp
    have hlength : s₁.tasks.length = s.tasks.length := by rw [htasks₁, List.length_set]
    rw [hannounced] at houtcome₁
    rw [exportPages_cons, ← houtcome₁, Export.andThen]
    -- a page that stops the run leaves the others waiting, and no other page is exported
    cases hstopped : s₁.outcome.stopped with
    | none =>
      obtain ⟨s₂, hreaches₂, houtcome₂, hfinished⟩ :=
        ih hlined (by rw [hannounced₁, hannounced, List.length_append]; rfl) hstopped
      rw [hlength, List.length_append] at houtcome₂
      rw [List.append_assoc] at hfinished
      exact ⟨s₂, hreaches.trans hreaches₂, houtcome₂, hfinished⟩
    | some f =>
      refine ⟨s₁, hreaches, rfl, fun hnone => ?_⟩
      rw [hstopped] at hnone
      cases hnone

/-! ### Pages in any order -/

/-- Outcomes that differ at most in what was done in order. -/
structure Alike (o o' : Outcome) : Prop where
  tree : o.tree = o'.tree
  report : o.progress.report = o'.progress.report
  stopped : o.stopped = o'.stopped

/-- A page that has the same result ends the same. -/
theorem alike_concluded {p q : Progress} (htree : p.tree = q.tree) (hreport : p.report = q.report)
    (path : String) (result : Except Failure Unit) :
    Alike (concluded p path result) (concluded q path result) := by
  rw [concluded, concluded, hreport]
  cases q.report.addPage path result with
  | ok report => exact ⟨htree, rfl, rfl⟩
  | error f => exact ⟨htree, hreport, rfl⟩

/-- Announced tasks in front of waiting ones. -/
def begun (announced waiting : List String) : List PageTask :=
  announced.map (fun path => ⟨path, .announced⟩) ++ waiting.map (fun path => ⟨path, .waiting⟩)

/-- With a job for every page, all tasks can be announced before any of them renders its page. -/
theorem exists_reaches_begun {announced waiting : List String}
    (htasks : s.tasks = begun announced waiting) (hjobs : s.tasks.length ≤ max 1 e.config.jobs)
    (hrunning : s.outcome.stopped = none) :
    ∃ s', Reaches e s s' ∧ s'.tasks = begun (announced ++ waiting) [] ∧
      Alike s'.outcome s.outcome := by
  induction waiting generalizing s announced with
  | nil => exact ⟨s, .refl s, by rw [htasks, List.append_nil], rfl, rfl, rfl⟩
  | cons path rest ih =>
    have htask : s.tasks[announced.length]? = some ⟨path, .waiting⟩ := by
      rw [htasks, begun, List.getElem?_append_right (by simp)]
      simp
    -- the task itself is not under way, so there is a job left for it
    have hfree : s.running < max 1 e.config.jobs := by
      refine Nat.lt_of_lt_of_le (List.countP_le_length.lt_of_ne fun heq => ?_) hjobs
      exact Bool.false_ne_true (List.countP_eq_length.mp heq _ (List.mem_of_getElem? htask))
    have hadvance : advance e announced.length s = some (s.announce announced.length path) := by
      rw [advance, hrunning, htask]
      simp [hfree]
    have hset : (s.announce announced.length path).tasks =
        s.tasks.set announced.length ⟨path, .announced⟩ := rfl
    have htasks' : (s.announce announced.length path).tasks = begun (announced ++ [path]) rest := by
      rw [hset, htasks, begun, begun, List.set_append_right _ _ (by simp)]
      simp
    obtain ⟨s', hreaches, hbegun, halike⟩ :=
      ih htasks' (by rwa [hset, List.length_set]) hrunning
    rw [List.append_assoc] at hbegun
    exact ⟨s', .step _ hadvance hreaches, hbegun, halike.tree, halike.report, halike.stopped⟩

/-- Tasks of which those of some pages are announced, and all others finished. -/
def unfinished (plan pages : List String) : List PageTask :=
  plan.map fun path => ⟨path, if path ∈ pages then .announced else .finished⟩

/-- One task more that is finished. -/
theorem set_unfinished {plan rest : List String} (hnodup : plan.Nodup)
    (hpath : plan[i]? = some path) (hrest : path ∉ rest) :
    (unfinished plan (path :: rest)).set i ⟨path, .finished⟩ = unfinished plan rest := by
  have hlt : i < plan.length := (List.getElem?_eq_some_iff.mp hpath).1
  refine List.ext_getElem? fun j => ?_
  rw [List.getElem?_set, unfinished, unfinished, List.length_map, List.getElem?_map,
    List.getElem?_map]
  by_cases hij : i = j
  · rw [if_pos hij, if_pos hlt, ← hij, hpath, Option.map_some, if_neg hrest]
  · rw [if_neg hij]
    refine Option.map_congr fun other hother => ?_
    have hne : other ≠ path := by
      rintro rfl
      exact hij ((List.getElem?_inj hlt hnodup).mp (hpath.trans (Option.mem_def.mp hother).symm))
    simp [hne]

/-- Announced tasks can finish in any order, each without a move of another one. -/
theorem exists_reaches_finished {plan order : List String} (hplan : plan.Nodup)
    (horder : order.Nodup) (hsubset : order ⊆ plan) (htasks : s.tasks = unfinished plan order)
    (hrunning : s.outcome.stopped = none) (total index : ℕ) {p : Progress}
    (htree : s.outcome.tree = p.tree) (hreport : s.outcome.progress.report = p.report) :
    ∃ s', Reaches e s s' ∧ Alike s'.outcome (e.exportPages total index order p) ∧
      (s'.outcome.stopped = none → s'.tasks = unfinished plan []) := by
  induction order generalizing s index p with
  | nil => exact ⟨s, .refl s, ⟨htree, hreport, hrunning⟩, fun _ => htasks⟩
  | cons path rest ih =>
    obtain ⟨hrest, hnodup⟩ := List.nodup_cons.mp horder
    obtain ⟨i, hi⟩ := List.mem_iff_getElem?.mp (hsubset List.mem_cons_self)
    have htask : s.tasks[i]? = some ⟨path, .announced⟩ := by
      rw [htasks, unfinished, List.getElem?_map, hi, Option.map_some, if_pos List.mem_cons_self]
    obtain ⟨s₁, hreaches, htasks₁, -, houtcome⟩ := finishesWith_render (e := e) hrunning htask rfl
    have hfirst : Alike s₁.outcome (e.exportPages total index [path] p) := by
      rw [houtcome, exportPages_singleton, ← htree]
      refine alike_concluded ?_ ?_ path _
      · rfl
      · exact hreport
    rw [exportPages_cons, Export.andThen, ← hfirst.stopped]
    -- a page that stops the run leaves the other tasks where they are
    cases hstopped : s₁.outcome.stopped with
    | some f =>
      refine ⟨s₁, hreaches, hfirst, fun hnone => ?_⟩
      rw [hstopped] at hnone
      cases hnone
    | none =>
      obtain ⟨s', hreaches', halike, hfinished⟩ := ih hnodup (List.subset_of_cons_subset hsubset)
        (by rw [htasks₁, htasks, set_unfinished hplan hi hrest]) hstopped _ hfirst.tree
        hfirst.report
      exact ⟨s', hreaches.trans hreaches', halike, hfinished⟩

/-- **Pages can end in any order** if there is a job for each of them. What a run comes to in this
way is what exporting them one after the other in that order comes to. -/
theorem exists_reaches_of_perm {plan order : List String} (hnodup : plan.Nodup)
    (hjobs : plan.length ≤ max 1 e.config.jobs) (horder : order.Perm plan) (total index : ℕ)
    (t : FileTree) :
    ∃ s, Reaches e (start plan t) s ∧
      Alike s.outcome (e.exportPages total index order { tree := t }) ∧
        (s.outcome.stopped = none → ∀ task ∈ s.tasks, task.stage = .finished) := by
  have hlength : (start plan t).tasks.length = plan.length := List.length_map _
  have hbegun : (start plan t).tasks = begun [] plan := rfl
  obtain ⟨s₁, hreaches, htasks, halike⟩ :=
    exists_reaches_begun (e := e) hbegun (hlength ▸ hjobs) rfl
  have hunfinished : s₁.tasks = unfinished plan order := by
    rw [htasks, begun, List.map_nil, List.append_nil, List.nil_append]
    exact List.map_congr_left fun path hpath => by rw [if_pos (horder.mem_iff.mpr hpath)]
  obtain ⟨s, hreaches', hends, hfinished⟩ := exists_reaches_finished (e := e)
    (p := { tree := t }) hnodup (horder.nodup_iff.mpr hnodup) horder.subset hunfinished
    halike.stopped total index halike.tree halike.report
  refine ⟨s, hreaches.trans hreaches', hends, fun hnone task htask => ?_⟩
  rw [hfinished hnone] at htask
  obtain ⟨path, -, rfl⟩ := List.mem_map.mp htask
  rw [if_neg List.not_mem_nil]

end Schedule

end SiteSnapshot
