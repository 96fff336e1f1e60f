import SiteSnapshot.Proofs.FileTree.Containment

/-!
# What lies below a place

A walk of a directory lists what lies below its place, in order (`mem_below_iff`, `sorted_below`),
so it is decided by the entries there. What a path of plain names comes to below the directory is
decided by them as well, as long as no link leads out: trees with the same entries below a place are
walked and read the same there (`below_congr`, `read_below_congr`).

Without any links, a path leads to the place that it says as text (`placeOf`, `LeadsTo.eq_placeOf`).
-/

namespace SiteSnapshot.FileTree

variable {s t : FileTree} {path dir : FilePath} {loc : Location} {names : List String}

/-! ### Where paths lead without links -/

theorem NoLinks.put (h : NoLinks t loc) {e : Entry} (he : ∀ text, e ≠ .link text)
    (place : Location) (name : String) : NoLinks (t.put place name e) loc := by
  intro names text hlink
  by_cases hput : t.get? place = some .directory ∧ t.get? (place ++ [name]) ≠ some .directory
  · rw [get?_put hput.1 hput.2] at hlink
    split_ifs at hlink
    · exact he text (Option.some.inj hlink)
    · exact h names text hlink
  · rw [FileTree.put, dif_neg hput] at hlink
    exact h names text hlink

/-- The place that steps from a directory say. The root has itself above it. -/
def placeFrom (dir : Location) : List String → Location
  | [] => dir
  | step :: rest =>
    if step = "." then placeFrom dir rest
    else if step = ".." then placeFrom dir.dropLast rest
    else placeFrom (dir ++ [step]) rest

/-- The place that a path says. -/
def placeOf (t : FileTree) (path : FilePath) : Location :=
  placeFrom (t.origin path) (namesOf path)

theorem placeFrom_append (dir : Location) (names more : List String) :
    placeFrom dir (names ++ more) = placeFrom (placeFrom dir names) more := by
  induction names generalizing dir with
  | nil => rfl
  | cons step rest ih =>
    rw [List.cons_append, placeFrom, placeFrom]
    split_ifs <;> exact ih _

/-- Plain names lead down. -/
theorem placeFrom_of_forall_isPlain (h : ∀ s ∈ names, IsPlain s) (dir : Location) :
    placeFrom dir names = dir ++ names := by
  induction names generalizing dir with
  | nil => simp [placeFrom]
  | cons name rest ih =>
    obtain ⟨hname, hrest⟩ := List.forall_mem_cons.mp h
    rw [placeFrom, if_neg hname.1, if_neg hname.2, ih hrest, List.append_assoc,
      List.singleton_append]

/-- Plain names below a directory. -/
theorem placeOf_join (t : FileTree) (dir : FilePath) (h : ∀ s ∈ names, IsName s ∧ IsPlain s) :
    t.placeOf (FilePath.join dir ("/".intercalate names)) = t.placeOf dir ++ names := by
  have hrelative := FilePath.isAbsolute_intercalate fun s hs => (h s hs).1
  rw [placeOf, origin, FilePath.isAbsolute_join_of_relative hrelative,
    FilePath.namesOf_join_of_relative hrelative, namesOf_intercalate fun s hs => (h s hs).1,
    placeFrom_append, placeFrom_of_forall_isPlain fun s hs => (h s hs).2]
  rfl

/-- **Without links steps lead where they say.** -/
theorem place_eq_placeFrom (hlinks : NoLinks t []) {last : LastName} {links : ℕ} {dir : Location}
    {steps : List String} {target : Target} (hsteps : ∀ s ∈ steps, s ≠ "")
    (h : follow t last links dir steps = .ok target) : target.place = placeFrom dir steps := by
  fun_induction follow t last links dir steps with
  | case1 links dir =>
    obtain rfl := Except.ok.inj h
    rfl
  | case2 links dir name rest hstay ih =>
    obtain ⟨hname, hrest⟩ := List.forall_mem_cons.mp hsteps
    rw [placeFrom, if_pos (hstay.resolve_left hname)]
    exact ih hrest h
  | case3 links dir rest _ ih =>
    rw [placeFrom, if_neg (by decide), if_pos rfl]
    exact ih (List.forall_mem_cons.mp hsteps).2 h
  | case6 links dir name rest hstay hup _ _ _ hrest
  | case9 links dir name rest hstay hup _ _ octets _ hrest =>
    obtain rfl := Except.ok.inj h
    rw [placeFrom, if_neg (not_or.mp hstay).2, if_neg hup, List.isEmpty_iff.mp hrest]
    rfl
  | case8 links dir name rest hstay hup _ _ _ ih =>
    rw [placeFrom, if_neg (not_or.mp hstay).2, if_neg hup]
    exact ih (List.forall_mem_cons.mp hsteps).2 h
  | case11 links dir name rest _ _ _ _ text hget _
  | case13 dir name rest _ _ _ _ text hget _ links _ _ => exact absurd hget (hlinks _ text)
  | _ => cases h

theorem LeadsTo.eq_placeOf (h : LeadsTo t path loc) (hlinks : NoLinks t []) :
    loc = t.placeOf path :=
  place_eq_placeFrom hlinks (fun _ hs => (isName_of_mem_namesOf hs).1) h.reached

/-- Without links, one directory is made where its path says. -/
theorem eq_placeOf_of_makeOne (hlinks : NoLinks t []) {place : Location}
    (hnone : t.get? place = none) (hmade : (t.makeOne path).1.get? place ≠ none) :
    place = t.placeOf path := by
  rcases makeOne_cases t path with ⟨dir, name, hresolve, hmake⟩ | ⟨-, hmake⟩ | ⟨e, -, -, hmake⟩
  · obtain ⟨-, -, hfollow⟩ := resolveNew_eq_ok_iff.mp hresolve
    have hplace := place_eq_placeFrom hlinks (fun _ hs => (isName_of_mem_namesOf hs).1) hfollow
    rw [hmake] at hmade
    by_contra hne
    by_cases hdir : t.get? dir = some .directory
    · rw [get?_put hdir (by simp [get?_of_follow_free hfollow]),
        if_neg fun heq => hne (heq.trans hplace)] at hmade
      exact hmade hnone
    -- without a directory for it nothing is put
    · rw [FileTree.put, dif_neg fun h => hdir h.1] at hmade
      exact hmade hnone
  · rw [hmake] at hmade
    exact absurd hnone hmade
  · rw [hmake] at hmade
    exact absurd hnone hmade

/-- **Without links, directories are made on the way of their path**, as the path says it. -/
theorem exists_prefix_of_makeDirsWithin (hlinks : NoLinks t []) {place : Location} {bound : ℕ}
    (hnone : t.get? place = none) (hmade : (makeDirsWithin bound t path).1.get? place ≠ none) :
    ∃ init, init <+: namesOf path ∧ place = placeFrom (t.origin path) init := by
  induction bound generalizing path with
  | zero => exact absurd hnone hmade
  | succ bound ih =>
    by_cases hpath : path = ""
    · subst hpath
      exact absurd hnone hmade
    -- what is made for the directory above is on the way to it
    have habove : ∀ {parent : FilePath}, FilePath.parent? path = some parent →
        (makeDirsWithin bound t parent).1.get? place ≠ none →
          ∃ init, init <+: namesOf path ∧ place = placeFrom (t.origin path) init := by
      intro parent hparent hmade
      obtain ⟨init, hinit, hplace⟩ := ih hmade
      obtain ⟨-, habsolute, -, name, m, n, hnames, -⟩ := FilePath.exists_of_parent? hparent
      rw [origin, habsolute] at hplace
      exact ⟨init, hinit.trans (hnames ▸ List.prefix_append _ _), hplace⟩
    rcases makeDirsWithin_cases bound t hpath with
      ⟨-, h⟩ | ⟨-, -, h⟩ | ⟨parent, t', -, hparent, ⟨e, hresult, h⟩ | ⟨hresult, h⟩⟩
    · rw [h] at hmade
      exact ⟨_, List.prefix_rfl, eq_placeOf_of_makeOne hlinks hnone hmade⟩
    · rw [h] at hmade
      exact absurd hnone hmade
    · rw [h] at hmade
      exact habove hparent (by rwa [hresult])
    · have hgrows := Grows.makeDirsWithin bound t parent
      rw [hresult] at hgrows
      rw [h] at hmade
      cases hget : t'.get? place with
      | none =>
        refine ⟨_, List.prefix_rfl, ?_⟩
        have hplace := eq_placeOf_of_makeOne
          (fun names text hlink => hlinks names text (hgrows.develops.link.mp hlink)) hget hmade
        rwa [placeOf, hgrows.develops.origin_eq] at hplace
      | some e => exact habove hparent (by rw [hresult, hget]; simp)

/-! ### The entries below a place -/

/-- What is listed below a place is what is there. -/
theorem mem_below_iff {e : Entry} :
    (names, e) ∈ t.below loc ↔ names ≠ [] ∧ t.get? (loc ++ names) = some e := by
  rw [below, List.mem_filterMap]
  constructor
  · rintro ⟨⟨place, e'⟩, hmem, hlisted⟩
    split_ifs at hlisted with hbelow
    obtain ⟨⟨names', rfl⟩, hlonger⟩ := hbelow.imp_left List.isPrefixOf_iff_prefix.mp
    obtain ⟨rfl, rfl⟩ := Prod.mk.inj (Option.some.inj hlisted)
    rw [List.drop_left]
    have hne : names' ≠ [] := by
      rintro rfl
      simp at hlonger
    exact ⟨hne, (get?_eq_some_iff (by simp [hne])).mpr hmem⟩
  · rintro ⟨hne, hget⟩
    refine ⟨(loc ++ names, e), (get?_eq_some_iff (by simp [hne])).mp hget, ?_⟩
    have hpos := List.length_pos_iff.mpr hne
    rw [if_pos ⟨List.isPrefixOf_iff_prefix.mpr (List.prefix_append loc names), by simp [hpos]⟩,
      List.drop_left]

/-- What comes before in the same directory is decided by the names there. -/
theorem lt_of_append_lt_append {l m : List String} (loc : List String)
    (h : loc ++ l < loc ++ m) : l < m := by
  induction loc with
  | nil => exact h
  | cons first rest ih =>
    rcases List.cons_lt_cons_iff.mp h with hlt | ⟨-, hrest⟩
    · exact absurd hlt (String.lt_irrefl first)
    · exact ih hrest

theorem sorted_below (t : FileTree) (loc : Location) : Entry.Sorted (t.below loc) := by
  rw [below, Entry.Sorted, List.pairwise_filterMap]
  refine t.sorted.imp fun {p q} hpq p' hp q' hq => ?_
  split_ifs at hp hq with hq' hp'
  obtain ⟨⟨l, hl⟩, -⟩ := hp'.imp_left List.isPrefixOf_iff_prefix.mp
  obtain ⟨⟨m, hm⟩, -⟩ := hq'.imp_left List.isPrefixOf_iff_prefix.mp
  obtain rfl := Option.some.inj hp
  obtain rfl := Option.some.inj hq
  rw [← hl, ← hm] at hpq
  rw [← hl, ← hm, List.drop_left, List.drop_left]
  exact lt_of_append_lt_append loc hpq

/-- **The same entries below a place** are listed the same. -/
theorem below_congr (h : ∀ names, s.get? (loc ++ names) = t.get? (loc ++ names)) :
    s.below loc = t.below loc := by
  refine (sorted_below s loc).eq_of_mem_iff (sorted_below t loc) fun p => ?_
  rw [mem_below_iff, mem_below_iff, h]

/-! ### Walking -/

theorem LeadsTo.walk_eq (h : LeadsTo t path loc) (hne : path ≠ "")
    (hfault : pathFault? path = none) : t.walk path = t.below loc := by
  rw [walk, h.resolve_followed hne hfault]

/-- A directory that can be walked is led to by a path without a fault. -/
theorem exists_faultless_leadsTo (hcurrent : t.get? t.current = some .directory)
    (h : t.isDir path = true) : path ≠ "" ∧ pathFault? path = none ∧ ∃ loc, LeadsTo t path loc := by
  obtain ⟨loc, hpresent⟩ := isDir_iff.mp h
  obtain ⟨hne, hfault, -⟩ := resolve_eq_ok_iff.mp hpresent
  exact ⟨hne, hfault, exists_leadsTo_of_isDir hcurrent h⟩

/-- Names of directories lead down to the last one. -/
theorem follow_of_allDirectories (hnames : ∀ s ∈ names, IsName s ∧ IsPlain s)
    (hshort : ∀ s ∈ names, ¬TooLong s) (hdirs : AllDirectories t loc names) (last : LastName)
    (links : ℕ) : follow t last links loc names = .ok (.present (loc ++ names) .directory) := by
  induction names generalizing loc with
  | nil =>
    have hdir := hdirs [] List.prefix_rfl
    rw [List.append_nil] at hdir ⊢
    rw [follow, hdir, Option.getD_some]
  | cons name rest ih =>
    obtain ⟨⟨hname, hplain⟩, hrest⟩ := List.forall_mem_cons.mp hnames
    obtain ⟨hlong, hshort⟩ := List.forall_mem_cons.mp hshort
    have hreads : Reads last name rest := by
      refine .of_isPlain hname hplain fun heq => ?_
      exact (hrest "" (heq ▸ List.mem_cons_self)).1.1 rfl
    have hdirs' : AllDirectories t (loc ++ [name]) rest := by
      intro above habove
      rw [List.append_assoc]
      exact hdirs _ (List.cons_prefix_cons.mpr ⟨rfl, habove⟩)
    rw [follow_directory hreads hlong (hdirs [name] (by simp)), ih hrest hshort hdirs',
      List.append_assoc, List.singleton_append]

/-- A directory below another is led to by its names. -/
theorem LeadsTo.below (h : LeadsTo t dir loc) (hnames : ∀ s ∈ names, IsName s ∧ IsPlain s)
    (hshort : ∀ s ∈ names, ¬TooLong s) (hdirs : AllDirectories t loc names) :
    LeadsTo t (dir.below names) (loc ++ names) := by
  refine ⟨?_, hdirs names List.prefix_rfl⟩
  obtain ⟨links, hlinks⟩ := exists_follow_append h.reached
  have hisName : ∀ s ∈ names, IsName s := fun s hs => (hnames s hs).1
  rw [origin, FilePath.isAbsolute_below hisName, FilePath.namesOf_below hisName]
  exact (hlinks t (.refl t) .followed names (fun _ => rfl) (by simp)).trans
    (follow_of_allDirectories hnames hshort hdirs .followed links)

/-- A directory in the current directory is led to by its name. -/
theorem leadsTo_of_name {name : String} (hname : IsName name) (hplain : IsPlain name)
    (hshort : ¬TooLong name) (hcurrent : t.get? t.current = some .directory)
    (hdir : t.get? (t.current ++ [name]) = some .directory) :
    LeadsTo t name (t.current ++ [name]) := by
  have hbelow : FilePath.below "" [name] = name := by
    rw [FilePath.below_cons, FilePath.below_nil, FilePath.join_of_isName hname, if_pos rfl]
  have hdirs : AllDirectories t t.current [name] := by
    intro above habove
    rcases List.prefix_cons_iff.mp habove with rfl | ⟨more, rfl, hmore⟩
    · rwa [List.append_nil]
    · rwa [List.prefix_nil.mp hmore]
  have h := (leadsTo_empty hcurrent).below (by simp [hname, hplain]) (by simpa using hshort) hdirs
  rwa [hbelow] at h

/-! ### Reading -/

/-- Below a place, steps down read nothing but the entries there. -/
theorem follow_congr (hsame : ∀ names, s.get? (loc ++ names) = t.get? (loc ++ names))
    (hlinks : NoLinks t loc) (hnames : ∀ s ∈ names, IsName s ∧ IsPlain s) (last : LastName)
    (links : ℕ) (dir : Location) :
    follow s last links (loc ++ dir) names = follow t last links (loc ++ dir) names := by
  induction names generalizing dir with
  | nil => rw [follow, follow, hsame]
  | cons name rest ih =>
    obtain ⟨⟨hname, hplain⟩, hrest⟩ := List.forall_mem_cons.mp hnames
    have hreads : Reads last name rest := by
      refine .of_isPlain hname hplain fun heq => ?_
      exact (hrest "" (heq ▸ List.mem_cons_self)).1.1 rfl
    by_cases hlong : name.utf8ByteSize > maxName
    · rw [follow_tooLong hreads hlong, follow_tooLong hreads hlong]
    have hget : s.get? (loc ++ dir ++ [name]) = t.get? (loc ++ dir ++ [name]) := by
      rw [List.append_assoc, hsame]
    cases ht : t.get? (loc ++ dir ++ [name]) with
    | none => rw [follow_free hreads hlong ht, follow_free hreads hlong (hget.trans ht)]
    | some e =>
      cases e with
      | directory =>
        rw [follow_directory hreads hlong ht, follow_directory hreads hlong (hget.trans ht),
          List.append_assoc]
        exact ih hrest _
      | file octets => rw [follow_file hreads hlong ht, follow_file hreads hlong (hget.trans ht)]
      | link text =>
        rw [List.append_assoc] at ht
        exact absurd ht (hlinks _ text)

/-- **The same entries below a place** are read the same. -/
theorem read_below_congr (h : LeadsTo t dir loc) (hkeeps : KeepsPlaces t s)
    (hsame : ∀ names, s.get? (loc ++ names) = t.get? (loc ++ names)) (hlinks : NoLinks t loc)
    (hnames : ∀ s ∈ names, IsName s ∧ IsPlain s) (hne : names ≠ []) :
    s.read (dir.below names) = t.read (dir.below names) := by
  obtain ⟨links, hresolve⟩ := h.exists_resolve_below hnames hne
  have hfollow := follow_congr hsame hlinks hnames .followed links []
  rw [List.append_nil] at hfollow
  rw [read, read, hresolve s hkeeps, hresolve t (.refl t), hfollow]

end SiteSnapshot.FileTree
