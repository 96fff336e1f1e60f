import SiteSnapshot.Proofs.FileTree.Walks
import SiteSnapshot.Proofs.Layout.Effects

/-!
# What one output adds to a tree

Below a directory without links, plain names have one place. Making a directory there and writing a
file there both **add** an entry to the tree (`Adds`): the entry is at the place, directories are
above it, and every other place is as it was.

That a directory or a file was added says that its path has no fault (`adds_of_ensureDir`,
`adds_of_write`). In turn it can be added if its path has no fault and there is space for it
(`HasSpace`, `exists_ensureDir_eq`, `exists_output_eq`), as there is in a tree that develops to one
with the entry (`Develops.hasSpace`).
-/

namespace SiteSnapshot

open FileTree

namespace FileTree

variable {s t t' u : FileTree} {dir : FilePath} {loc : Location} {init names : List String}
  {name : String} {e : Entry}

/-! ### Ways without a fault -/

theorem wayFault?_eq_none_iff {path : FilePath} :
    wayFault? path names = none ↔ pathFault? path = none ∧ ∀ s ∈ names, ¬TooLong s := by
  rw [wayFault?, Option.or_eq_none_iff]
  simp

/-- What is above a way without a fault has none. -/
theorem wayFault?_top_above (hnames : ∀ s ∈ names, IsName s ∧ IsPlain s)
    (h : wayFault? (dir.below names) names = none) (hinit : init <+: names) (hne : init ≠ names) :
    wayFault? (dir.below init).top init = none := by
  induction names using List.reverseRecOn with
  | nil => exact absurd (List.prefix_nil.mp hinit) hne
  | append_singleton names name ih =>
    obtain ⟨hpath, hshort⟩ := wayFault?_eq_none_iff.mp h
    have hshort' : ∀ s ∈ names, ¬TooLong s := fun s hs => hshort s (List.mem_append_left _ hs)
    obtain ⟨rest, hrest⟩ := FilePath.exists_join_eq_top_append (hnames name (by simp)).1
      (dir.below names)
    rw [FilePath.below_append_singleton, hrest] at hpath
    have htop := pathFault?_of_append hpath
    rcases List.prefix_concat_iff.mp hinit with heq | hinit
    · exact absurd heq hne
    by_cases heq : init = names
    · rw [heq]
      exact wayFault?_eq_none_iff.mpr ⟨htop, hshort'⟩
    · have hnames' : ∀ s ∈ names, IsName s ∧ IsPlain s :=
        fun s hs => hnames s (List.mem_append_left _ hs)
      have hnil : names ≠ [] := by
        rintro rfl
        exact heq (List.prefix_nil.mp hinit)
      rw [FilePath.top_below hnames' hnil] at htop
      exact ih hnames' (wayFault?_eq_none_iff.mpr ⟨htop, hshort'⟩) hinit heq

/-! ### Adding an entry -/

/-- A tree to which an entry was added at names below a place, with the directories above it. -/
structure Adds (t : FileTree) (loc : Location) (names : List String) (e : Entry) (t' : FileTree) :
    Prop where
  current : t'.current = t.current
  above : ∀ above, above <+: names → above ≠ names → t'.get? (loc ++ above) = some .directory
  last : t'.get? (loc ++ names) = some e
  other : ∀ place, (∀ above, above <+: names → place ≠ loc ++ above) →
    t'.get? place = t.get? place

/-- A tree with space for an entry at names below a place: there is nothing but directories above
it, and at its place there is nothing or an entry of its kind. -/
structure HasSpace (t : FileTree) (loc : Location) (names : List String) (e : Entry) : Prop where
  above : ∀ above, above <+: names → above ≠ names →
    t.get? (loc ++ above) = none ∨ t.get? (loc ++ above) = some .directory
  last : t.get? (loc ++ names) = none ∨
    e = .directory ∧ t.get? (loc ++ names) = some .directory ∨
    ∃ o o', e = .file o ∧ t.get? (loc ++ names) = some (.file o')

theorem Adds.of_growsTo (hgrows : GrowsTo t loc names t') (hdirs : AllDirectories t' loc names) :
    Adds t loc names .directory t' := by
  refine ⟨hgrows.current, fun above habove _ => hdirs above habove, hdirs names List.prefix_rfl,
    fun place hplace => ?_⟩
  rcases hgrows.get?_or place with hsame | ⟨-, -, above, habove, heq⟩
  · exact hsame
  · exact absurd heq (hplace above habove)

/-- Putting a file where there is room, after making the directories above it. -/
theorem Adds.of_put (hgrows : GrowsTo t loc init t') (hroom : HasRoom t' loc init name)
    (octets : Bytes) :
    Adds t loc (init ++ [name]) (.file octets) (t'.put (loc ++ init) name (.file octets)) := by
  refine ⟨(current_put _ _ _ _).trans hgrows.current, fun above habove hne => ?_, ?_,
    fun place hplace => ?_⟩
  · rcases List.prefix_concat_iff.mp habove with heq | habove
    · exact absurd heq hne
    · rw [hroom.get?_put, if_neg fun heq => hne (List.append_cancel_left heq)]
      exact hroom.dirs above habove
  · rw [hroom.get?_put, if_pos rfl]
  · rw [hroom.get?_put, if_neg (hplace _ List.prefix_rfl)]
    rcases hgrows.get?_or place with hsame | ⟨-, -, above, habove, heq⟩
    · exact hsame
    · exact absurd heq (hplace above (habove.trans (List.prefix_append init _)))

/-- What is not above the entry is as it was. -/
theorem Adds.get?_of_not_above (h : Adds t loc names e t') {more : List String}
    (hmore : ¬more <+: names) : t'.get? (loc ++ more) = t.get? (loc ++ more) :=
  h.other _ fun _ habove heq => hmore (List.append_cancel_left heq ▸ habove)

theorem Adds.get?_below (h : Adds t loc names e t') {more : List String} (hmore : more ≠ []) :
    t'.get? (loc ++ (names ++ more)) = t.get? (loc ++ (names ++ more)) := by
  refine h.get?_of_not_above fun hpre => hmore ?_
  have hlen := hpre.length_le
  rw [List.length_append] at hlen
  exact List.length_eq_zero_iff.mp (by omega)

/-- Where a developed tree has a directory, there was one or nothing. -/
theorem Develops.none_or_directory (h : Develops s u) {place : Location}
    (hdir : u.get? place = some .directory) :
    s.get? place = none ∨ s.get? place = some .directory := by
  cases hget : s.get? place with
  | none => exact Or.inl rfl
  | some e =>
    cases e with
    | directory => exact Or.inr rfl
    | file octets =>
      obtain ⟨octets', hfile⟩ := h.file hget
      rw [hdir] at hfile
      cases hfile
    | link text =>
      rw [h.link.mpr hget] at hdir
      cases hdir

/-- Where a developed tree has directories, nothing is in the way. -/
theorem Develops.clear (h : Develops s u) (hdirs : AllDirectories u loc names) :
    Clear s loc names :=
  fun above _ habove => h.none_or_directory (hdirs above habove)

/-- Where a developed tree has a file, there is room for it. -/
theorem Develops.free_or_file (h : Develops s u) {place : Location} {octets : Bytes}
    (hfile : u.get? place = some (.file octets)) :
    s.get? place = none ∨ ∃ old, s.get? place = some (.file old) := by
  cases hget : s.get? place with
  | none => exact Or.inl rfl
  | some e =>
    cases e with
    | directory =>
      rw [h.directory hget] at hfile
      cases hfile
    | file old => exact Or.inr ⟨old, rfl⟩
    | link text =>
      rw [h.link.mpr hget] at hfile
      cases hfile

/-- There is space for what a developed tree has. -/
theorem Develops.hasSpace (h : Develops s u) (hlast : u.get? (loc ++ names) = some e)
    (hlink : ∀ text, e ≠ .link text) : HasSpace s loc names e := by
  refine ⟨?_, ?_⟩
  · -- what is above an entry is a directory
    rintro above ⟨more, rfl⟩ hne
    rw [← List.append_assoc] at hlast
    exact h.none_or_directory
      (get?_of_get?_append hlast fun hnil => hne (by rw [hnil, List.append_nil]))
  cases e with
  | directory => exact (h.none_or_directory hlast).imp_right fun hdir => Or.inl ⟨rfl, hdir⟩
  | file octets =>
    refine (h.free_or_file hlast).imp_right fun hfile => Or.inr ?_
    obtain ⟨old, hold⟩ := hfile
    exact ⟨octets, old, rfl, hold⟩
  | link text => exact absurd rfl (hlink text)

/-- There is space for what is there. -/
theorem HasSpace.of_get? (h : t.get? (loc ++ names) = some e) (hlink : ∀ text, e ≠ .link text) :
    HasSpace t loc names e :=
  (Develops.refl t).hasSpace h hlink

/-- There is space where nothing is yet, below a directory. -/
theorem HasSpace.of_get?_eq_none (loc : Location) (init : List String) {name : String}
    {rest : List String} (hdir : t.get? (loc ++ init) = some .directory)
    (hnone : t.get? (loc ++ (init ++ [name])) = none) (e : Entry) :
    HasSpace t loc (init ++ name :: rest) e := by
  have hbelow : ∀ above, init ++ [name] <+: above → t.get? (loc ++ above) = none := by
    rintro above ⟨more, rfl⟩
    rw [← List.append_assoc]
    exact get?_append_eq_none hnone more
  have hnames : init ++ [name] <+: init ++ name :: rest := ⟨rest, by simp⟩
  refine ⟨fun above habove _ => ?_, Or.inl (hbelow _ hnames)⟩
  rcases List.prefix_or_prefix_of_prefix habove hnames with hpre | hpre
  · rcases List.prefix_concat_iff.mp hpre with rfl | ⟨more, rfl⟩
    · exact Or.inl hnone
    · refine Or.inr ?_
      by_cases hmore : more = []
      · rwa [hmore, List.append_nil] at hdir
      · rw [← List.append_assoc] at hdir
        exact get?_of_get?_append hdir hmore
  · exact Or.inl (hbelow above hpre)

theorem NoLinks.of_develops (h : NoLinks s loc) (hst : Develops s t) : NoLinks t loc :=
  fun names text hlink => h names text (hst.link.mp hlink)

/-- No link is below a place if none is above it. -/
theorem NoLinks.append (h : NoLinks t loc) (names : List String) : NoLinks t (loc ++ names) :=
  fun more text hlink => h (names ++ more) text (List.append_assoc loc names more ▸ hlink)

end FileTree

namespace Output

variable {s s' u : FileTree} {root : FilePath} {loc : Location} {names : List String}
  {octets : Bytes}

/-- Without links, a directory is made on the way that its path says. -/
theorem exists_prefix_of_ensureDir {path : FilePath} {place : Location} (hlinks : NoLinks s [])
    (hnone : s.get? place = none) (hmade : (ensureDir s path).1.get? place ≠ none) :
    ∃ init, init <+: namesOf path ∧ place = placeFrom (s.origin path) init := by
  rw [ensureDir_fst] at hmade
  split_ifs at hmade with hempty
  · exact absurd hnone hmade
  · exact exists_prefix_of_makeDirsWithin hlinks hnone hmade

theorem placeFault?_eq_none {path : FilePath} (h : wayFault? path names = none) :
    placeFault? path names = none := by
  rw [placeFault?, h]
  simp

/-- Steps behind those to a directory start at its place. -/
private theorem place_of_leadsTo (hleads : LeadsTo s root loc) (hlinks : NoLinks s loc)
    (hnames : ∀ s ∈ names, IsName s ∧ IsPlain s) {last : LastName} {target : Target}
    (hlast : names = [] → last = .followed)
    (h : follow s last maxLinks (s.origin root) (namesOf root ++ names) = .ok target) :
    target.place = loc ++ names := by
  obtain ⟨links, hway⟩ := exists_follow_append hleads.reached
  have hslash : names ≠ [""] := by
    rintro rfl
    exact (hnames "" List.mem_cons_self).1.1 rfl
  rw [hway s (.refl s) last _ hlast fun heq => absurd heq hslash] at h
  rw [← List.append_nil loc] at h
  exact place_of_follow hlinks (fun s hs => (hnames s hs).1.1)
    (Link.follow_of_forall_isPlain (fun s hs => (hnames s hs).2) []) h

section Steps

variable (hcurrent : s.get? s.current = some .directory) (hleads : LeadsTo s root loc)
  (hnames : ∀ s ∈ names, IsName s ∧ IsPlain s) (hne : names ≠ [])

include hcurrent hleads hnames hne

/-- **A directory that is made** is added, and its path, which has no fault, leads to it. -/
theorem adds_of_ensureDir (hlinks : NoLinks s loc)
    (h : ensureDir s (root.below names) = (s', .ok ())) :
    wayFault? (root.below names) names = none ∧ Adds s loc names .directory s' ∧
      LeadsTo s' (root.below names) (loc ++ names) := by
  have hisName : ∀ s ∈ names, IsName s := fun s hs => (hnames s hs).1
  have hgrows := grows_of_ensureDir h
  obtain ⟨place, hplace⟩ := exists_leadsTo_of_ensureDir hcurrent h
  have hleads' := hleads.of_keepsPlaces hgrows.develops.keepsPlaces
  have hreached := hplace.reached
  rw [origin, FilePath.isAbsolute_below hisName, FilePath.namesOf_below hisName] at hreached
  obtain rfl : place = loc ++ names := place_of_leadsTo hleads'
    (hlinks.of_develops hgrows.develops) hnames (fun heq => absurd heq hne) hreached
  -- the directory is at its place now, so nothing was in the way
  have hdirs : AllDirectories s' loc names := by
    intro above habove
    by_cases heq : above = names
    · rw [heq]
      exact hplace.isDirectory
    · obtain ⟨more, rfl⟩ := habove
      have hdir := hplace.isDirectory
      rw [← List.append_assoc] at hdir
      exact get?_of_get?_append hdir fun hnil => heq (by rw [hnil, List.append_nil])
  obtain ⟨s'', hgrowsTo, hresult, hmade⟩ :=
    ensureDir_below hleads hnames (hgrows.develops.clear hdirs)
  rw [FilePath.top_below hnames hne] at hresult hmade
  rw [h] at hresult
  have hfault : placeFault? (root.below names) names = none := by
    cases hfault : placeFault? (root.below names) names with
    | none => rfl
    | some f =>
      rw [hfault] at hresult
      cases congrArg Prod.snd hresult
  obtain rfl : s' = s'' := congrArg Prod.fst hresult
  refine ⟨?_, .of_growsTo hgrowsTo (hmade hfault), hplace⟩
  have hempty : root.below names ≠ "" := by
    intro heq
    have hbelow := FilePath.namesOf_below hisName root
    rw [heq, namesOf_empty] at hbelow
    exact hne (List.append_eq_nil_iff.mp hbelow.symm).2
  rwa [placeFault?, if_neg hempty, Option.map_eq_none_iff] at hfault

omit hcurrent in
/-- **A directory can be made** where there is space for it, if its path has no fault. -/
theorem exists_ensureDir_eq (hspace : HasSpace s loc names .directory)
    (hfault : wayFault? (root.below names) names = none) :
    ∃ s', ensureDir s (root.below names) = (s', .ok ()) := by
  have hclear : Clear s loc names := by
    intro above _ habove
    by_cases heq : above = names
    · rw [heq]
      rcases hspace.last with hnone | ⟨-, hdir⟩ | ⟨o, o', hfile, -⟩
      · exact Or.inl hnone
      · exact Or.inr hdir
      · cases hfile
    · exact hspace.above above habove heq
  obtain ⟨s', -, hresult, -⟩ := ensureDir_below hleads hnames hclear
  rw [FilePath.top_below hnames hne, placeFault?_eq_none hfault] at hresult
  exact ⟨s', hresult⟩

omit hcurrent in
/-- **A file can be written** where there is space for it, if its path has no fault, and it is added
there, whatever links there are elsewhere. -/
theorem exists_output_eq {old : Bytes} (hspace : HasSpace s loc names (.file old))
    (hfault : wayFault? (root.below names) names = none) (octets : Bytes) :
    ∃ s', write s (root.below names) octets = (s', .ok ()) ∧
      Adds s loc names (.file octets) s' := by
  obtain ⟨init, name, rfl⟩ := (List.eq_nil_or_concat' names).resolve_left hne
  obtain ⟨hname, hplain⟩ := hnames name (by simp)
  have hclear : Clear s loc init := fun above _ habove =>
    hspace.above above (habove.trans (List.prefix_append init [name])) fun heq => by
      have hlen := habove.length_le
      rw [heq, List.length_append, List.length_singleton] at hlen
      omega
  have hlast : s.get? (loc ++ (init ++ [name])) = none ∨
      ∃ old, s.get? (loc ++ (init ++ [name])) = some (.file old) := by
    rcases hspace.last with hnone | ⟨hdir, -⟩ | ⟨o, o', -, hfile⟩
    · exact Or.inl hnone
    · cases hdir
    · exact Or.inr ⟨o', hfile⟩
  -- the directories are made first
  have hplace := placeFault?_eq_none (wayFault?_top_above hnames hfault
    (List.prefix_append init [name]) (by simp))
  obtain ⟨s₁, hgrows, hmade, hdirs⟩ :=
    ensureDir_below hleads (fun s hs => hnames s (List.mem_append_left _ hs)) hclear
  rw [hplace] at hmade
  have hroom : HasRoom s₁ loc init name :=
    ⟨hdirs hplace, by rwa [hgrows.get?_append (List.cons_ne_nil name [])]⟩
  have hparent : FilePath.parent? (root.below (init ++ [name])) = some (root.below init).top := by
    rw [FilePath.below_append_singleton, FilePath.parent?_join hname hplain.1]
  refine ⟨_, ?_, .of_put hgrows hroom octets⟩
  rw [write_of_ok hparent hmade, writeFile_below (hleads.of_keepsPlaces hgrows.keepsPlaces) hnames
    hroom, hfault]
  rfl

/-- **A file that is written** is added, and its path has no fault. -/
theorem adds_of_write (hlinks : NoLinks s loc)
    (h : write s (root.below names) octets = (s', .ok ())) :
    wayFault? (root.below names) names = none ∧ Adds s loc names (.file octets) s' := by
  have hisName : ∀ s ∈ names, IsName s := fun s hs => (hnames s hs).1
  have hdevelops := develops_of_write hcurrent h
  obtain ⟨place, hfile⟩ := exists_fileAt_of_write hcurrent h
  have hcurrent' := hdevelops.get?_current hcurrent
  obtain ⟨-, -, hreached⟩ := resolve_eq_ok_iff.mp hfile
  rw [(hfile.exists_stepsOf hcurrent').1, origin, FilePath.isAbsolute_below hisName,
    FilePath.namesOf_below hisName] at hreached
  obtain rfl : place = loc ++ names := place_of_leadsTo
    (hleads.of_keepsPlaces hdevelops.keepsPlaces) (hlinks.of_develops hdevelops) hnames
    (fun heq => absurd heq hne) hreached
  -- the file is at its place now, so there was space for it
  have hget := hfile.get? hcurrent'
  have hspace : HasSpace s loc names (.file octets) := hdevelops.hasSpace hget (by simp)
  have hfault : wayFault? (root.below names) names = none := by
    obtain ⟨init, name, rfl⟩ := (List.eq_nil_or_concat' names).resolve_left hne
    have hresult := write_below_snd hleads hnames
      (hdevelops.clear (allDirectories_of_get? hget)) (hdevelops.free_or_file hget) octets
    rw [h] at hresult
    cases hfault : fault? root init name with
    | none => exact Option.map_eq_none_iff.mp (Option.or_eq_none_iff.mp hfault).2
    | some f =>
      rw [hfault] at hresult
      cases hresult
  obtain ⟨s'', hwrite, hadds⟩ := exists_output_eq hleads hnames hne hspace hfault octets
  obtain rfl : s' = s'' := congrArg Prod.fst (h.symm.trans hwrite)
  exact ⟨hfault, hadds⟩

end Steps

end Output

end SiteSnapshot
