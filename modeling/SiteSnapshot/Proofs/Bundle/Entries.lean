import SiteSnapshot.Proofs.Bundle.Building
import SiteSnapshot.Proofs.Bundle.Items

/-!
# Bundles of given entries

A bundle is meant to hold some files and directories. Whatever the order in which a walk lists them,
and whichever of the directories above them it lists besides (`Lists`), the items cover each other,
no file is in the way, and there are as many files.

A bundle in memory that has been built by adding the entries one by one, in any order, lists them
and has the contents of the files (`MemoryBundle.lists_ofEntries`, `MemoryBundle.read_ofEntries`).
It does not list the directories above an added directory.
-/

namespace SiteSnapshot

open FileTree

/-- A file with its contents, or a directory, by its names. -/
structure NamedEntry where
  names : List String
  octets? : Option Bytes
deriving DecidableEq, Repr

namespace NamedEntry

variable {entries : List NamedEntry} {e f : NamedEntry} {items items' : List BundleItem}
  {item other : BundleItem} {octets : Bytes}

/-- The path of an entry below the bundle. -/
def path (e : NamedEntry) : String :=
  "/".intercalate e.names

/-- Entries by names that are no steps, where no file is above another entry or is two entries. -/
structure Consistent (entries : List NamedEntry) : Prop where
  plain : ∀ e ∈ entries, e.names ≠ [] ∧ ∀ s ∈ e.names, IsName s ∧ IsPlain s
  file : ∀ e ∈ entries, ∀ f ∈ entries, e.octets?.isSome → e.names <+: f.names → e = f

theorem Consistent.namesOf_path (h : Consistent entries) (he : e ∈ entries) :
    namesOf e.path = e.names :=
  namesOf_intercalate fun s hs => ((h.plain e he).2 s hs).1

theorem Consistent.isPlainPath (h : Consistent entries) (he : e ∈ entries) :
    Bundle.IsPlainPath e.path :=
  Bundle.isPlainPath_intercalate (h.plain e he).2 (h.plain e he).1

/-- A file is decided by its path. -/
theorem Consistent.eq_of_path_eq (h : Consistent entries) (he : e ∈ entries) (hf : f ∈ entries)
    (hfile : e.octets?.isSome) (hpath : e.path = f.path) : e = f := by
  refine h.file e he f hf hfile ?_
  rw [← h.namesOf_path he, ← h.namesOf_path hf, hpath]

/-- The contents of the file at a path. -/
def bytesAt (entries : List NamedEntry) (path : String) : Bytes :=
  ((entries.find? fun e => e.octets?.isSome && e.path == path).bind (·.octets?)).getD []

theorem Consistent.bytesAt_eq (h : Consistent entries) (he : e ∈ entries)
    (hoctets : e.octets? = some octets) : bytesAt entries e.path = octets := by
  have hfile : e.octets?.isSome := by rw [hoctets, Option.isSome_some]
  have hexists : (entries.find? fun f => f.octets?.isSome && f.path == e.path).isSome :=
    List.find?_isSome.mpr ⟨e, he, by simp [hfile]⟩
  obtain ⟨f, hfind⟩ := Option.isSome_iff_exists.mp hexists
  have hfound := List.find?_some hfind
  rw [Bool.and_eq_true, beq_iff_eq] at hfound
  obtain rfl := h.eq_of_path_eq he (List.mem_of_find?_eq_some hfind) hfile hfound.2.symm
  rw [bytesAt, hfind, Option.bind_some, hoctets, Option.getD_some]

/-! ### Listing entries -/

/-- Items that **list** entries: every file and every directory, and no more than the directories
above them. -/
structure Lists (entries : List NamedEntry) (items : List BundleItem) : Prop where
  file : ∀ path, ⟨path, false⟩ ∈ items ↔ ∃ e ∈ entries, e.octets?.isSome ∧ e.path = path
  directory : ∀ e ∈ entries, e.octets? = none → ⟨e.path, true⟩ ∈ items
  only : ∀ path, ⟨path, true⟩ ∈ items → ∃ names, names ≠ [] ∧ path = "/".intercalate names ∧
    (⟨names, none⟩ ∈ entries ∨ ∃ e ∈ entries, names <+: e.names ∧ names ≠ e.names)
  nodup : ((items.filter (!·.isDir)).map (·.path)).Nodup

namespace Lists

/-- What an item of a listing is: a file, a directory that is an entry, or a directory above one. -/
theorem cases (h : Lists entries items) (hentries : Consistent entries) (hitem : item ∈ items) :
    (item.isDir = false ∧ ∃ e ∈ entries, e.octets?.isSome ∧ e.path = item.path) ∨
      item.isDir = true ∧ Bundle.IsPlainPath item.path ∧
        (⟨namesOf item.path, none⟩ ∈ entries ∨
          ∃ e ∈ entries, namesOf item.path <+: e.names ∧ namesOf item.path ≠ e.names) := by
  obtain ⟨path, isDir⟩ := item
  cases isDir with
  | false => exact Or.inl ⟨rfl, (h.file path).mp hitem⟩
  | true =>
    obtain ⟨names, hne, rfl, hnames⟩ := h.only path hitem
    have hplain : ∀ s ∈ names, IsName s ∧ IsPlain s := by
      rcases hnames with hmem | ⟨e, he, hpre, -⟩
      · exact (hentries.plain _ hmem).2
      · exact fun s hs => (hentries.plain e he).2 s (hpre.subset hs)
    refine Or.inr ⟨rfl, Bundle.isPlainPath_intercalate hplain hne, ?_⟩
    dsimp only
    rwa [namesOf_intercalate fun s hs => (hplain s hs).1]

theorem isPlainPath (h : Lists entries items) (hentries : Consistent entries) :
    ∀ item ∈ items, Bundle.IsPlainPath item.path := by
  intro item hitem
  rcases h.cases hentries hitem with ⟨-, e, he, -, hpath⟩ | ⟨-, hplain, -⟩
  · exact hpath ▸ hentries.isPlainPath he
  · exact hplain

/-- Every entry has an item. -/
theorem mem (h : Lists entries items) (he : e ∈ entries) : ⟨e.path, e.octets?.isNone⟩ ∈ items := by
  cases hoctets : e.octets? with
  | none => exact h.directory e he hoctets
  | some octets => exact (h.file e.path).mpr ⟨e, he, by simp [hoctets], rfl⟩

/-- **Listings of the same entries cover each other.** -/
theorem covers (h : Lists entries items) (h' : Lists entries items')
    (hentries : Consistent entries) : Bundle.Covers items items' := by
  intro item hitem
  rcases h'.cases hentries hitem with ⟨hfile, hentry⟩ | ⟨hdir, hplain, hmem | ⟨e, he, hpre, hne⟩⟩
  · have hmem := (h.file item.path).mpr hentry
    rw [← hfile] at hmem
    exact Or.inl hmem
  · have hmem := h.directory _ hmem rfl
    rw [path, hplain.2.2, ← hdir] at hmem
    exact Or.inl hmem
  · refine Or.inr ⟨hdir, _, h.mem he, ?_⟩
    rw [hentries.namesOf_path he]
    exact ⟨hpre, hne⟩

/-- No file of a listing is in the way. -/
theorem notInWay (h : Lists entries items) (hentries : Consistent entries) :
    ∀ item ∈ items, ∀ other ∈ items, Bundle.NotInWay item other := by
  intro item hitem other hother hfile hpre
  rcases h.cases hentries hitem with ⟨-, e, he, heFile, hpath⟩ | ⟨hdir, -⟩
  · rw [← hpath, hentries.namesOf_path he] at hpre ⊢
    rcases h.cases hentries hother with
      ⟨hotherFile, f, hf, -, hpath'⟩ | ⟨-, -, hmem | ⟨f, hf, hpre', hne⟩⟩
    · rw [← hpath', hentries.namesOf_path hf] at hpre ⊢
      rw [hentries.file e he f hf heFile hpre]
      exact ⟨rfl, hotherFile⟩
    · rw [hentries.file e he _ hmem heFile hpre] at heFile
      cases heFile
    · obtain rfl := hentries.file e he f hf heFile (hpre.trans hpre')
      exact absurd (hpre'.eq_of_length_le hpre.length_le) hne
  · rw [hfile] at hdir
    cases hdir

/-- Listings of the same entries have as many files. -/
theorem countP_eq (h : Lists entries items) (h' : Lists entries items') :
    items.countP (!·.isDir) = items'.countP (!·.isDir) := by
  have hpaths : ∀ {items : List BundleItem}, Lists entries items → ∀ path,
      path ∈ (items.filter (!·.isDir)).map (·.path) ↔
        ∃ e ∈ entries, e.octets?.isSome ∧ e.path = path := by
    intro items h path
    rw [← h.file path, List.mem_map]
    constructor
    · rintro ⟨⟨path, isDir⟩, hmem, rfl⟩
      obtain ⟨hmem, hfile⟩ := List.mem_filter.mp hmem
      obtain rfl : isDir = false := by simpa using hfile
      exact hmem
    · exact fun hmem => ⟨⟨path, false⟩, List.mem_filter.mpr ⟨hmem, rfl⟩, rfl⟩
  have hperm := (List.perm_ext_iff_of_nodup h.nodup h'.nodup).mpr fun path =>
    (hpaths h path).trans (hpaths h' path).symm
  rw [List.countP_eq_length_filter, List.countP_eq_length_filter]
  simpa using hperm.length_eq

end Lists

end NamedEntry

/-! ### Bundles in memory -/

namespace MemoryBundle

open NamedEntry

variable {b : MemoryBundle} {entries : List NamedEntry} {e : NamedEntry} {names : List String}
  {path q : String} {octets : Bytes}

/-- Adds an entry. -/
def addEntry (b : MemoryBundle) (e : NamedEntry) : MemoryBundle :=
  match e.octets? with
  | some octets => b.addFile e.path octets
  | none => b.addDir e.path

/-- The bundle to which entries were added one by one. -/
def ofEntries (entries : List NamedEntry) : MemoryBundle :=
  entries.foldl addEntry {}

/-- Names written with slashes have none at their ends. -/
theorem trimSlashes_intercalate (h : ∀ s ∈ names, IsName s) :
    trimSlashes ("/".intercalate names) = "/".intercalate names := by
  have hfirst : ("/".intercalate names).toList.dropWhile (· == '/') =
      ("/".intercalate names).toList := by
    have hrelative := FilePath.isAbsolute_intercalate h
    rw [FilePath.isAbsolute] at hrelative
    cases htext : ("/".intercalate names).toList with
    | nil => rfl
    | cons c rest =>
      rw [htext] at hrelative
      exact List.dropWhile_cons_of_neg (by simpa using hrelative)
  have hlast : ("/".intercalate names).toList.reverse.dropWhile (· == '/') =
      ("/".intercalate names).toList.reverse := by
    rcases List.eq_nil_or_concat' names with rfl | ⟨init, last, rfl⟩
    · simp
    · obtain ⟨before, hbefore, -⟩ := exists_intercalate_append init last
      have hname := h last (by simp)
      rw [hbefore, String.toList_append, List.reverse_append]
      obtain ⟨c, cs, hc⟩ := List.exists_cons_of_ne_nil
        (show last.toList.reverse ≠ [] by simpa using hname.1)
      have hslash : c ≠ '/' := by
        rintro rfl
        exact hname.2 (List.mem_reverse.mp (hc ▸ List.mem_cons_self))
      rw [hc, List.cons_append]
      exact List.dropWhile_cons_of_neg (by simpa using hslash)
  rw [trimSlashes, trimBoth, hfirst, hlast, List.reverse_reverse, String.ofList_toList]

/-- Before a slash of joined names stand the names above one of them. -/
theorem exists_intercalate_of_slash (h : ∀ s ∈ names, IsName s) {a rest : List Char}
    (htext : ("/".intercalate names).toList = a ++ '/' :: rest) :
    ∃ init, init ≠ [] ∧ init <+: names ∧ init ≠ names ∧
      String.ofList a = "/".intercalate init := by
  induction names generalizing a rest with
  | nil => simp at htext
  | cons s more ih =>
    obtain ⟨hs, hmore⟩ := List.forall_mem_cons.mp h
    by_cases hnil : more = []
    · rw [hnil, String.intercalate_singleton] at htext
      exact absurd (htext ▸ by simp) hs.2
    · rw [String.intercalate_cons_of_ne_nil hnil, String.toList_append, String.toList_append,
        List.append_assoc, List.append_eq_append_iff] at htext
      have hfirst : String.ofList s.toList = "/".intercalate [s] := by
        rw [String.intercalate_singleton, String.ofList_toList]
      rcases htext with ⟨as, rfl, has⟩ | ⟨bs, hbs, hrest⟩
      · cases as with
        | nil =>
          refine ⟨[s], by simp, by simp, by simpa using Ne.symm hnil, ?_⟩
          rw [List.append_nil, hfirst]
        | cons c as =>
          -- the slash behind the first name, and then further names
          obtain ⟨rfl, htail⟩ := List.cons.inj (show '/' :: _ = c :: (as ++ '/' :: rest) from has)
          obtain ⟨init, hinit, hpre, hne, htext⟩ := ih hmore htail
          refine ⟨s :: init, by simp, List.cons_prefix_cons.mpr ⟨rfl, hpre⟩,
            by simpa using hne, ?_⟩
          rw [String.intercalate_cons_of_ne_nil hinit, ← htext]
          simp [← String.toList_inj]
      · cases bs with
        | nil =>
          refine ⟨[s], by simp, by simp, by simpa using Ne.symm hnil, ?_⟩
          rw [← hfirst, hbs, List.append_nil]
        | cons c bs =>
          obtain rfl := (List.cons.inj (show '/' :: rest = c :: _ from hrest)).1
          exact absurd (hbs ▸ by simp) hs.2

/-- What stands before the slashes of joined names are the names above them. -/
theorem mem_ancestors_intercalate (h : ∀ s ∈ names, IsName s) :
    q ∈ ancestors ("/".intercalate names) ↔
      ∃ init, init ≠ [] ∧ init <+: names ∧ init ≠ names ∧ q = "/".intercalate init := by
  rw [ancestors, mem_ancestors_go]
  constructor
  · rintro ⟨a, rest, htext, rfl⟩
    exact exists_intercalate_of_slash h htext
  · rintro ⟨init, hinit, ⟨more, rfl⟩, hne, rfl⟩
    have hmore : more ≠ [] := by
      rintro rfl
      exact hne (List.append_nil init).symm
    refine ⟨("/".intercalate init).toList, ("/".intercalate more).toList, ?_, ?_⟩
    · rw [String.intercalate_append_of_ne_nil hinit hmore]
      simp
    · rw [List.reverse_nil, List.nil_append, String.ofList_toList]

/-! ### Adding entries one by one -/

/-- The addition of an entry. -/
def addition (e : NamedEntry) : Addition :=
  match e.octets? with
  | some octets => .file e.path octets
  | none => .directory e.path

theorem addition_eq_file_iff : addition e = .file path octets ↔
    e.octets? = some octets ∧ e.path = path := by
  rw [addition]
  cases e.octets? <;> simp [and_comm]

theorem ofEntries_eq_build (entries : List NamedEntry) :
    ofEntries entries = build (entries.map addition) := by
  rw [ofEntries, build, List.foldl_map]
  congr
  funext b e
  rw [addEntry, addition]
  cases e.octets? <;> rfl

/-- A bundle that has exactly the files of entries, and that has their directories and those above
the files. -/
structure Registers (b : MemoryBundle) (entries : List NamedEntry) : Prop where
  file : ∀ path octets, b.files.lookup path = some octets ↔
    ∃ e ∈ entries, e.octets? = some octets ∧ e.path = path
  nodup : (b.files.map (·.1)).Nodup
  directory : ∀ path, path ∈ b.dirs ↔
    ∃ e ∈ entries, e.octets? = none ∧ e.path = path ∨ e.octets?.isSome ∧ path ∈ ancestors e.path

theorem registers_ofEntries (hentries : Consistent entries) :
    Registers (ofEntries entries) entries := by
  have hholds := holds_build (entries.map addition)
  rw [← ofEntries_eq_build] at hholds
  have htrim : ∀ e ∈ entries, trimSlashes e.path = e.path := fun e he =>
    trimSlashes_intercalate fun s hs => ((hentries.plain e he).2 s hs).1
  have hfile : ∀ {path octets}, (ofEntries entries).files.lookup path = some octets →
      ∃ e ∈ entries, e.octets? = some octets ∧ e.path = path := by
    intro path octets hlookup
    rw [hholds.lookup, findSome?_octetsAt?_eq_some_iff] at hlookup
    obtain ⟨before, added, after, hsplit, hadded, -⟩ := hlookup
    have hmem : Addition.file added octets ∈ entries.map addition := by
      rw [hsplit]
      simp
    obtain ⟨e, he, haddition⟩ := List.mem_map.mp hmem
    obtain ⟨hoctets, rfl⟩ := addition_eq_file_iff.mp haddition
    exact ⟨e, he, hoctets, by rw [← hadded, htrim e he]⟩
  refine ⟨fun path octets => ⟨hfile, ?_⟩, hholds.nodup, fun path => ?_⟩
  · rintro ⟨e, he, hoctets, rfl⟩
    -- the file is registered, and entries at one path are the same
    have hadded : Addition.file e.path octets ∈ entries.map addition :=
      List.mem_map.mpr ⟨e, he, addition_eq_file_iff.mpr ⟨hoctets, rfl⟩⟩
    have hlisted := mem_walk_build_file.mpr ⟨_, octets, hadded, htrim e he⟩
    rw [← ofEntries_eq_build, mem_walk_file] at hlisted
    obtain ⟨octets', hlookup⟩ := hlisted
    obtain ⟨f, hf, hfile, hpath⟩ := hfile hlookup
    obtain rfl := hentries.eq_of_path_eq he hf (by simp [hoctets]) hpath.symm
    rw [hlookup, ← hfile, hoctets]
  · rw [hholds.directory]
    simp only [List.mem_map, exists_exists_and_eq_and]
    refine exists_congr fun e => and_congr_right fun he => ?_
    rw [addition]
    cases e.octets? <;> simp [Addition.HasDirectory, htrim e he, mem_ancestors_iff]

/-- A bundle that has the files of entries reads them. -/
theorem read_ofEntries (hentries : Consistent entries) (he : e ∈ entries)
    (hoctets : e.octets? = some octets) : (ofEntries entries).read e.path = .ok octets := by
  rw [MemoryBundle.read,
    ((registers_ofEntries hentries).file e.path octets).mpr ⟨e, he, hoctets, rfl⟩]

/-- **A bundle to which entries were added** lists them. -/
theorem lists_ofEntries (hentries : Consistent entries) :
    Lists entries (ofEntries entries).walk := by
  have h := registers_ofEntries hentries
  refine ⟨fun path => ?_, fun e he hdir => ?_, fun path hmem => ?_, ?_⟩
  · rw [mem_walk_file]
    simp only [h.file, Option.isSome_iff_exists]
    tauto
  · exact mem_walk_directory.mpr ((h.directory _).mpr ⟨e, he, Or.inl ⟨hdir, rfl⟩⟩)
  · obtain ⟨⟨names, octets?⟩, he, ⟨rfl, rfl⟩ | ⟨-, habove⟩⟩ :=
      (h.directory path).mp (mem_walk_directory.mp hmem)
    · exact ⟨names, (hentries.plain _ he).1, rfl, Or.inl he⟩
    · obtain ⟨init, hinit, hpre, hne, rfl⟩ := (mem_ancestors_intercalate fun s hs =>
        ((hentries.plain _ he).2 s hs).1).mp habove
      exact ⟨init, hinit, rfl, Or.inr ⟨_, he, hpre, hne⟩⟩
  · -- the files are the keys of the files, in some order
    have hperm : (((ofEntries entries).walk.filter (!·.isDir)).map (·.path)).Perm
        ((ofEntries entries).files.map (·.1)) := by
      rw [walk]
      refine (((List.mergeSort_perm _ _).filter _).map _).trans ?_
      simp [List.filter_append, List.filter_map, Function.comp_def]
    exact hperm.nodup_iff.mpr h.nodup

end MemoryBundle

end SiteSnapshot
