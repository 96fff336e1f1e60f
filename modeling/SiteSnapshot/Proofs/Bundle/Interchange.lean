import Mathlib.Data.List.Permutation
import SiteSnapshot.Proofs.Bundle.Entries
import SiteSnapshot.Proofs.Bundle.Exact

/-!
# Bundles in memory stand for directories

A directory that holds some files and directories (`HoldsBelow`) is walked depth first, by the
names. A bundle in memory of the same files and directories is walked by whole paths, and lacks the
directories above those that were added. Both walks list the same (`NamedEntry.Lists`), so both
copies are the same (`copy_eq_of_lists`, `copies_agree`).

The copies begin by making the directory of the mount. If that is in the bundle's own directory it
is copied too, and the copies differ (`smallSite_copies_differ`).
-/

namespace SiteSnapshot

open FileTree

namespace NamedEntry

/-- What an entry is in a file tree. -/
def entry (e : NamedEntry) : Entry :=
  e.octets?.elim .directory .file

variable {t : FileTree} {loc : Location} {entries : List NamedEntry}

/-- A place below which a tree has the files of entries, their directories and those above them, and
nothing else. -/
structure HoldsBelow (t : FileTree) (loc : Location) (entries : List NamedEntry) : Prop where
  links : NoLinks t loc
  file : ∀ names octets,
    t.get? (loc ++ names) = some (.file octets) ↔ ⟨names, some octets⟩ ∈ entries
  directory : ∀ names, names ≠ [] → (t.get? (loc ++ names) = some .directory ↔
    ⟨names, none⟩ ∈ entries ∨ ∃ e ∈ entries, names <+: e.names ∧ names ≠ e.names)

/-- A listing shows which entries a tree holds. -/
theorem HoldsBelow.of_below (hdir : t.get? loc = some .directory)
    (hbelow : ∀ p ∈ t.below loc, (∃ e ∈ entries, p = (e.names, e.entry)) ∨
      p.2 = .directory ∧ ∃ e ∈ entries, p.1 <+: e.names ∧ p.1 ≠ e.names)
    (hmem : ∀ e ∈ entries, (e.names, e.entry) ∈ t.below loc) : HoldsBelow t loc entries := by
  have hlisted : ∀ {names : List String} {e : Entry}, t.get? (loc ++ names) = some e →
      names = [] ∧ e = .directory ∨ (names, e) ∈ t.below loc := by
    intro names e hget
    by_cases hne : names = []
    · rw [hne, List.append_nil, hdir] at hget
      exact Or.inl ⟨hne, (Option.some.inj hget).symm⟩
    · exact Or.inr (mem_below_iff.mpr ⟨hne, hget⟩)
  refine ⟨fun names text hlink => ?_, fun names octets => ⟨fun hget => ?_, fun he => ?_⟩,
    fun names hne => ⟨fun hget => ?_, fun hnames => ?_⟩⟩
  · obtain ⟨-, heq⟩ | hp := hlisted hlink
    · cases heq
    · obtain ⟨⟨names', octets?⟩, -, heq⟩ | ⟨heq, -⟩ := hbelow _ hp
      · cases octets? <;> cases heq
      · cases heq
  · obtain ⟨-, heq⟩ | hp := hlisted hget
    · cases heq
    · obtain ⟨⟨names', octets?⟩, he, heq⟩ | ⟨heq, -⟩ := hbelow _ hp
      · cases octets? <;> cases heq
        exact he
      · cases heq
  · exact (mem_below_iff.mp (hmem _ he)).2
  · obtain ⟨hnil, -⟩ | hp := hlisted hget
    · exact absurd hnil hne
    · obtain ⟨⟨names', octets?⟩, he, heq⟩ | ⟨-, habove⟩ := hbelow _ hp
      · cases octets? <;> cases heq
        exact Or.inl he
      · exact Or.inr habove
  · obtain he | ⟨e, he, ⟨more, hmore⟩, hne'⟩ := hnames
    · exact (mem_below_iff.mp (hmem _ he)).2
    -- a directory is above whatever is there
    · obtain ⟨-, hget⟩ := mem_below_iff.mp (hmem e he)
      rw [← hmore, ← List.append_assoc] at hget
      refine get?_of_get?_append hget fun hnil => hne' ?_
      rw [← hmore, hnil, List.append_nil]

/-- **A directory that is added** is one entry more. -/
theorem HoldsBelow.of_adds (h : HoldsBelow t loc entries) {s : FileTree} {names : List String}
    (hdevelops : Develops t s) (hadds : Adds t loc names .directory s) :
    HoldsBelow s loc (entries ++ [⟨names, none⟩]) := by
  have hdir : ∀ above, above <+: names → s.get? (loc ++ above) = some .directory := by
    intro above habove
    by_cases heq : above = names
    · rw [heq, hadds.last]
    · exact hadds.above above habove heq
  refine ⟨h.links.of_develops hdevelops, fun more octets => ?_, fun more hne => ?_⟩
  · have hfile : (⟨more, some octets⟩ : NamedEntry) ∈ entries ++ [⟨names, none⟩] ↔
        ⟨more, some octets⟩ ∈ entries := by simp
    rw [hfile, ← h.file more octets]
    by_cases hmore : more <+: names
    · rw [hdir more hmore]
      rcases hdevelops.none_or_directory (hdir more hmore) with hnone | hdir <;> simp [*]
    · rw [hadds.get?_of_not_above hmore]
  · by_cases hmore : more <+: names
    · refine iff_of_true (hdir more hmore) ?_
      by_cases heq : more = names
      · exact Or.inl (by simp [heq])
      · exact Or.inr ⟨⟨names, none⟩, by simp, hmore, heq⟩
    · rw [hadds.get?_of_not_above hmore, h.directory more hne]
      have hdiffers : more ≠ names := fun heq => hmore (heq ▸ List.prefix_rfl)
      simp [hdiffers, hmore, or_and_right, exists_or]

/-- What is below the place has the names of an entry, or of what is above one. -/
theorem HoldsBelow.isName (h : HoldsBelow t loc entries) (hentries : Consistent entries)
    {names : List String} {e : Entry} (hmem : (names, e) ∈ t.below loc) :
    ∀ s ∈ names, IsName s := by
  obtain ⟨hne, hget⟩ := mem_below_iff.mp hmem
  cases e with
  | directory =>
    rcases (h.directory names hne).mp hget with hentry | ⟨f, hf, hpre, -⟩
    · exact fun s hs => ((hentries.plain _ hentry).2 s hs).1
    · exact fun s hs => ((hentries.plain f hf).2 s (hpre.subset hs)).1
  | file octets => exact fun s hs => ((hentries.plain _ ((h.file names octets).mp hget)).2 s hs).1
  | link text => exact absurd hget (h.links names text)

theorem HoldsBelow.of_develops (h : HoldsBelow t loc entries) {s : FileTree}
    (hdevelops : Develops t s) (hsame : ∀ names, s.get? (loc ++ names) = t.get? (loc ++ names)) :
    HoldsBelow s loc entries := by
  refine ⟨h.links.of_develops hdevelops, fun names octets => ?_, fun names hne => ?_⟩
  · rw [hsame, h.file]
  · rw [hsame, h.directory names hne]

theorem HoldsBelow.get? (h : HoldsBelow t loc entries) {e : NamedEntry} {octets : Bytes}
    (he : e ∈ entries) (hoctets : e.octets? = some octets) :
    t.get? (loc ++ e.names) = some (.file octets) := by
  obtain ⟨names, octets?⟩ := e
  obtain rfl : octets? = some octets := hoctets
  exact (h.file names octets).mpr he

/-- **A walk of a directory that holds entries** lists them. -/
theorem HoldsBelow.lists (h : HoldsBelow t loc entries) (hentries : Consistent entries) :
    Lists entries
      ((t.below loc).map fun (names, e) => ⟨"/".intercalate names, e == .directory⟩) := by
  refine ⟨fun path => ?_, fun e he hdir => ?_, fun path hmem => ?_, ?_⟩
  · rw [List.mem_map]
    constructor
    · rintro ⟨⟨names, e⟩, hmem, hitem⟩
      obtain ⟨rfl, hfile⟩ := BundleItem.mk.inj hitem
      obtain ⟨-, hget⟩ := mem_below_iff.mp hmem
      cases e with
      | directory => cases hfile
      | file octets => exact ⟨_, (h.file names octets).mp hget, rfl, rfl⟩
      | link text => exact absurd hget (h.links names text)
    · rintro ⟨⟨names, octets?⟩, he, hfile, rfl⟩
      obtain ⟨octets, rfl⟩ := Option.isSome_iff_exists.mp hfile
      exact ⟨(names, .file octets),
        mem_below_iff.mpr ⟨(hentries.plain _ he).1, (h.file names octets).mpr he⟩, rfl⟩
  · obtain ⟨names, octets?⟩ := e
    obtain rfl : octets? = none := hdir
    have hne := (hentries.plain _ he).1
    exact List.mem_map.mpr ⟨(names, .directory),
      mem_below_iff.mpr ⟨hne, (h.directory names hne).mpr (Or.inl he)⟩, rfl⟩
  · obtain ⟨⟨names, e⟩, hmem, hitem⟩ := List.mem_map.mp hmem
    obtain ⟨rfl, hdir⟩ := BundleItem.mk.inj hitem
    obtain rfl : e = .directory := beq_iff_eq.mp hdir
    obtain ⟨hne, hget⟩ := mem_below_iff.mp hmem
    exact ⟨names, hne, rfl, (h.directory names hne).mp hget⟩
  · -- the places are in order, and paths of names tell them apart
    have hnodup : (t.below loc).Nodup := by
      refine (sorted_below t loc).imp fun hlt heq => ?_
      rw [heq] at hlt
      exact List.lt_irrefl _ hlt
    rw [List.filter_map, List.map_map]
    refine List.Nodup.map_on ?_ (hnodup.filter _)
    rintro ⟨names, e⟩ hp ⟨names', e'⟩ hq hpath
    have hmem := (List.mem_filter.mp hp).1
    have hmem' := (List.mem_filter.mp hq).1
    obtain rfl : names = names' := by
      rw [← namesOf_intercalate (h.isName hentries hmem),
        ← namesOf_intercalate (h.isName hentries hmem')]
      exact congrArg namesOf hpath
    rw [Option.some.inj ((mem_below_iff.mp hmem).2.symm.trans (mem_below_iff.mp hmem').2)]

theorem HoldsBelow.lists_of_walk (h : HoldsBelow t loc entries) (hentries : Consistent entries)
    {root : FilePath} {items : List BundleItem} (hroot : LeadsTo t root loc)
    (hcurrent : t.get? t.current = some .directory)
    (hwalk : (Bundle.directory root).walk t = .ok items) : Lists entries items := by
  obtain ⟨hne, hfault, -⟩ := exists_faultless_leadsTo hcurrent (Bundle.isDir_of_walk hwalk)
  rw [Bundle.walk, hroot.isDir hne hfault, if_pos rfl, hroot.walk_eq hne hfault] at hwalk
  exact Except.ok.inj hwalk ▸ h.lists hentries

end NamedEntry

namespace Bundle

open NamedEntry

variable {s t t₁ t' : FileTree} {loc place : Location} {items items' : List BundleItem}
  {entries : List NamedEntry} {bundle bundle' : Bundle} {mount : String} {root out : FilePath}
  {bytes : String → Bytes} {n : ℕ}

/-! ### Copies of listings -/

/-- **Bundles that list the same entries** are copied the same: if one copy succeeds, the other does
if its files can be read, and it is the same copy. -/
theorem copy_eq_of_lists (hentries : Consistent entries)
    (hcurrent : t₁.get? t₁.current = some .directory)
    (hmade : Output.ensureDir t (FilePath.join out mount) = (t₁, .ok ()))
    (hleads : LeadsTo t₁ (FilePath.join out mount) loc) (hlinks : NoLinks t₁ loc)
    (hwalk : bundle.walk t₁ = .ok items) (hwalk' : bundle'.walk t₁ = .ok items')
    (hlists : Lists entries items) (hlists' : Lists entries items')
    (hgives : GivesOnly bundle t₁ loc items bytes) (hgives' : Gives bundle' t₁ loc items' bytes)
    (hcopy : bundle.copy t mount out = (t', .ok n)) : bundle'.copy t mount out = (t', .ok n) := by
  rw [copy, hmade] at hcopy ⊢
  dsimp only at hcopy ⊢
  rw [hwalk] at hcopy
  rw [hwalk']
  have hcovers := hlists.covers hlists' hentries
  have hplain' := hlists'.isPlainPath hentries
  obtain ⟨hcopied, hcount⟩ := copiedItems_of_copyItems hcurrent hleads hlinks
    (hlists.isPlainPath hentries) hgives hcopy
  -- what the first copy has added, there is space for
  have hspace : ∀ item ∈ items',
      HasSpace t₁ loc (namesOf item.path) (entryOf (contentOf mount bytes) item) := by
    intro item hitem
    obtain ⟨-, hlast⟩ := hcopied.adds.of_covers hcovers hitem
    refine hcopied.below.develops.hasSpace hlast fun text => ?_
    rw [entryOf]
    split_ifs <;> simp
  have hfaults : ∀ item ∈ items',
      wayFault? ((FilePath.join out mount).below (namesOf item.path)) (namesOf item.path) =
        none := by
    intro item hitem
    rcases hcovers item hitem with hmem | ⟨-, i, hi, hpre, hne⟩
    · exact hcopied.faultless item hmem
    · have hplain := hplain' item hitem
      rw [← FilePath.top_below hplain.names hplain.1]
      exact wayFault?_top_above (hlists.isPlainPath hentries i hi).names
        (hcopied.faultless i hi) hpre hne
  obtain ⟨t'', n', hcopy'⟩ : ∃ t'' n', bundle'.copyItems mount _ t₁ 0 items' = (t'', .ok n') :=
    exists_copyItems_eq hcurrent hleads hlinks hplain' hgives'
    (hlists'.notInWay hentries) hspace hfaults
  obtain ⟨hcopied', hcount'⟩ := copiedItems_of_copyItems hcurrent hleads hlinks hplain'
    hgives'.givesOnly hcopy'
  change bundle'.copyItems mount _ t₁ 0 items' = _
  rw [hcopy', hcopied.adds.eq hcopied'.adds hcovers (hlists'.covers hlists hentries), hcount,
    hcount', hlists.countP_eq hlists']

/-- What a bundle in memory gives are the contents of its entries. -/
theorem gives_ofEntries (hentries : Consistent entries) (hlists : Lists entries items) :
    Gives (.memory (.ofEntries entries)) t loc items (bytesAt entries) := by
  intro s _ item hitem hfile
  obtain ⟨e, he, heFile, hpath⟩ := (hlists.file item.path).mp (hfile ▸ hitem)
  obtain ⟨octets, hoctets⟩ := Option.isSome_iff_exists.mp heFile
  rw [← hpath, hentries.bytesAt_eq he hoctets, read,
    MemoryBundle.read_ofEntries hentries he hoctets]

/-! ### Directories -/

variable {e : NamedEntry} {octets octets' bs : Bytes}

/-- A file of a directory is read, unless its path has a fault. -/
theorem read_entry_eq (hentries : Consistent entries) (he : e ∈ entries)
    (hroot : LeadsTo t root place) (hget : t.get? (place ++ e.names) = some (.file octets)) :
    (Bundle.directory root).read t e.path = (wayFault? (root.below e.names) e.names).elim
      (.ok octets) fun f => .error (.file (root.below e.names) f) := by
  obtain ⟨hne, hnames⟩ := hentries.plain e he
  rw [read, path, FilePath.join_intercalate (fun s hs => (hnames s hs).1) hne]
  generalize e.names = names at *
  obtain ⟨init, name, rfl⟩ := (List.eq_nil_or_concat' names).resolve_left hne
  rw [read_below_eq hroot hnames hget]
  cases wayFault? (root.below (init ++ [name])) (init ++ [name]) <;> rfl

/-- A file that can be read in one tree can be read in another. -/
theorem read_entry_of_ok (hentries : Consistent entries) (he : e ∈ entries)
    (hroot : LeadsTo s root place) (hget : s.get? (place ++ e.names) = some (.file octets'))
    (hread : (Bundle.directory root).read s e.path = .ok bs) (hroot' : LeadsTo t root place)
    (hget' : t.get? (place ++ e.names) = some (.file octets)) :
    (Bundle.directory root).read t e.path = .ok octets := by
  rw [read_entry_eq hentries he hroot hget] at hread
  rw [read_entry_eq hentries he hroot' hget']
  cases hfault : wayFault? (root.below e.names) e.names with
  | none => rfl
  | some f =>
    rw [hfault] at hread
    cases hread

section Reading

variable (hentries : Consistent entries) (hroot : LeadsTo t root place)
  (hholds : HoldsBelow t place entries) (hlists : Lists entries items)
  (hapart : ∀ e ∈ entries, e.octets?.isSome → ¬loc <+: place ++ e.names)

include hroot hholds hapart

/-- A file is where it was while another place is filled. -/
theorem leadsTo_and_get? (hs : DevelopsBelow t loc s) (he : e ∈ entries)
    (hoctets : e.octets? = some octets) :
    LeadsTo s root place ∧ s.get? (place ++ e.names) = some (.file octets) := by
  refine ⟨hroot.of_keepsPlaces hs.develops.keepsPlaces, ?_⟩
  rw [hs.other, hholds.get? he hoctets]
  rintro below - heq
  exact hapart e he (hoctets ▸ rfl) (heq ▸ List.prefix_append loc below)

include hentries hlists

/-- What a directory gives are the contents of its entries. -/
theorem givesOnly_directory : GivesOnly (.directory root) t loc items (bytesAt entries) := by
  intro s hs item hitem hisFile octets' hread
  obtain ⟨e, he, heFile, hpath⟩ := (hlists.file item.path).mp (hisFile ▸ hitem)
  obtain ⟨octets, hoctets⟩ := Option.isSome_iff_exists.mp heFile
  obtain ⟨hroot', hget⟩ := leadsTo_and_get? hroot hholds hapart hs he hoctets
  rw [← hpath] at hread ⊢
  rw [hentries.bytesAt_eq he hoctets]
  have hread' := read_entry_of_ok hentries he hroot' hget hread hroot' hget
  exact Except.ok.inj (hread.symm.trans hread')

/-- A directory whose files can be read gives them. -/
theorem gives_directory (hreads : ∀ e ∈ entries, e.octets?.isSome →
    ∃ octets, (Bundle.directory root).read t e.path = .ok octets) :
    Gives (.directory root) t loc items (bytesAt entries) := by
  intro s hs item hitem hisFile
  obtain ⟨e, he, heFile, hpath⟩ := (hlists.file item.path).mp (hisFile ▸ hitem)
  obtain ⟨octets, hoctets⟩ := Option.isSome_iff_exists.mp heFile
  obtain ⟨hroot', hget⟩ := leadsTo_and_get? hroot hholds hapart hs he hoctets
  obtain ⟨bs, hread⟩ := hreads e he heFile
  rw [← hpath, hentries.bytesAt_eq he hoctets]
  exact read_entry_of_ok hentries he hroot (hholds.get? he hoctets) hread hroot' hget

end Reading

/-- The files of a directory that is copied can be read. -/
theorem read_entry_of_copy (hcurrent : t.get? t.current = some .directory)
    (hentries : Consistent entries) (hroot : LeadsTo t root place)
    (hholds : HoldsBelow t place entries)
    (hsource : ∀ names, (Output.ensureDir t (FilePath.join out mount)).1.get? (place ++ names) =
      t.get? (place ++ names))
    (hcopy : (Bundle.directory root).copy t mount out = (t', .ok n)) (he : e ∈ entries)
    (hoctets : e.octets? = some octets) : (Bundle.directory root).read t e.path = .ok octets := by
  obtain ⟨items, hwalk, hwrote⟩ := exists_of_copy hcurrent hcopy
  have hdevelops := (Output.grows_ensureDir t (FilePath.join out mount)).develops
  have hlists := (hholds.of_develops hdevelops hsource).lists_of_walk hentries
    (hroot.of_keepsPlaces hdevelops.keepsPlaces) (hdevelops.get?_current hcurrent) hwalk
  -- the file has been read when the tree had developed
  obtain ⟨s, _, _, hs⟩ := hwrote e.path ((hlists.file e.path).mpr ⟨e, he, hoctets ▸ rfl, rfl⟩)
  have hget := hholds.get? he hoctets
  obtain ⟨octets', hget'⟩ := hs.before.file hget
  exact read_entry_of_ok hentries he (hroot.of_keepsPlaces hs.before.keepsPlaces) hget' hs.read
    hroot hget

/-- **Bundles in memory stand for directories.** Let a bundle in memory have the entries that a
directory of the tree holds, where making the directory of the mount changes nothing in it and none
of its files is below the mount. If the directory is copied, the bundle in memory is copied with the
same tree and the same count. The converse holds if no path below the directory has a fault. -/
theorem copies_agree (hcurrent : t.get? t.current = some .directory)
    (hentries : Consistent entries) (hroot : LeadsTo t root place)
    (hholds : HoldsBelow t place entries) (hlinks : NoLinks t loc)
    (hmount : ∀ t₁, Output.ensureDir t (FilePath.join out mount) = (t₁, .ok ()) →
      LeadsTo t₁ (FilePath.join out mount) loc ∧
        ∀ names, t₁.get? (place ++ names) = t.get? (place ++ names))
    (hapart : ∀ e ∈ entries, e.octets?.isSome → ¬loc <+: place ++ e.names) :
    ((Bundle.directory root).copy t mount out = (t', .ok n) →
      (Bundle.memory (.ofEntries entries)).copy t mount out = (t', .ok n)) ∧
    (t.isDir root = true → (∀ e ∈ entries, wayFault? (root.below e.names) e.names = none) →
      (Bundle.memory (.ofEntries entries)).copy t mount out = (t', .ok n) →
        (Bundle.directory root).copy t mount out = (t', .ok n)) := by
  rcases hmade : Output.ensureDir t (FilePath.join out mount) with ⟨t₁, f | ⟨⟩⟩
  · -- neither is copied without the directory of the mount
    have hfails : ∀ bundle : Bundle, bundle.copy t mount out = (t₁, .error f) := by
      intro bundle
      rw [copy, hmade]
    simp [hfails]
  have hdevelops := (Output.grows_of_ensureDir hmade).develops
  obtain ⟨hleads, hsource⟩ := hmount t₁ hmade
  have hcurrent' := hdevelops.get?_current hcurrent
  have hlinks' : NoLinks t₁ loc := hlinks.of_develops hdevelops
  have hwalk := walk_directory_eq hcurrent hroot hdevelops hsource
  have hroot' := hroot.of_keepsPlaces hdevelops.keepsPlaces
  have hholds' := hholds.of_develops hdevelops hsource
  have hlists' := MemoryBundle.lists_ofEntries hentries
  constructor
  · intro hcopy
    obtain ⟨items, hwalk', -⟩ := exists_of_copy hcurrent hcopy
    rw [hmade] at hwalk'
    have hlists := hholds'.lists_of_walk hentries hroot' hcurrent' hwalk'
    exact copy_eq_of_lists hentries hcurrent' hmade hleads hlinks' hwalk' rfl hlists hlists'
      (givesOnly_directory hentries hroot' hholds' hlists hapart)
      (gives_ofEntries hentries hlists') hcopy
  · intro hdir hfaults hcopy
    obtain ⟨items, hwalk'⟩ : ∃ items, (Bundle.directory root).walk t₁ = .ok items := by
      rw [hwalk, walk, if_pos hdir]
      exact ⟨_, rfl⟩
    have hlists := hholds'.lists_of_walk hentries hroot' hcurrent' hwalk'
    refine copy_eq_of_lists hentries hcurrent' hmade hleads hlinks' rfl hwalk' hlists' hlists
      (gives_ofEntries hentries hlists').givesOnly
      (gives_directory hentries hroot' hholds' hlists hapart fun e he heFile => ?_) hcopy
    obtain ⟨octets, hoctets⟩ := Option.isSome_iff_exists.mp heFile
    refine ⟨octets, ?_⟩
    rw [read_entry_eq hentries he hroot' (hholds'.get? he hoctets), hfaults e he]
    rfl

/-! ### Copies into the bundle itself -/

section Nested

variable {names more : List String} (hcurrent : t.get? t.current = some .directory)
  (hlinks : NoLinks t []) (hroot : LeadsTo t root place)
  (hpath : FilePath.join out mount = root.below names)

include hcurrent hlinks hroot hpath

/-- A bundle that is copied is copied after the directory of the mount has been added. -/
theorem exists_made_of_copy (hnames : ∀ s ∈ names, IsName s ∧ IsPlain s) (hne : names ≠ [])
    (hcopy : bundle.copy t mount out = (t', .ok n)) :
    ∃ t₁ items, Develops t t₁ ∧ Adds t place names .directory t₁ ∧
      LeadsTo t₁ (root.below names) (place ++ names) ∧ bundle.walk t₁ = .ok items ∧
        bundle.copyItems mount (root.below names) t₁ 0 items = (t', .ok n) := by
  rcases copy_cases t bundle mount out with ⟨f, hfails, -⟩ | ⟨t₁, items, hmade, hwalk, hitems⟩
  · rw [hcopy] at hfails
    cases hfails
  rw [hpath] at hmade hitems
  obtain ⟨-, hadds, hleads⟩ :=
    Output.adds_of_ensureDir hcurrent hroot hnames hne (hlinks.append place) hmade
  exact ⟨t₁, items, (Output.grows_of_ensureDir hmade).develops, hadds, hleads, hwalk,
    hitems.symm.trans hcopy⟩

/-- A directory that is copied to a place of its own has the directory of the mount copied as well.
-/
theorem get?_of_copy_directory (hholds : HoldsBelow t place entries)
    (hentries : Consistent (entries ++ [⟨names, none⟩]))
    (hapart : ∀ e ∈ entries ++ [⟨names, none⟩], e.octets?.isSome →
      ¬place ++ names <+: place ++ e.names)
    (hcopy : (Bundle.directory root).copy t mount out = (t', .ok n)) :
    t'.get? (place ++ names ++ names) = some .directory := by
  have hmem : (⟨names, none⟩ : NamedEntry) ∈ entries ++ [⟨names, none⟩] := by simp
  obtain ⟨hne, hnames⟩ := hentries.plain _ hmem
  obtain ⟨t₁, items, hdevelops, hadds, hleads, hwalk, hitems⟩ :=
    exists_made_of_copy hcurrent hlinks hroot hpath hnames hne hcopy
  have hcurrent' := hdevelops.get?_current hcurrent
  have hroot' := hroot.of_keepsPlaces hdevelops.keepsPlaces
  have hholds' := hholds.of_adds hdevelops hadds
  have hlists := hholds'.lists_of_walk hentries hroot' hcurrent' hwalk
  obtain ⟨hcopied, -⟩ := copiedItems_of_copyItems hcurrent' hleads
    ((hlinks.of_develops hdevelops).append _) (hlists.isPlainPath hentries)
    (givesOnly_directory hentries hroot' hholds' hlists hapart) hitems
  have hlast := hcopied.adds.last _ (hlists.directory _ hmem rfl)
  rwa [hentries.namesOf_path hmem, entryOf, if_pos rfl] at hlast

/-- A bundle in memory adds its entries below the mount and nothing else. -/
theorem get?_of_copy_memory (hentries : Consistent entries)
    (hnames : ∀ s ∈ names, IsName s ∧ IsPlain s) (hne : names ≠ [])
    (hmore : ∀ e ∈ entries, ¬more <+: e.names) (hnil : more ≠ [])
    (hcopy : (Bundle.memory (.ofEntries entries)).copy t mount out = (t', .ok n)) :
    t'.get? (place ++ names ++ more) = t.get? (place ++ names ++ more) := by
  obtain ⟨t₁, items, hdevelops, hadds, hleads, hwalk, hitems⟩ :=
    exists_made_of_copy hcurrent hlinks hroot hpath hnames hne hcopy
  have hlists : Lists entries items := Except.ok.inj hwalk ▸ MemoryBundle.lists_ofEntries hentries
  obtain ⟨hcopied, -⟩ := copiedItems_of_copyItems (hdevelops.get?_current hcurrent) hleads
    ((hlinks.of_develops hdevelops).append _) (hlists.isPlainPath hentries)
    (gives_ofEntries hentries hlists).givesOnly hitems
  rw [hcopied.adds.get?_of_not_above, List.append_assoc, hadds.get?_below hnil]
  intro item hitem habove
  rcases hlists.cases hentries hitem with ⟨-, e, he, -, hpath⟩ | ⟨-, -, he | ⟨e, he, hpre, -⟩⟩
  · rw [← hpath, hentries.namesOf_path he] at habove
    exact hmore e he habove
  · exact hmore _ he habove
  · exact hmore e he (habove.trans hpre)

end Nested

/-! ### An example -/

/-- What the small site holds, in the order in which it is added to a bundle in memory. -/
def smallEntries : List NamedEntry :=
  [⟨["img"], none⟩, ⟨["a.css"], some (Utf8.encode "url(/static/b.png)")⟩]

theorem consistent_smallEntries : Consistent smallEntries :=
  ⟨by decide, by decide⟩

theorem holdsBelow_smallSite : HoldsBelow smallSite ["site"] smallEntries :=
  .of_below rfl (by decide) (by decide)

theorem walk_smallEntries : (MemoryBundle.ofEntries smallEntries).walk = smallItems := by
  cbv

theorem read_smallEntries :
    ∀ item ∈ smallItems, item.isDir = false → ∃ octets,
      (Bundle.memory (.ofEntries smallEntries)).read smallSite item.path = .ok octets := by
  have hlists : Lists smallEntries smallItems :=
    walk_smallEntries ▸ MemoryBundle.lists_ofEntries consistent_smallEntries
  exact fun item hitem hfile => ⟨_, gives_ofEntries consistent_smallEntries hlists smallSite
    (.refl smallSite []) item hitem hfile⟩

/-- The directory of the mount is made, and the site stays as it is. -/
theorem exists_made_smallSite : ∃ t₁,
    Output.ensureDir smallSite (FilePath.join "out" "static") = (t₁, .ok ()) ∧
      LeadsTo t₁ (FilePath.join "out" "static") ["out", "static"] ∧
        ∀ names, t₁.get? (["site"] ++ names) = smallSite.get? (["site"] ++ names) := by
  have hcurrent : smallSite.get? smallSite.current = some .directory := rfl
  have hstart : LeadsTo smallSite "" [] := leadsTo_empty hcurrent
  obtain ⟨t₁, hmade⟩ :=
    Output.exists_ensureDir_eq hstart (by decide) (by decide) hasSpace_smallSite (by decide)
  obtain ⟨-, hadds, hleads⟩ :=
    Output.adds_of_ensureDir hcurrent hstart (by decide) (by decide) noLinks_smallSite hmade
  refine ⟨t₁, hmade, hleads, fun names => hadds.other _ fun above habove heq => ?_⟩
  rcases List.prefix_cons_iff.mp habove with rfl | ⟨more, rfl, -⟩ <;> simp at heq

theorem exists_copy_smallEntries : ∃ t' n,
    (Bundle.memory (.ofEntries smallEntries)).copy smallSite "static" "out" = (t', .ok n) :=
  exists_copy_eq rfl noLinks_smallSite (leadsTo_empty rfl) (by decide) (by decide)
    (show _ = FilePath.below "" ["out", "static"] by decide) hasSpace_smallSite
    (fun more _ => get?_smallSite_out ("static" :: more)) (congrArg Except.ok walk_smallEntries)
    (by decide) read_smallEntries trivial (by decide) (by decide) (by decide)

/-- The site is copied below `out/static`, from the tree or from memory. -/
theorem copies_agree_smallSite : ∃ t' n,
    (Bundle.directory "site").copy smallSite "static" "out" = (t', .ok n) ∧
      (Bundle.memory (.ofEntries smallEntries)).copy smallSite "static" "out" = (t', .ok n) := by
  obtain ⟨t₁, hmade, hleads, hsource⟩ := exists_made_smallSite
  have hmount : ∀ s, Output.ensureDir smallSite (FilePath.join "out" "static") = (s, .ok ()) →
      LeadsTo s (FilePath.join "out" "static") ["out", "static"] ∧
        ∀ names, s.get? (["site"] ++ names) = smallSite.get? (["site"] ++ names) := by
    intro s hs
    obtain rfl := (Prod.mk.inj (hmade.symm.trans hs)).1
    exact ⟨hleads, hsource⟩
  obtain ⟨t', n, hcopy⟩ := exists_copy_smallEntries
  obtain ⟨-, hcopies⟩ := copies_agree rfl consistent_smallEntries leadsTo_smallSite
    holdsBelow_smallSite (noLinks_smallSite.append _) hmount (by decide)
  exact ⟨t', n, hcopies (leadsTo_smallSite.isDir (by decide) (by decide)) (by decide) hcopy, hcopy⟩

/-- A copy into the empty directory of the site itself copies the directory of the mount too if the
site is read from the tree, and not if it is in memory. -/
theorem copy_smallSite_nested : ∃ t' n,
    (Bundle.memory (.ofEntries smallEntries)).copy smallSite "static" "site/img" = (t', .ok n) ∧
      (Bundle.directory "site").copy smallSite "static" "site/img" ≠ (t', .ok n) := by
  have hcurrent : smallSite.get? smallSite.current = some .directory := rfl
  have hpath : FilePath.join "site/img" "static" = FilePath.below "site" ["img", "static"] := by
    decide
  have hfree : ∀ more, smallSite.get? (["site", "img", "static"] ++ more) = none :=
    get?_append_eq_none rfl
  have hspace : HasSpace smallSite ["site"] ["img", "static"] .directory :=
    .of_get?_eq_none ["site"] ["img"] rfl (hfree []) .directory
  obtain ⟨t', n, hcopy⟩ : ∃ t' n, (Bundle.memory (.ofEntries smallEntries)).copy smallSite "static"
      "site/img" = (t', .ok n) :=
    exists_copy_eq hcurrent noLinks_smallSite leadsTo_smallSite (by decide) (by decide) hpath hspace
      (fun more _ => hfree more) (congrArg Except.ok walk_smallEntries) (by decide)
      read_smallEntries trivial (by decide) (by decide) (by decide)
  refine ⟨t', n, hcopy, fun hcopy' => ?_⟩
  have hadded := get?_of_copy_directory hcurrent noLinks_smallSite leadsTo_smallSite hpath
    holdsBelow_smallSite ⟨by decide, by decide⟩ (by decide) hcopy'
  have hkept := get?_of_copy_memory hcurrent noLinks_smallSite leadsTo_smallSite hpath
    consistent_smallEntries (by decide) (by decide)
    (show ∀ e ∈ smallEntries, ¬["img", "static"] <+: e.names by decide) (by decide) hcopy
  rw [hadded] at hkept
  exact absurd (hkept.trans (hfree ["img", "static"])) (by simp)

/-- The path of the site with slashes at its end. -/
def siteSlashes : ℕ → FilePath
  | 0 => "site"
  | n + 1 => siteSlashes n ++ "/"

theorem toList_siteSlashes (n : ℕ) :
    (siteSlashes n).toList = "site".toList ++ List.replicate n '/' := by
  induction n with
  | zero => rfl
  | succ n ih =>
    rw [siteSlashes, String.toList_append, ih, List.replicate_succ', List.append_assoc]
    rfl

theorem namesOf_siteSlashes (n : ℕ) : namesOf (siteSlashes n) = ["site"] := by
  induction n with
  | zero => decide
  | succ n ih => rw [siteSlashes, namesOf_append_slash_self, ih]

theorem utf8ByteSize_siteSlashes (n : ℕ) : (siteSlashes n).utf8ByteSize = 4 + n := by
  induction n with
  | zero => rfl
  | succ n ih =>
    rw [siteSlashes, String.utf8ByteSize_append, ih]
    rfl

theorem leadsTo_siteSlashes (n : ℕ) : LeadsTo smallSite (siteSlashes n) ["site"] := by
  have hrelative : FilePath.isAbsolute (siteSlashes n) = false := by
    rw [FilePath.isAbsolute, toList_siteSlashes]
    rfl
  refine ⟨?_, rfl⟩
  rw [origin, hrelative, namesOf_siteSlashes]
  exact leadsTo_smallSite.reached

/-- A directory can have a path that leaves no room for the names of its files. -/
theorem copy_siteSlashes {k : ℕ} (hlong : 4086 < k) (hshort : k ≤ 4091) :
    smallSite.isDir (siteSlashes k) = true ∧
      ∀ t' n, (Bundle.directory (siteSlashes k)).copy smallSite "static" "out" ≠ (t', .ok n) := by
  have hroot := leadsTo_siteSlashes k
  have hsize := utf8ByteSize_siteSlashes k
  constructor
  · refine hroot.isDir ?_ ?_
    · intro hempty
      rw [hempty, String.utf8ByteSize_empty] at hsize
      omega
    · rw [pathFault?, if_neg, if_neg]
      · rw [hsize, maxPath]
        omega
      · rw [toList_siteSlashes]
        simp
  · intro t' n hcopy
    obtain ⟨t₁, hmade, -, hsource⟩ := exists_made_smallSite
    have hmem :
        (⟨["a.css"], some (Utf8.encode "url(/static/b.png)")⟩ : NamedEntry) ∈ smallEntries := by
      decide
    have hread := read_entry_of_copy rfl consistent_smallEntries hroot holdsBelow_smallSite
      (by rwa [hmade]) hcopy hmem rfl
    rw [read_entry_eq consistent_smallEntries hmem hroot
      (holdsBelow_smallSite.get? hmem rfl)] at hread
    cases hfault : wayFault? ((siteSlashes k).below ["a.css"]) ["a.css"] with
    | some e =>
      rw [hfault] at hread
      cases hread
    | none =>
      have hpath := (wayFault?_eq_none_iff.mp hfault).1
      have hfile : (siteSlashes k).utf8ByteSize + 5 ≤
          (FilePath.join (siteSlashes k) "a.css").utf8ByteSize := by
        have hname : "a.css".utf8ByteSize = 5 := by decide
        rw [FilePath.join, if_neg (by decide)]
        split_ifs
        · rw [String.utf8ByteSize_append, hname]
        · rw [String.utf8ByteSize_append, String.utf8ByteSize_append, hname]
          omega
      rw [pathFault?] at hpath
      split_ifs at hpath with _ hlength
      rw [FilePath.below_cons, FilePath.below_nil, maxPath] at hlength
      omega

/-- **Copies that differ**: of the site into its own empty directory, and of the site by a path that
leaves no room for the name of its file. -/
theorem smallSite_copies_differ :
    NoLinks smallSite [] ∧ Consistent smallEntries ∧ HoldsBelow smallSite ["site"] smallEntries ∧
      (LeadsTo smallSite "site" ["site"] ∧ LeadsTo smallSite "site/img" ["site", "img"] ∧
        smallSite.below ["site", "img"] = [] ∧ ∃ t' n,
          (Bundle.memory (.ofEntries smallEntries)).copy smallSite "static" "site/img" =
            (t', .ok n) ∧
          (Bundle.directory "site").copy smallSite "static" "site/img" ≠ (t', .ok n)) ∧
      LeadsTo smallSite (siteSlashes 4090) ["site"] ∧
        smallSite.isDir (siteSlashes 4090) = true ∧ smallSite.get? ["out"] = none ∧ ∃ t' n,
          (Bundle.memory (.ofEntries smallEntries)).copy smallSite "static" "out" = (t', .ok n) ∧
          (Bundle.directory (siteSlashes 4090)).copy smallSite "static" "out" ≠ (t', .ok n) := by
  have himg : LeadsTo smallSite "site/img" ["site", "img"] := by
    refine LeadsTo.below leadsTo_smallSite (show ∀ s ∈ ["img"], _ by decide) (by decide)
      fun above habove => ?_
    rcases List.prefix_cons_iff.mp habove with rfl | ⟨more, rfl, hmore⟩
    · rfl
    · rw [List.prefix_nil.mp hmore]
      rfl
  obtain ⟨hdir, hfails⟩ := copy_siteSlashes (show 4086 < 4090 by decide) (by decide)
  obtain ⟨t', n, hcopy⟩ := exists_copy_smallEntries
  exact ⟨noLinks_smallSite, consistent_smallEntries, holdsBelow_smallSite,
    ⟨leadsTo_smallSite, himg, rfl, copy_smallSite_nested⟩, leadsTo_siteSlashes 4090, hdir, rfl,
    t', n, hcopy, hfails t' n⟩

end Bundle

end SiteSnapshot
