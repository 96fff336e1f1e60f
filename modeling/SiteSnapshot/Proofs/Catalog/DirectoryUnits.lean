import SiteSnapshot.Catalog.Directory
import SiteSnapshot.Proofs.FileTree.Walks
import SiteSnapshot.Proofs.Text.Order

/-!
# Directories that are units

The units of an entry in a directory of entries are found by a walk over all files below the
directory of the entry. They are described without the walk: a unit is a directory that is reached
down through directories with shown names (`Reaches`) and holds a file that counts itself
(`HoldsFile`). So a directory is no unit for the sake of the files in the directories below it, and
it is one unit however many files it holds.
-/

namespace SiteSnapshot.SourceDirectory

open FileTree

variable {d : SourceDirectory} {t : FileTree} {top place : Location} {names : List String}
  {file entry : String}

/-- Names that lead down from a place through directories whose names are shown. A link is no
directory. -/
inductive Reaches (t : FileTree) (top : Location) : List String → Prop
  | here : Reaches t top []
  | down {names : List String} {name : String} : Reaches t top names → isHidden name = false →
      t.get? (top ++ (names ++ [name])) = some .directory → Reaches t top (names ++ [name])

/-- A name with the extension that is asked for, whatever dots that is written with in front. -/
def HasExtension (d : SourceDirectory) (file : String) : Prop :=
  ∀ e, d.extension = some e →
    FilePath.nameExtension? file = some (String.ofList (e.toList.dropWhile (· == '.')))

/-- A directory that holds a file of a shown name that has the extension, and not only a link. -/
def HoldsFile (d : SourceDirectory) (t : FileTree) (place : Location) : Prop :=
  ∃ file octets, t.get? (place ++ [file]) = some (.file octets) ∧ isHidden file = false ∧
    d.HasExtension file

/-- Names that lead from the directory of an entry to a unit. -/
def IsUnit (d : SourceDirectory) (t : FileTree) (top : Location) (names : List String) : Prop :=
  Reaches t top names ∧ d.HoldsFile t (top ++ names)

theorem counts_iff : d.counts file = true ↔ d.HasExtension file := by
  rw [counts, HasExtension]
  cases d.extension <;> simp

/-- To reach a directory down to which all names are shown, it is enough that it is there, since
above it there are only directories. -/
theorem reaches_iff : Reaches t top names ↔
    (∀ s ∈ names, isHidden s = false) ∧ (names ≠ [] → t.get? (top ++ names) = some .directory) := by
  constructor
  · intro h
    induction h with
    | here => simp
    | down _ hshown hdir ih =>
      refine ⟨fun s hs => ?_, fun _ => hdir⟩
      rcases List.mem_append.mp hs with hs | hs
      · exact ih.1 s hs
      · rwa [List.mem_singleton.mp hs]
  · rintro ⟨hshown, hdir⟩
    induction names using List.reverseRecOn with
    | nil => exact .here
    | append_singleton names name ih =>
      have hplace := hdir (by simp)
      refine .down (ih (fun s hs => hshown s (by simp [hs])) fun _ => ?_) (hshown name (by simp))
        hplace
      rw [← List.append_assoc] at hplace
      exact get?_of_get?_append_singleton hplace

/-- What an item of a walk makes a unit: a file that counts makes its directory one. -/
theorem unitOf_eq_some_iff {e : Entry} : d.unitOf (place, e) = some names ↔
    ∃ file octets, place = names ++ [file] ∧ e = .file octets ∧
      (∀ s ∈ names ++ [file], isHidden s = false) ∧ d.HasExtension file := by
  rw [unitOf]
  rcases List.eq_nil_or_concat' place with rfl | ⟨init, file, rfl⟩
  · cases e <;> simp
  cases e with
  | directory => simp
  | link target => simp
  | file octets =>
    have hcond : ((init ++ [file]).any isHidden || !d.counts file) = false ↔
        (∀ s ∈ init ++ [file], isHidden s = false) ∧ d.HasExtension file := by
      rw [Bool.or_eq_false_iff, List.any_eq_false, Bool.not_eq_false', counts_iff]
      simp only [Bool.not_eq_true]
    simp only [List.getLast?_concat, List.dropLast_concat]
    constructor
    · intro h
      split_ifs at h with hskip
      obtain rfl := Option.some.inj h
      rw [Bool.not_eq_true] at hskip
      exact ⟨file, octets, rfl, rfl, hcond.mp hskip⟩
    · rintro ⟨file', octets', heq, -, hshown, hextension⟩
      obtain ⟨rfl, hfile⟩ := List.append_inj' heq rfl
      obtain rfl := List.singleton_inj.mp hfile
      rw [if_neg (Bool.eq_false_iff.mp (hcond.mpr ⟨hshown, hextension⟩))]

/-- **What is below a place makes exactly its units.** -/
theorem mem_units_below_iff : (∃ item ∈ t.below top, d.unitOf item = some names) ↔
    d.IsUnit t top names := by
  rw [IsUnit, reaches_iff]
  constructor
  · rintro ⟨⟨place, e⟩, hbelow, hunit⟩
    obtain ⟨file, octets, rfl, rfl, hshown, hextension⟩ := unitOf_eq_some_iff.mp hunit
    have hget := (mem_below_iff.mp hbelow).2
    rw [← List.append_assoc] at hget
    exact ⟨⟨fun s hs => hshown s (by simp [hs]), fun _ => get?_of_get?_append_singleton hget⟩,
      file, octets, hget, hshown file (by simp), hextension⟩
  · rintro ⟨⟨hshown, -⟩, file, octets, hget, hfile, hextension⟩
    refine ⟨(names ++ [file], .file octets), mem_below_iff.mpr ⟨by simp, ?_⟩,
      unitOf_eq_some_iff.mpr ⟨file, octets, rfl, rfl, fun s hs => ?_, hextension⟩⟩
    · rwa [← List.append_assoc]
    · rcases List.mem_append.mp hs with hs | hs
      · exact hshown s hs
      · rwa [List.mem_singleton.mp hs]

/-- The units that a walk of a directory finds, written behind the entry. -/
def unitsBelow (d : SourceDirectory) (t : FileTree) (directory : FilePath) (entry : String) :
    List String :=
  sortedSet ((t.walk directory).filterMap fun item =>
    (d.unitOf item).map fun names => "/".intercalate (entry :: names))

theorem units_source (d : SourceDirectory) (t : FileTree) (entry : String) :
    (d.source t).units entry =
      if trimSlashes entry = "" ∨ t.isDir (FilePath.join d.root (trimSlashes entry)) = false then
        .error (.noUnits d.name (trimSlashes entry) "no such directory")
      else .ok (d.unitsBelow t (FilePath.join d.root (trimSlashes entry)) (trimSlashes entry)) := by
  simp only [source, unitsBelow, Bool.or_eq_true, String.isEmpty_iff, Bool.not_eq_true']

theorem mem_unitsBelow {directory : FilePath} {unit : String}
    (h : t.resolve .followed directory = .ok (.present place .directory)) :
    unit ∈ d.unitsBelow t directory entry ↔
      ∃ names, d.IsUnit t place names ∧ unit = "/".intercalate (entry :: names) := by
  have hwalk : t.walk directory = t.below place := by rw [walk, h]
  simp only [unitsBelow, mem_sortedSet, List.mem_filterMap, hwalk, Option.map_eq_some_iff,
    ← mem_units_below_iff]
  constructor
  · rintro ⟨item, hitem, names, hnames, rfl⟩
    exact ⟨names, ⟨item, hitem, hnames⟩, rfl⟩
  · rintro ⟨names, ⟨item, hitem, hnames⟩, rfl⟩
    exact ⟨item, hitem, names, hnames, rfl⟩

/-- **The units of an entry are the directories that hold files.** An entry without a name, or one
that is not the name of a directory, has no units, and that is the only failure. Otherwise its units
are listed in the order of their octets, each once: the entry followed by the names that lead from
its directory, to which links may lead, down to a directory that is reached without links and
through shown names only, and that itself holds a file of a shown name with the extension. -/
theorem units_eq_iff (d : SourceDirectory) (t : FileTree) (entry : String) :
    (∀ f, (d.source t).units entry = .error f ↔
      f = .noUnits d.name (trimSlashes entry) "no such directory" ∧
        (trimSlashes entry = "" ∨
          t.isDir (FilePath.join d.root (trimSlashes entry)) = false)) ∧
    ∀ units, (d.source t).units entry = .ok units ↔
      trimSlashes entry ≠ "" ∧ ∃ place,
        t.resolve .followed (FilePath.join d.root (trimSlashes entry)) =
          .ok (.present place .directory) ∧
        (units.Pairwise fun u v => Utf8.encode u < Utf8.encode v) ∧
        ∀ unit, unit ∈ units ↔ ∃ names, d.IsUnit t place names ∧
          unit = "/".intercalate (trimSlashes entry :: names) := by
  rw [units_source]
  generalize FilePath.join d.root (trimSlashes entry) = directory
  split_ifs with hfails
  · refine ⟨fun f => ⟨fun h => ⟨(Except.error.inj h).symm, hfails⟩, fun h => by rw [h.1]⟩,
      fun units => ⟨nofun, ?_⟩⟩
    rintro ⟨hentry, place, hplace, -⟩
    have hdir := isDir_iff.mpr ⟨place, hplace⟩
    rw [hfails.resolve_left hentry] at hdir
    cases hdir
  · obtain ⟨hentry, hdir⟩ := not_or.mp hfails
    obtain ⟨place, hplace⟩ := isDir_iff.mp (Bool.eq_true_of_not_eq_false hdir)
    refine ⟨fun f => ⟨nofun, fun h => absurd h.2 hfails⟩, fun units => ?_⟩
    rw [Except.ok.injEq]
    constructor
    · rintro rfl
      exact ⟨hentry, place, hplace, (pairwise_sortedSet _).imp Utf8.encode_lt_encode_iff.mpr,
        fun unit => mem_unitsBelow hplace⟩
    -- a list in order is decided by its members
    · rintro ⟨-, place', hplace', hsorted, hmem⟩
      obtain rfl : place' = place := by
        rw [hplace] at hplace'
        exact (Target.present.inj (Except.ok.inj hplace')).1.symm
      refine eq_of_pairwise_lt (pairwise_sortedSet _) (hsorted.imp Utf8.encode_lt_encode_iff.mp) ?_
      exact fun unit => (mem_unitsBelow hplace).trans (hmem unit).symm

end SiteSnapshot.SourceDirectory
