import SiteSnapshot.Proofs.Layout.Additions

/-!
# The frame of a write

What writing one file does to the rest of a tree without links. For a path that every tree has a
place for (`IsFilePath`), the directories and files on its way decide whether the file is written:
nothing but a file above its place or a directory at its place is in the way. A file that is
written is at its place, below directories, and the rest of the tree is as it was
(`Adds.get?_eq`).

A file that is not written leaves nothing behind, although its directory is made first. What stops
it has directories above it already, so no directory is made on the way to it
(`write_fst_eq_self`).
-/

namespace SiteSnapshot

open FileTree

namespace FileTree

variable {t t' : FileTree} {loc : Location} {names : List String} {octets : Bytes}

/-- Something that is in the way of a file: a file above its place, or a directory at its place. -/
def Obstructed (t : FileTree) (loc : Location) (names : List String) : Prop :=
  (∃ above o, above <+: names ∧ above ≠ names ∧ t.get? (loc ++ above) = some (.file o)) ∨
    t.get? (loc ++ names) = some .directory

/-- Without links there is space for a file that nothing is in the way of. -/
theorem hasSpace_of_not_obstructed (hlinks : NoLinks t loc) (h : ¬Obstructed t loc names)
    (octets : Bytes) : HasSpace t loc names (.file octets) := by
  obtain ⟨habove, hlast⟩ := not_or.mp h
  constructor
  · intro above hpre hne
    cases hget : t.get? (loc ++ above) with
    | none => exact Or.inl rfl
    | some e =>
      cases e with
      | directory => exact Or.inr rfl
      | file o => exact absurd ⟨above, o, hpre, hne, hget⟩ habove
      | link text => exact absurd hget (hlinks above text)
  · cases hget : t.get? (loc ++ names) with
    | none => exact Or.inl rfl
    | some e =>
      cases e with
      | directory => exact absurd hget hlast
      | file o => exact Or.inr (Or.inr ⟨octets, o, rfl, rfl⟩)
      | link text => exact absurd hget (hlinks names text)

/-- A file that was added had nothing in its way. -/
theorem Adds.not_obstructed (h : Adds t loc names (.file octets) t') (hdevelops : Develops t t') :
    ¬Obstructed t loc names := by
  rintro (⟨above, o, hpre, hne, hfile⟩ | hdir)
  · obtain ⟨o', hfile'⟩ := hdevelops.file hfile
    rw [h.above above hpre hne] at hfile'
    cases hfile'
  · have hdir' := hdevelops.directory hdir
    rw [h.last] at hdir'
    cases hdir'

/-- **The whole tree after a file was added**: the file at its place, directories above it, and
everything else as it was. -/
theorem Adds.get?_eq (h : Adds t loc names (.file octets) t') (place : Location) :
    t'.get? place = if place = loc ++ names then some (.file octets)
      else if place <+: loc ++ names then some .directory else t.get? place := by
  split_ifs with hplace habove
  · rw [hplace, h.last]
  · obtain ⟨more, hmore⟩ := habove
    refine get?_of_get?_append (hmore ▸ h.last) fun hnil => hplace ?_
    rw [← hmore, hnil, List.append_nil]
  · refine h.other place fun above hpre heq => habove ?_
    rw [heq, List.prefix_append_right_inj]
    exact hpre

/-- An entry other than the file that was added stays: above the file it was a directory, since it
has developed to one. -/
theorem Adds.get?_of_get?_ne {place : Location} {e : Entry}
    (h : Adds t loc names (.file octets) t') (hdevelops : Develops t t')
    (hplace : place ≠ loc ++ names) (hget : t.get? place = some e) : t'.get? place = some e := by
  rw [h.get?_eq, if_neg hplace]
  split_ifs with habove
  · have hdir : t'.get? place = some .directory := by
      rw [h.get?_eq, if_neg hplace, if_pos habove]
    rcases hdevelops.none_or_directory hdir with hnone | hsame
    · rw [hnone] at hget
      cases hget
    · rw [← hsame, hget]
  · exact hget

/-- What stands in the way has directories above it, so no directory is new on the way. -/
theorem Obstructed.get?_ne_none (h : Obstructed t loc names) (hgrows : Grows t t')
    {above : List String} (hpre : above <+: names)
    (hdir : t'.get? (loc ++ above) = some .directory) : t.get? (loc ++ above) ≠ none := by
  intro hnone
  rcases h with ⟨upper, o, hupper, -, hfile⟩ | hlast
  · rcases List.prefix_or_prefix_of_prefix hpre hupper with ⟨more, rfl⟩ | ⟨more, rfl⟩
    -- above a file there are directories, and below it there can be none
    · rw [← List.append_assoc, get?_append_eq_none hnone] at hfile
      cases hfile
    · by_cases hmore : more = []
      · rw [hmore, List.append_nil, hfile] at hnone
        cases hnone
      · rw [← List.append_assoc] at hdir
        have hupperDir := get?_of_get?_append hdir hmore
        rw [hgrows.get? hfile] at hupperDir
        cases hupperDir
  · obtain ⟨more, rfl⟩ := hpre
    rw [← List.append_assoc, get?_append_eq_none hnone] at hlast
    cases hlast

end FileTree

/-! ### Paths of files -/

/-- Names that are a path in every tree: none of them is a step, and neither they nor the path that
they make up are too long. -/
structure IsFilePath (names : List String) : Prop where
  plain : ∀ s ∈ names, IsName s ∧ IsPlain s
  no_nul : ∀ s ∈ names, '\x00' ∉ s.toList
  short : ∀ s ∈ names, s.utf8ByteSize ≤ maxName
  path_short : ("/".intercalate names).utf8ByteSize ≤ maxPath

namespace IsFilePath

variable {names : List String} (h : IsFilePath names)

include h

theorem below_eq : FilePath.below "" names = "/".intercalate names := by
  by_cases hne : names = []
  · rw [hne]
    rfl
  · have hisName : ∀ s ∈ names, IsName s := fun s hs => (h.plain s hs).1
    rw [← FilePath.join_intercalate hisName hne]
    simp [FilePath.join, FilePath.isAbsolute_intercalate hisName]

theorem nul_notMem : '\x00' ∉ ("/".intercalate names).toList := by
  have hall := h.no_nul
  clear h
  induction names with
  | nil => simp
  | cons name rest ih =>
    obtain ⟨hname, hrest⟩ := List.forall_mem_cons.mp hall
    by_cases hnil : rest = []
    · rwa [hnil, String.intercalate_singleton]
    · have hslash : '\x00' ∉ "/".toList := by decide
      rw [String.intercalate_cons_of_ne_nil hnil, String.toList_append, String.toList_append]
      simp only [List.mem_append, not_or]
      exact ⟨⟨hname, hslash⟩, ih hrest⟩

/-- No tree lacks a place for the path of a file. -/
theorem wayFault?_eq_none : wayFault? (FilePath.below "" names) names = none := by
  rw [h.below_eq, wayFault?_eq_none_iff, pathFault?, if_neg h.nul_notMem,
    if_neg (Nat.not_lt.mpr h.path_short)]
  exact ⟨rfl, fun s hs => Nat.not_lt.mpr (h.short s hs)⟩

end IsFilePath

namespace Output

variable {t : FileTree} {names : List String} {octets : Bytes} {f : Failure}

/-- **A file that something is in the way of leaves nothing behind.** -/
theorem write_fst_eq_self (hlinks : NoLinks t []) (hpath : ∀ s ∈ names, IsName s ∧ IsPlain s)
    (hobstructed : Obstructed t t.current names)
    (h : (write t (FilePath.below "" names) octets).2 = .error f) :
    (write t (FilePath.below "" names) octets).1 = t := by
  have hisName : ∀ s ∈ names, IsName s := fun s hs => (hpath s hs).1
  rcases write_fst_of_error h with hsame | ⟨dir, hparent, hdir⟩
  · exact hsame
  have hgrows := grows_ensureDir t dir
  obtain ⟨-, habsolute, -, name, m, n, hnames, -⟩ := FilePath.exists_of_parent? hparent
  rw [FilePath.namesOf_below hisName, namesOf_empty, List.nil_append] at hnames
  rw [hdir]
  refine ext_get? hgrows.current fun place => ?_
  -- a new directory would be on the way, where nothing is new
  rcases hgrows.get?_or place with hsame | ⟨hnone, hmade⟩
  · exact hsame
  have hthere : (ensureDir t dir).1.get? place ≠ none := by simp [hmade]
  obtain ⟨above, habove, rfl⟩ := exists_prefix_of_ensureDir hlinks hnone hthere
  have hpre : above <+: names := habove.trans (hnames ▸ List.prefix_append _ _)
  have horigin : t.origin dir = t.current := by
    rw [origin, habsolute, FilePath.isAbsolute_below hisName, if_neg (by decide)]
  rw [horigin, placeFrom_of_forall_isPlain fun s hs => (hpath s (hpre.subset hs)).2] at hnone hmade
  exact absurd hnone (hobstructed.get?_ne_none hgrows hpre hmade)

/-- The empty path is that of the current directory, and no file can be there. -/
theorem write_below_nil :
    write t (FilePath.below "" []) octets = (t, .error (.file "" .notFound)) := by
  have hresolve : t.resolve .written "" = .error .notFound := by
    rw [resolve, start_empty]
    rfl
  rw [FilePath.below_nil, write_of_none (by decide), writeFile, FileTree.write, hresolve]

/-- What was written was added. -/
theorem adds_of_write_eq_ok {t' : FileTree} (hlinks : NoLinks t [])
    (hcurrent : t.get? t.current = some .directory) (hpath : IsFilePath names)
    (h : write t (FilePath.below "" names) octets = (t', .ok ())) :
    Adds t t.current names (.file octets) t' := by
  have hne : names ≠ [] := by
    rintro rfl
    rw [write_below_nil] at h
    cases h
  exact (adds_of_write hcurrent (leadsTo_empty hcurrent) hpath.plain hne (hlinks.append t.current)
    h).2

/-- **A file is written exactly if nothing is in its way.** -/
theorem write_eq_ok_iff (hlinks : NoLinks t []) (hcurrent : t.get? t.current = some .directory)
    (hpath : IsFilePath names) :
    (write t (FilePath.below "" names) octets).2 = .ok () ↔ ¬Obstructed t t.current names := by
  constructor
  · intro h
    have hwrite : write t (FilePath.below "" names) octets = (_, .ok ()) := Prod.ext rfl h
    exact (adds_of_write_eq_ok hlinks hcurrent hpath hwrite).not_obstructed
      (develops_of_write hcurrent hwrite)
  · intro h
    have hne : names ≠ [] := by
      rintro rfl
      exact h (Or.inr (by rwa [List.append_nil]))
    obtain ⟨t', hwrite, -⟩ := exists_output_eq (leadsTo_empty hcurrent) hpath.plain hne
      (hasSpace_of_not_obstructed (hlinks.append t.current) h octets) hpath.wayFault?_eq_none octets
    rw [hwrite]

/-- **Writing one file touches only that file.** In a tree without links a file is written exactly
if no file is above its place and no directory is at it. Then its place holds its octets and
everything above it is a directory; every other entry is as it was, and nothing else is new. If it
is not written, the failure is one to write files, and the tree is the same as before. -/
theorem write_touches_one (hlinks : NoLinks t []) (hcurrent : t.get? t.current = some .directory)
    (hpath : IsFilePath names) (octets : Bytes) :
    ((write t ("/".intercalate names) octets).2 = .ok () ↔
      (∀ above, above <+: names → above ≠ names →
          ∀ o, t.get? (t.current ++ above) ≠ some (.file o)) ∧
        t.get? (t.current ++ names) ≠ some .directory) ∧
    (∀ t', write t ("/".intercalate names) octets = (t', .ok ()) →
      t'.current = t.current ∧
      (∀ place, t'.get? place = if place = t.current ++ names then some (.file octets)
        else if place <+: t.current ++ names then some .directory else t.get? place) ∧
      ∀ place e, place ≠ t.current ++ names → t.get? place = some e → t'.get? place = some e) ∧
    ∀ t' f, write t ("/".intercalate names) octets = (t', .error f) →
      (∃ path cause, f = .file path cause) ∧ t' = t := by
  rw [← hpath.below_eq]
  -- the condition of the statement says that nothing is in the way
  have hclear : ((∀ above, above <+: names → above ≠ names →
        ∀ o, t.get? (t.current ++ above) ≠ some (.file o)) ∧
      t.get? (t.current ++ names) ≠ some .directory) ↔ ¬Obstructed t t.current names := by
    simp only [Obstructed, not_or, not_exists, not_and, ne_eq]
    exact and_congr_left' ⟨fun h above o hpre hne => h above hpre hne o,
      fun h above hpre hne o => h above o hpre hne⟩
  have hsuccess : (write t (FilePath.below "" names) octets).2 = .ok () ↔
      ¬Obstructed t t.current names := write_eq_ok_iff hlinks hcurrent hpath
  refine ⟨hsuccess.trans hclear.symm, fun t' h => ?_, fun t' f h => ?_⟩
  · have hadded := adds_of_write_eq_ok hlinks hcurrent hpath h
    exact ⟨hadded.current, hadded.get?_eq, fun place e =>
      hadded.get?_of_get?_ne (develops_of_write hcurrent h)⟩
  · have herror : (write t (FilePath.below "" names) octets).2 = .error f := congrArg Prod.snd h
    have hobstructed : Obstructed t t.current names := by
      by_contra hfree
      rw [hsuccess.mpr hfree] at herror
      cases herror
    refine ⟨Failure.exists_eq_file (isFatal_of_write herror), ?_⟩
    rw [← write_fst_eq_self hlinks hpath.plain hobstructed herror, h]

/-- An output with the file of one page. -/
def onePage : FileTree :=
  (FileTree.empty.put [] "out" .directory).put ["out"] "go1.21" (.file [1])

/-- A page below the one page is not written and leaves the output as it is; another one is written
next to it, with the directories above it. -/
theorem write_touches_one_onePage :
    (NoLinks onePage [] ∧ IsFilePath ["out", "go1.21", "fmt", "index.html"] ∧
      IsFilePath ["out", "net", "http", "index.html"]) ∧
    (∃ path cause, write onePage "out/go1.21/fmt/index.html" [2] =
      (onePage, .error (.file path cause))) ∧
    ∃ t', write onePage "out/net/http/index.html" [2] = (t', .ok ()) ∧
      t'.get? ["out", "net", "http", "index.html"] = some (.file [2]) ∧
      t'.get? ["out", "net"] = some .directory ∧ t'.get? ["out", "go1.21"] = some (.file [1]) := by
  have hlinks : NoLinks onePage [] := ((noLinks_empty []).put (by simp) _ _).put (by simp) _ _
  have hbelow : IsFilePath ["out", "go1.21", "fmt", "index.html"] :=
    ⟨by decide, by decide, by decide, by decide⟩
  have hbeside : IsFilePath ["out", "net", "http", "index.html"] :=
    ⟨by decide, by decide, by decide, by decide⟩
  refine ⟨⟨hlinks, hbelow, hbeside⟩, ?_, ?_⟩
  · have hpath : "/".intercalate ["out", "go1.21", "fmt", "index.html"] =
        "out/go1.21/fmt/index.html" := by decide
    obtain ⟨hiff, -, hfails⟩ := write_touches_one hlinks rfl hbelow [2]
    rw [hpath] at hiff hfails
    rcases hwrite : write onePage "out/go1.21/fmt/index.html" [2] with ⟨t', ⟨⟩ | f⟩
    · obtain ⟨⟨path, cause, rfl⟩, rfl⟩ := hfails t' _ hwrite
      exact ⟨path, cause, rfl⟩
    · rw [hwrite] at hiff
      exact absurd rfl ((hiff.mp rfl).1 ["out", "go1.21"] (by decide) (by decide) [1])
  · have hpath : "/".intercalate ["out", "net", "http", "index.html"] =
        "out/net/http/index.html" := by decide
    obtain ⟨hiff, hwritten, -⟩ := write_touches_one hlinks rfl hbeside [2]
    rw [hpath] at hiff hwritten
    have hinits : ∀ above ∈ ["out", "net", "http", "index.html"].inits,
        onePage.get? above = none ∨ onePage.get? above = some .directory := by decide
    have hok : (write onePage "out/net/http/index.html" [2]).2 = .ok () := by
      refine hiff.mpr ⟨fun above habove _ o hfile => ?_, by decide⟩
      rcases hinits above ((List.mem_inits _ _).mpr habove) with hnone | hdir
      · exact absurd (hnone.symm.trans hfile) (by simp)
      · exact absurd (hdir.symm.trans hfile) (by simp)
    obtain ⟨-, htree, hkept⟩ := hwritten _ (Prod.ext rfl hok)
    exact ⟨_, Prod.ext rfl hok, htree _, htree ["out", "net"], hkept _ _ (by decide) rfl⟩

end Output

end SiteSnapshot
