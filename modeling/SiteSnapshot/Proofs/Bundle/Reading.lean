import SiteSnapshot.Proofs.Bundle.Exact
import SiteSnapshot.Proofs.Export.Stops

/-!
# What a directory lists and what it reads

A walk of a directory lists what is below its place, where an entry that is no directory counts as a
file, also a link (`mem_listing_iff`). Reading follows links instead, and takes any path, which need
not lead below the directory. So a link to a directory is listed and cannot be read, and no bundle
with one is copied (`copy_ne_ok_of_isDir`); and paths with steps or slashes doubled are read that
are not listed.

Paths without such, on which there is no link above the last name, are **straight** (`Straight`).
Among these, what is read is listed (`mem_listing_of_read`), and what is listed is read if it leads
to something other than a directory (`straight_paths_read_listed`).
-/

namespace SiteSnapshot

open FileTree

namespace FileTree

variable {s t : FileTree} {path : FilePath} {dir loc : Location} {names : List String} {links : ℕ}
  {octets : Bytes}

/-- **A file that plain names lead to** is there, or a link to it, if there is no link above. -/
theorem exists_entry_of_follow (hnames : ∀ s ∈ names, IsName s ∧ IsPlain s) (hne : names ≠ [])
    (hlinks : ∀ init, init <+: names → init ≠ names →
      ∀ text, t.get? (dir ++ init) ≠ some (.link text))
    (h : follow t .followed links dir names = .ok (.present loc (.file octets))) :
    ∃ e, e ≠ .directory ∧ t.get? (dir ++ names) = some e := by
  induction names generalizing dir with
  | nil => exact absurd rfl hne
  | cons name rest ih =>
    obtain ⟨⟨hname, hplain⟩, hrest⟩ := List.forall_mem_cons.mp hnames
    have hreads : Reads .followed name rest :=
      .of_ne_written (not_or.mpr ⟨hname.1, hplain.1⟩) hplain.2 (by simp)
    by_cases hlong : name.utf8ByteSize > maxName
    · rw [follow_tooLong hreads hlong] at h
      cases h
    cases hget : t.get? (dir ++ [name]) with
    | none =>
      rw [follow_free hreads hlong hget] at h
      split_ifs at h
      cases h
    | some e =>
      by_cases hnil : rest = []
      · subst hnil
        refine ⟨e, ?_, hget⟩
        rintro rfl
        rw [follow_directory hreads hlong hget, follow, hget] at h
        cases h
      -- what is above other names is a directory
      · cases e with
        | directory =>
          rw [follow_directory hreads hlong hget] at h
          have hlinks' : ∀ init, init <+: rest → init ≠ rest → ∀ text,
              t.get? (dir ++ [name] ++ init) ≠ some (.link text) := by
            intro init hinit hne' text
            rw [List.append_assoc]
            exact hlinks (name :: init) (List.cons_prefix_cons.mpr ⟨rfl, hinit⟩) (by simpa) text
          rw [List.append_cons]
          exact ih hrest hnil hlinks' h
        | file old =>
          rw [follow_file hreads hlong hget, if_neg (by simpa using hnil)] at h
          cases h
        | link text =>
          exact absurd hget (hlinks [name] (by simp) (by simpa using Ne.symm hnil) text)

/-- **A file below a directory** is what its path leads to, if that leads anywhere. -/
theorem eq_of_resolve_below {init : List String} {name : String} {target : Target}
    {path : FilePath} (h : LeadsTo t path loc)
    (hnames : ∀ s ∈ init ++ [name], IsName s ∧ IsPlain s)
    (hget : t.get? (loc ++ (init ++ [name])) = some (.file octets))
    (hresolve : t.resolve .followed (path.below (init ++ [name])) = .ok target) :
    target = .present (loc ++ (init ++ [name])) (.file octets) := by
  obtain ⟨hname, hplain⟩ := hnames name (by simp)
  have hdirs := allDirectories_of_get? hget
  rcases resolve_below h hnames hdirs.clear with
    ⟨e, -, hfails⟩ | ⟨-, -, hfails⟩ | ⟨hfault, -, links, hfollow⟩
  · rw [hfails] at hresolve
    cases hresolve
  · rw [hfails] at hresolve
    cases hresolve
  · rw [← List.append_assoc] at hget ⊢
    rw [hfollow, follow_file (.of_isPlain hname hplain (by simp))
      (not_tooLong_of_wayFault? hfault name (by simp)) hget] at hresolve
    exact (Except.ok.inj hresolve).symm

/-- A path that leads to a directory does so while the tree develops. -/
theorem Develops.isDir (h : Develops s t) (hcurrent : s.get? s.current = some .directory)
    (hdir : s.isDir path = true) : t.isDir path = true := by
  obtain ⟨hne, hfault, loc, hleads⟩ := exists_faultless_leadsTo hcurrent hdir
  exact (hleads.of_keepsPlaces h.keepsPlaces).isDir hne hfault

theorem read_eq_isDirectory (h : t.isDir path = true) : t.read path = .error .isDirectory := by
  obtain ⟨loc, hresolve⟩ := isDir_iff.mp h
  rw [read, hresolve]

end FileTree

namespace Bundle

variable {t t' : FileTree} {root out : FilePath} {place : Location} {path mount : String} {n : ℕ}

/-- A **straight** path: its names are no steps, with one slash between two, and there is no link
above the last of them. -/
def Straight (t : FileTree) (place : Location) (path : String) : Prop :=
  IsPlainPath path ∧ ∀ init, init <+: namesOf path → init ≠ namesOf path →
    ∀ text, t.get? (place ++ init) ≠ some (.link text)

/-- A single name is a straight path. -/
theorem straight_of_singleton {name : String} (hplace : t.get? place = some .directory)
    (hplain : IsPlainPath path) (hname : namesOf path = [name]) : Straight t place path := by
  refine ⟨hplain, fun init hinit hne text => ?_⟩
  rw [hname] at hinit hne
  rcases List.prefix_cons_iff.mp hinit with rfl | ⟨more, rfl, hmore⟩
  · rw [List.append_nil, hplace]
    simp
  · exact absurd (by rw [List.prefix_nil.mp hmore]) hne

/-- The entries below a place have names that can be in a path. -/
def NamesBelow (t : FileTree) (place : Location) : Prop :=
  ∀ names e, t.get? (place ++ names) = some e → ∀ s ∈ names, IsName s ∧ IsPlain s

theorem namesBelow_of_entries (h : ∀ p ∈ t.entries, ∀ s ∈ p.1, IsName s ∧ IsPlain s)
    (place : Location) : NamesBelow t place := by
  intro names e hget s hs
  rcases eq_nil_or_mem_of_get? hget with hnil | hmem
  · rw [(List.append_eq_nil_iff.mp hnil).2] at hs
    cases hs
  · exact h _ hmem s (List.mem_append_right place hs)

/-- Below a directory what a plain path says is listed. -/
theorem mem_listing_of_get? (hpath : IsPlainPath path) {e : Entry} (he : e ≠ .directory)
    (hget : t.get? (place ++ namesOf path) = some e) : ⟨path, false⟩ ∈ listing t place := by
  refine List.mem_map.mpr ⟨(namesOf path, e), mem_below_iff.mpr ⟨hpath.1, hget⟩, ?_⟩
  dsimp only
  rw [hpath.2.2, beq_eq_false_iff_ne.mpr he]

/-- **What is listed as a file** is at the end of a straight path and no directory. -/
theorem mem_listing_iff (hnames : NamesBelow t place) :
    ⟨path, false⟩ ∈ listing t place ↔ Straight t place path ∧
      ∃ e, e ≠ .directory ∧ t.get? (place ++ namesOf path) = some e := by
  constructor
  · intro hmem
    obtain ⟨⟨names, e⟩, hbelow, hitem⟩ := List.mem_map.mp hmem
    obtain ⟨rfl, hfile⟩ := BundleItem.mk.inj hitem
    obtain ⟨hne, hget⟩ := mem_below_iff.mp hbelow
    have hvalid := hnames names e hget
    rw [Straight, namesOf_intercalate fun s hs => (hvalid s hs).1]
    refine ⟨⟨isPlainPath_intercalate hvalid hne, ?_⟩, e, beq_eq_false_iff_ne.mp hfile, hget⟩
    -- above an entry there are directories
    rintro init ⟨more, rfl⟩ hinit text hlink
    rw [← List.append_assoc] at hget
    have hmore : more ≠ [] := fun hnil => hinit (by rw [hnil, List.append_nil])
    rw [get?_of_get?_append hget hmore] at hlink
    cases hlink
  · rintro ⟨⟨hplain, -⟩, e, he, hget⟩
    exact mem_listing_of_get? hplain he hget

/-! ### What is read -/

theorem exists_resolve_of_read {octets : Bytes}
    (h : (Bundle.directory root).read t path = .ok octets) :
    ∃ loc, t.resolve .followed (FilePath.join root path) = .ok (.present loc (.file octets)) := by
  rw [read] at h
  cases hread : t.read (FilePath.join root path) with
  | error e =>
    rw [hread] at h
    cases h
  | ok bs =>
    rw [hread] at h
    obtain rfl := Except.ok.inj h
    rw [FileTree.read] at hread
    split at hread
    · next loc _ hresolve =>
      obtain rfl := Except.ok.inj hread
      exact ⟨loc, hresolve⟩
    all_goals cases hread

/-- **What is read by a straight path is listed.** -/
theorem mem_listing_of_read (hroot : LeadsTo t root place) (hpath : Straight t place path)
    {octets : Bytes} (h : (Bundle.directory root).read t path = .ok octets) :
    ⟨path, false⟩ ∈ listing t place := by
  obtain ⟨hplain, hlinks⟩ := hpath
  obtain ⟨loc, hresolve⟩ := exists_resolve_of_read h
  obtain ⟨links, hbelow⟩ := hroot.exists_resolve_below hplain.names hplain.1
  rw [hplain.join_eq, hbelow t (.refl t)] at hresolve
  cases hfault : pathFault? (root.below (namesOf path)) with
  | some e =>
    rw [hfault] at hresolve
    cases hresolve
  | none =>
    rw [hfault, Option.elim_none] at hresolve
    obtain ⟨e, he, hget⟩ := exists_entry_of_follow hplain.names hplain.1 hlinks hresolve
    exact mem_listing_of_get? hplain he hget

/-- **A listed item that leads to something** is read, or it is a link to a directory. -/
theorem read_listed_cases (hcurrent : t.get? t.current = some .directory)
    (hroot : LeadsTo t root place) (hnames : NamesBelow t place)
    (hmem : ⟨path, false⟩ ∈ listing t place) {loc : Location} {e : Entry}
    (hresolve : t.resolve .followed (FilePath.join root path) = .ok (.present loc e)) :
    (∃ octets, (Bundle.directory root).read t path = .ok octets ∧
        ∀ old, t.get? (place ++ namesOf path) = some (.file old) → octets = old) ∨
      (∃ text, t.get? (place ++ namesOf path) = some (.link text)) ∧
        t.isDir (FilePath.join root path) = true ∧
        (Bundle.directory root).read t path =
          .error (.file (FilePath.join root path) .isDirectory) := by
  obtain ⟨⟨hplain, -⟩, e', he', hget⟩ := (mem_listing_iff hnames).mp hmem
  -- a file is at its own place
  have hfile : ∀ old, t.get? (place ++ namesOf path) = some (.file old) → e = .file old := by
    intro old hget
    have hvalid := hplain.names
    rw [hplain.join_eq] at hresolve
    obtain ⟨init, name, heq⟩ := (List.eq_nil_or_concat' _).resolve_left hplain.1
    rw [heq] at hresolve hget hvalid
    exact (Target.present.inj (eq_of_resolve_below hroot hvalid hget hresolve)).2
  cases e with
  | file octets =>
    refine Or.inl ⟨octets, ?_, fun old hold => Entry.file.inj (hfile old hold)⟩
    rw [read, FileTree.read, hresolve]
  | directory =>
    have hdir := isDir_iff.mpr ⟨loc, hresolve⟩
    refine Or.inr ⟨?_, hdir, by rw [read, read_eq_isDirectory hdir]⟩
    cases e' with
    | directory => exact absurd rfl he'
    | file old => cases hfile old hget
    | link text => exact ⟨text, hget⟩
  | link text =>
    obtain ⟨-, -, hfollow⟩ := resolve_eq_ok_iff.mp hresolve
    exact absurd hfollow (ne_link_of_follow (get?_origin hcurrent _) (by simp))

/-- **No bundle is copied** that lists a link to a directory. -/
theorem copy_ne_ok_of_isDir (hcurrent : t.get? t.current = some .directory)
    (hroot : LeadsTo t root place) (hplain : IsPlainPath path) {text : String}
    (hlink : t.get? (place ++ namesOf path) = some (.link text))
    (hdir : t.isDir (FilePath.join root path) = true) :
    (Bundle.directory root).copy t mount out ≠ (t', .ok n) := by
  intro hcopy
  have hmade := (Output.grows_ensureDir t (FilePath.join out mount)).develops
  obtain ⟨items, hwalk, hwrote⟩ := exists_of_copy hcurrent hcopy
  rw [walk_eq_listing (hroot.of_keepsPlaces hmade.keepsPlaces) (isDir_of_walk hwalk)] at hwalk
  obtain rfl := Except.ok.inj hwalk
  obtain ⟨s, s', octets, hwrote⟩ :=
    hwrote path (mem_listing_of_get? hplain (by simp) (hmade.link.mpr hlink))
  -- the link still leads to a directory when it is read
  obtain ⟨loc, hresolve⟩ := exists_resolve_of_read hwrote.read
  obtain ⟨loc', hresolve'⟩ := isDir_iff.mp (hwrote.before.isDir hcurrent hdir)
  rw [hresolve] at hresolve'
  cases hresolve'

/-- **Straight paths** are read if they are listed, and only then, but for links to directories. A
directory is walked, and as a file it lists whatever is at the end of a straight path and no
directory. A straight path that leads to something if it is listed can be read exactly if it is
listed and does not lead to a directory. A listed item that leads to something is read, a file with
its own contents, or it is a link to a directory; then reading it fails, and the bundle cannot be
copied. And a favicon with a straight path that is not listed is passed over. -/
theorem straight_paths_read_listed (hcurrent : t.get? t.current = some .directory)
    (hroot : LeadsTo t root place) (hdir : t.isDir root = true) (hnames : NamesBelow t place) :
    ∃ items, (Bundle.directory root).walk t = .ok items ∧
      (∀ path, ⟨path, false⟩ ∈ items ↔ Straight t place path ∧
        ∃ e, e ≠ .directory ∧ t.get? (place ++ namesOf path) = some e) ∧
      (∀ path, Straight t place path →
        (⟨path, false⟩ ∈ items → ∃ loc e,
          t.resolve .followed (FilePath.join root path) = .ok (.present loc e)) →
        ((∃ octets, (Bundle.directory root).read t path = .ok octets) ↔
          ⟨path, false⟩ ∈ items ∧ t.isDir (FilePath.join root path) = false)) ∧
      (∀ path loc e, ⟨path, false⟩ ∈ items →
        t.resolve .followed (FilePath.join root path) = .ok (.present loc e) →
          (∃ octets, (Bundle.directory root).read t path = .ok octets ∧
            ∀ old, t.get? (place ++ namesOf path) = some (.file old) → octets = old) ∨
          (∃ text, t.get? (place ++ namesOf path) = some (.link text)) ∧
            t.isDir (FilePath.join root path) = true ∧
            (Bundle.directory root).read t path =
              .error (.file (FilePath.join root path) .isDirectory) ∧
            ∀ mount out t' n, (Bundle.directory root).copy t mount out ≠ (t', .ok n)) ∧
      ∀ (e : Export) (p : Progress) mount path, p.tree = t →
        e.favicon? = some (mount, path) → mount.bundle = .directory root →
          Straight t place path → ⟨path, false⟩ ∉ items → e.copyFavicon p = ⟨p, none⟩ := by
  refine ⟨listing t place, walk_eq_listing hroot hdir, fun path => mem_listing_iff hnames,
    fun path hpath hleads => ⟨?_, ?_⟩, fun path loc e hmem hresolve => ?_,
    fun e p mount path hp hfavicon hbundle hpath hnot => ?_⟩
  · rintro ⟨octets, hread⟩
    refine ⟨mem_listing_of_read hroot hpath hread, Bool.eq_false_iff.mpr fun hisDir => ?_⟩
    rw [read, read_eq_isDirectory hisDir] at hread
    cases hread
  · rintro ⟨hmem, hfile⟩
    obtain ⟨loc, e, hresolve⟩ := hleads hmem
    rcases read_listed_cases hcurrent hroot hnames hmem hresolve with
      ⟨octets, hread, -⟩ | ⟨-, hisDir, -⟩
    · exact ⟨octets, hread⟩
    · rw [hfile] at hisDir
      cases hisDir
  · obtain ⟨⟨hplain, -⟩, -⟩ := (mem_listing_iff hnames).mp hmem
    refine (read_listed_cases hcurrent hroot hnames hmem hresolve).imp_right ?_
    rintro ⟨⟨text, hlink⟩, hisDir, hread⟩
    exact ⟨⟨text, hlink⟩, hisDir, hread, fun mount out t' n =>
      copy_ne_ok_of_isDir hcurrent hroot hplain hlink hisDir⟩
  · subst hp
    rw [Export.copyFavicon, hfavicon]
    dsimp only
    rw [hbundle]
    cases hread : (Bundle.directory root).read p.tree path with
    | error f => rfl
    | ok octets => exact absurd (mem_listing_of_read hroot hpath hread) hnot

/-! ### An example -/

/-- A site with a file and a link to the directory beside it, where there is a file that is none of
its own. -/
def linkSite : FileTree :=
  ((((FileTree.empty.put [] "data" .directory).put [] "secret" (.file (Utf8.encode "s"))).put []
    "site" .directory).put ["site"] "a.txt" (.file (Utf8.encode "a"))).put ["site"] "d"
      (.link "../data")

theorem leadsTo_linkSite : LeadsTo linkSite "site" ["site"] :=
  leadsTo_of_name (by decide) (by decide) (by decide) rfl rfl

theorem entries_linkSite : linkSite.entries =
    [(["data"], .directory), (["secret"], .file (Utf8.encode "s")), (["site"], .directory),
      (["site", "a.txt"], .file (Utf8.encode "a")), (["site", "d"], .link "../data")] := by
  rfl

/-- The link is the only one in the tree. -/
theorem eq_of_link_linkSite {loc : Location} {text : String}
    (h : linkSite.get? loc = some (.link text)) : loc = ["site", "d"] ∧ text = "../data" := by
  rcases eq_nil_or_mem_of_get? h with rfl | hmem
  · cases h
  · simpa [entries_linkSite] using hmem

/-- The way behind the link leads to the directory beside the site. -/
theorem follow_linkSite (links : ℕ) :
    follow linkSite .followed links ["site"] (stepsOf "../data") =
      .ok (.present ["data"] .directory) := by
  have hdata : linkSite.get? ([] ++ ["data"]) = some .directory := rfl
  rw [show stepsOf "../data" = ["..", "data"] by decide, follow_up]
  change follow linkSite .followed links [] ["data"] = _
  rw [follow_directory (.of_ne_written (by decide) (by decide) (by simp)) (by decide) hdata, follow]
  rfl

theorem linksLead_linkSite : LinksLead linkSite := by
  intro dir name text h
  obtain ⟨hplace, rfl⟩ := eq_of_link_linkSite h
  obtain ⟨rfl, -⟩ := List.append_inj' (show dir ++ [name] = ["site"] ++ ["d"] from hplace) rfl
  exact ⟨_, _, follow_linkSite maxLinks⟩

theorem isDir_linkSite_link : linkSite.isDir "site/d" = true := by
  have hsite : linkSite.get? ([] ++ ["site"]) = some .directory := rfl
  have hlink : linkSite.get? (["site"] ++ ["d"]) = some (.link "../data") := rfl
  refine isDir_iff.mpr ⟨["data"], resolve_eq_ok_iff.mpr ⟨by decide, by decide, ?_⟩⟩
  rw [show stepsOf "site/d" = ["site", "d"] by decide]
  change follow linkSite .followed 40 [] ["site", "d"] = _
  rw [follow_directory (.of_ne_written (by decide) (by decide) (by simp)) (by decide) hsite]
  change follow linkSite .followed 40 ["site"] ["d"] = _
  rw [follow_link (.of_ne_written (by decide) (by decide) (by simp)) (by decide) hlink (by simp),
    List.append_nil]
  exact follow_linkSite 39

theorem read_linkSite_secret :
    (Bundle.directory "site").read linkSite "../secret" = .ok (Utf8.encode "s") := by
  have hsite : linkSite.get? ([] ++ ["site"]) = some .directory := rfl
  have hsecret : linkSite.get? ([] ++ ["secret"]) = some (.file (Utf8.encode "s")) := rfl
  have hresolve : linkSite.resolve .followed (FilePath.join "site" "../secret") =
      .ok (.present ["secret"] (.file (Utf8.encode "s"))) := by
    refine resolve_eq_ok_iff.mpr ⟨by decide, by decide, ?_⟩
    rw [show stepsOf (FilePath.join "site" "../secret") = ["site", "..", "secret"] by decide]
    change follow linkSite .followed 40 [] ["site", "..", "secret"] = _
    rw [follow_directory (.of_ne_written (by decide) (by decide) (by simp)) (by decide) hsite,
      follow_up]
    change follow linkSite .followed 40 [] ["secret"] = _
    rw [follow_file (.of_ne_written (by decide) (by decide) (by simp)) (by decide) hsecret]
    rfl
  rw [read, FileTree.read, hresolve]

/-- **A listed item that cannot be read, and a file that is read and not listed.** Every link leads
to something; the link in the site is listed as a file, cannot be read, and keeps the site from
being copied, and the file beside the site is read from it. -/
theorem linkSite_reads_differ :
    LinksLead linkSite ∧ LeadsTo linkSite "site" ["site"] ∧
      (Bundle.directory "site").walk linkSite = .ok [⟨"a.txt", false⟩, ⟨"d", false⟩] ∧
      (Bundle.directory "site").read linkSite "d" = .error (.file "site/d" .isDirectory) ∧
      (∀ mount out t' n, (Bundle.directory "site").copy linkSite mount out ≠ (t', .ok n)) ∧
      (Bundle.directory "site").read linkSite "../secret" = .ok (Utf8.encode "s") := by
  have hjoin : FilePath.join "site" "d" = "site/d" := by decide
  have hlink : linkSite.get? (["site"] ++ namesOf "d") = some (.link "../data") := by
    rw [show namesOf "d" = ["d"] by decide]
    rfl
  refine ⟨linksLead_linkSite, leadsTo_linkSite, ?_, ?_, fun mount out t' n => ?_,
    read_linkSite_secret⟩
  · rw [walk_eq_listing leadsTo_linkSite (leadsTo_linkSite.isDir (by decide) (by decide))]
    rfl
  · rw [read, hjoin, read_eq_isDirectory isDir_linkSite_link]
  · exact copy_ne_ok_of_isDir rfl leadsTo_linkSite (by decide) hlink (hjoin ▸ isDir_linkSite_link)

/-- In the site with the link, the link is listed and cannot be read, and the path to the file
beside the site is not straight. -/
theorem straight_paths_linkSite : ∃ items,
    (Bundle.directory "site").walk linkSite = .ok items ∧ ⟨"d", false⟩ ∈ items ∧
      (¬∃ octets, (Bundle.directory "site").read linkSite "d" = .ok octets) ∧
      ¬Straight linkSite ["site"] "../secret" := by
  have hnames : NamesBelow linkSite ["site"] := by
    refine namesBelow_of_entries ?_ ["site"]
    rw [entries_linkSite]
    decide
  have hisDir : linkSite.isDir (FilePath.join "site" "d") = true := by
    rw [show FilePath.join "site" "d" = "site/d" by decide]
    exact isDir_linkSite_link
  have hname : namesOf "d" = ["d"] := by decide
  have hlink : linkSite.get? (["site"] ++ namesOf "d") = some (.link "../data") := by
    rw [hname]
    rfl
  obtain ⟨items, hwalk, hlisted, hread, -, -⟩ := straight_paths_read_listed rfl leadsTo_linkSite
    (leadsTo_linkSite.isDir (by decide) (by decide)) hnames
  have hmem : ⟨"d", false⟩ ∈ items :=
    (hlisted "d").mpr ⟨straight_of_singleton rfl (by decide) hname, _, by simp, hlink⟩
  obtain ⟨loc, hresolve⟩ := isDir_iff.mp hisDir
  refine ⟨items, hwalk, hmem, fun hok => ?_, fun h => absurd h.1 (by decide)⟩
  obtain ⟨-, hfile⟩ := (hread "d" ((hlisted "d").mp hmem).1 fun _ => ⟨loc, _, hresolve⟩).mp hok
  rw [hisDir] at hfile
  cases hfile

end Bundle

end SiteSnapshot
