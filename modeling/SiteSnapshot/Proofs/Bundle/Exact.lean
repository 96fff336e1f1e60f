import SiteSnapshot.Proofs.Bundle.Items

/-!
# Copies are complete and exact

A bundle in memory is the same whatever the file tree is. A bundle that is a directory of the tree
is walked and read as it is at the time, so it is the same before, during and after a copy if it
lies **apart** from where it is copied to (`Apart`, `source_eq`).

Then `copy_exact` says what a copy has done that succeeds: every directory of the bundle is below
the directory of the mount, every file is there with its bytes, style sheets and scripts relocated
for their place, and nothing else has changed except that directories are there for these.
-/

namespace SiteSnapshot

open FileTree

namespace Bundle

variable {s t t₁ t' : FileTree} {loc : Location} {items : List BundleItem} {bundle : Bundle}
  {mount path : String} {root out : FilePath} {n : ℕ}

/-! ### Sources apart from the output -/

/-- A bundle that lies apart from a directory: if it is a directory of the tree itself, neither lies
in the other, and the way to the other makes no directory in it. -/
def Apart (t : FileTree) (path : FilePath) : Bundle → Prop
  | .memory _ => True
  | .directory root =>
    ¬t.placeOf path <+: t.placeOf root ∧ ¬t.placeOf root <+: t.placeOf path ∧
      ∀ init, init <+: namesOf path → t.placeOf root <+: placeFrom (t.origin path) init →
        t.get? (placeFrom (t.origin path) init) ≠ none

theorem isDir_of_walk (h : (Bundle.directory root).walk t = .ok items) : t.isDir root = true := by
  rw [walk] at h
  split_ifs at h with hdir
  exact hdir

/-- The listing of what is below a place. -/
def listing (t : FileTree) (loc : Location) : List BundleItem :=
  (t.below loc).map fun (names, e) => ⟨"/".intercalate names, e == .directory⟩

theorem walk_eq_listing (hroot : LeadsTo t root loc) (hdir : t.isDir root = true) :
    (Bundle.directory root).walk t = .ok (listing t loc) := by
  obtain ⟨place, hresolve⟩ := isDir_iff.mp hdir
  obtain ⟨hne, hfault, -⟩ := resolve_eq_ok_iff.mp hresolve
  rw [walk, if_pos hdir, hroot.walk_eq hne hfault, listing]

/-- A directory with the same entries in it is walked the same. -/
theorem walk_directory_eq (hcurrent : t.get? t.current = some .directory)
    (hleads : LeadsTo t root loc) (hdevelops : Develops t s)
    (hsame : ∀ names, s.get? (loc ++ names) = t.get? (loc ++ names)) :
    (Bundle.directory root).walk s = (Bundle.directory root).walk t := by
  have hleads' := hleads.of_keepsPlaces hdevelops.keepsPlaces
  rw [walk, walk]
  by_cases hpath : root ≠ "" ∧ pathFault? root = none
  · rw [hleads.isDir hpath.1 hpath.2, hleads'.isDir hpath.1 hpath.2, hleads.walk_eq hpath.1 hpath.2,
      hleads'.walk_eq hpath.1 hpath.2, below_congr hsame]
  -- a path with a fault is no directory
  · have hfails : ∀ {u : FileTree}, u.get? u.current = some .directory → ¬u.isDir root = true := by
      intro u hcurrent hdir
      obtain ⟨hne, hfault, -⟩ := exists_faultless_leadsTo hcurrent hdir
      exact hpath ⟨hne, hfault⟩
    rw [if_neg (hfails hcurrent), if_neg (hfails (hdevelops.get?_current hcurrent))]

/-- A directory with the same entries in it is walked and read the same. -/
theorem source_eq (hcurrent : t.get? t.current = some .directory) (hlinks : NoLinks t [])
    (hdevelops : Develops t s)
    (hsame : ∀ root, bundle = .directory root →
      ∀ names, s.get? (t.placeOf root ++ names) = t.get? (t.placeOf root ++ names))
    (hwalk : bundle.walk t = .ok items) :
    bundle.walk s = .ok items ∧
      ∀ path, IsPlainPath path → bundle.read s path = bundle.read t path := by
  cases bundle with
  | memory b => exact ⟨hwalk, fun _ _ => rfl⟩
  | directory root =>
    have hsame := hsame root rfl
    obtain ⟨-, -, loc, hleads⟩ := exists_faultless_leadsTo hcurrent (isDir_of_walk hwalk)
    obtain rfl := hleads.eq_placeOf hlinks
    refine ⟨(walk_directory_eq hcurrent hleads hdevelops hsame).trans hwalk, fun path hpath => ?_⟩
    have hread := read_below_congr hleads hdevelops.keepsPlaces hsame
      (fun names => hlinks (t.placeOf root ++ names)) hpath.names hpath.1
    rw [read, read, hpath.join_eq, hread]

/-- **A bundle that lies apart** is the same while the directory is made and filled. -/
theorem source_eq_of_apart (hcurrent : t.get? t.current = some .directory) (hlinks : NoLinks t [])
    (hapart : bundle.Apart t path) (hmade : (Output.ensureDir t path).1 = t₁)
    (hbelow : DevelopsBelow t₁ (t.placeOf path) s) (hwalk : bundle.walk t = .ok items) :
    bundle.walk s = .ok items ∧
      ∀ path, IsPlainPath path → bundle.read s path = bundle.read t path := by
  have hgrows := Output.grows_ensureDir t path
  rw [hmade] at hgrows
  refine source_eq hcurrent hlinks (hgrows.develops.trans hbelow.develops) ?_ hwalk
  rintro root rfl names
  obtain ⟨hin, hout, hway⟩ := hapart
  rw [hbelow.other]
  · rcases hgrows.get?_or (t.placeOf root ++ names) with hsame | ⟨hnone, hdir⟩
    · exact hsame
    -- what is made is on the way to the other directory
    · have hnew : (Output.ensureDir t path).1.get? (t.placeOf root ++ names) ≠ none := by
        rw [hmade, hdir]
        simp
      obtain ⟨init, hinit, hplace⟩ := Output.exists_prefix_of_ensureDir hlinks hnone hnew
      rw [hplace] at hnone
      exact absurd hnone (hway init hinit (hplace ▸ List.prefix_append _ _))
  · rintro names' - heq
    rcases List.prefix_or_prefix_of_prefix (List.prefix_append (t.placeOf root) names)
      (heq ▸ List.prefix_append (t.placeOf path) names') with hpre | hpre
    · exact hout hpre
    · exact hin hpre

/-! ### The copy -/

/-- The bytes of a file of a bundle. -/
def bytesOf (bundle : Bundle) (t : FileTree) (path : String) : Bytes :=
  (bundle.read t path).toOption.getD []

/-- **Copying a bundle is complete and exact.** On a tree without links, a copy that succeeds has
copied as many files as the bundle has; its directories are directories below the directory of the
mount, its files hold their bytes there, or what relocating these for their place in the site gives
if they are style sheets or scripts; and any other place is as it was, or a directory is there where
nothing was. The bundle itself has not changed. -/
theorem copy_exact {mountNames : List String} (hcurrent : t.get? t.current = some .directory)
    (hlinks : NoLinks t []) (hmount : ∀ s ∈ mountNames, IsName s ∧ IsPlain s)
    (hwalk : bundle.walk t = .ok items) (hplain : ∀ item ∈ items, IsPlainPath item.path)
    (hapart : bundle.Apart t (FilePath.join out ("/".intercalate mountNames)))
    (hcopy : bundle.copy t ("/".intercalate mountNames) out = (t', .ok n)) :
    n = items.countP (!·.isDir) ∧
    (∀ item ∈ items, item.isDir = true →
      t'.get? (t.placeOf out ++ mountNames ++ namesOf item.path) = some .directory) ∧
    (∀ item ∈ items, item.isDir = false → ∃ octets, bundle.read t item.path = .ok octets ∧
      t'.get? (t.placeOf out ++ mountNames ++ namesOf item.path) = some (.file
        (if Asset.isRelocatable ("/".intercalate mountNames ++ "/" ++ item.path) then
          Asset.transform octets ("/".intercalate mountNames ++ "/" ++ item.path)
        else octets))) ∧
    (∀ place, (∀ item ∈ items, item.isDir = false →
        place ≠ t.placeOf out ++ mountNames ++ namesOf item.path) →
      t'.get? place = t.get? place ∨ t.get? place = none ∧ t'.get? place = some .directory) ∧
    bundle.walk t' = .ok items ∧
    ∀ item ∈ items, bundle.read t' item.path = bundle.read t item.path := by
  rw [← placeOf_join t out hmount]
  generalize "/".intercalate mountNames = mount at *
  rcases copy_cases t bundle mount out with ⟨f, hfails, -⟩ | ⟨t₁, items', hmade, hwalk', hitems⟩
  · rw [hcopy] at hfails
    cases hfails
  have hgrows := Output.grows_of_ensureDir hmade
  obtain ⟨loc, hleads⟩ := Output.exists_leadsTo_of_ensureDir hcurrent hmade
  have hlinks' : NoLinks t₁ [] := hlinks.of_develops hgrows.develops
  have hcurrent' := hgrows.develops.get?_current hcurrent
  obtain rfl : loc = t.placeOf (FilePath.join out mount) := by
    rw [hleads.eq_placeOf hlinks', placeOf, placeOf, hgrows.develops.origin_eq]
  -- the bundle is the same all the time
  have hsource : ∀ s, DevelopsBelow t₁ (t.placeOf (FilePath.join out mount)) s →
      bundle.walk s = .ok items ∧
        ∀ path, IsPlainPath path → bundle.read s path = bundle.read t path := fun s hs =>
    source_eq_of_apart hcurrent hlinks hapart (congrArg Prod.fst hmade) hs hwalk
  obtain rfl : items' = items := Except.ok.inj (hwalk'.symm.trans (hsource t₁ (.refl t₁ _)).1)
  have hgives : GivesOnly bundle t₁ (t.placeOf (FilePath.join out mount)) items'
      (bundle.bytesOf t) := by
    intro s hs item hitem _ octets hread
    rw [bytesOf, ← (hsource s hs).2 item.path (hplain item hitem), hread]
    rfl
  obtain ⟨hcopied, hcount⟩ := copiedItems_of_copyItems hcurrent' hleads
    (hlinks'.append _) hplain hgives (hitems.symm.trans hcopy)
  have hend := hsource t' hcopied.below
  refine ⟨by rw [hcount, Nat.zero_add], fun item hitem hdir => ?_, fun item hitem hfile => ?_,
    fun place hplace => ?_, hend.1, fun item hitem => hend.2 item.path (hplain item hitem)⟩
  · rw [hcopied.adds.last item hitem, entryOf, hdir, if_pos rfl]
  · obtain ⟨s, hs, hread⟩ := hcopied.read item hitem hfile
    refine ⟨_, ((hsource s hs).2 item.path (hplain item hitem)).symm.trans hread, ?_⟩
    rw [hcopied.adds.last item hitem, entryOf, hfile, if_neg Bool.false_ne_true]
    rfl
  · rcases hcopied.adds.get?_or hplace with hdir | hsame
    · rcases (hgrows.develops.trans hcopied.below.develops).none_or_directory hdir with
        hnone | hsame
      · exact Or.inr ⟨hnone, hdir⟩
      · exact Or.inl (hdir.trans hsame.symm)
    · rw [hsame]
      exact hgrows.get?_or place

/-- **A bundle is copied** where there is nothing yet, if its files can be read, none of them is in
the way of another item, and no path has a fault. -/
theorem exists_copy_eq {dir : FilePath} {names : List String}
    (hcurrent : t.get? t.current = some .directory) (hlinks : NoLinks t [])
    (hleads : LeadsTo t dir loc) (hnames : ∀ s ∈ names, IsName s ∧ IsPlain s) (hne : names ≠ [])
    (hpath : FilePath.join out mount = dir.below names)
    (hspace : HasSpace t loc names .directory)
    (hempty : ∀ more, more ≠ [] → t.get? (loc ++ (names ++ more)) = none)
    (hwalk : bundle.walk t = .ok items) (hplain : ∀ item ∈ items, IsPlainPath item.path)
    (hread : ∀ item ∈ items, item.isDir = false → ∃ octets, bundle.read t item.path = .ok octets)
    (hapart : bundle.Apart t (dir.below names))
    (hway : ∀ item ∈ items, ∀ other ∈ items, NotInWay item other)
    (hfault : wayFault? (dir.below names) names = none)
    (hfaults : ∀ item ∈ items,
      wayFault? ((dir.below names).below (namesOf item.path)) (namesOf item.path) = none) :
    ∃ t' n, bundle.copy t mount out = (t', .ok n) := by
  obtain ⟨t₁, hmade⟩ := Output.exists_ensureDir_eq hleads hnames hne hspace hfault
  obtain ⟨-, hadds, hleads'⟩ :=
    Output.adds_of_ensureDir hcurrent hleads hnames hne (hlinks.append loc) hmade
  have hgrows := Output.grows_of_ensureDir hmade
  have hlinks' : NoLinks t₁ [] := hlinks.of_develops hgrows.develops
  have hempty' : ∀ more, more ≠ [] → t₁.get? (loc ++ names ++ more) = none := by
    intro more hmore
    rw [List.append_assoc, hadds.get?_below hmore, hempty more hmore]
  -- the bundle is the same once the directory is there
  have hsource : ∀ s, DevelopsBelow t₁ (loc ++ names) s → bundle.walk s = .ok items ∧
      ∀ path, IsPlainPath path → bundle.read s path = bundle.read t path := by
    intro s hs
    rw [hleads'.eq_placeOf hlinks', placeOf, hgrows.develops.origin_eq] at hs
    exact source_eq_of_apart hcurrent hlinks hapart (congrArg Prod.fst hmade) hs hwalk
  have hgives : Gives bundle t₁ (loc ++ names) items (bundle.bytesOf t) := by
    intro s hs item hitem hfile
    obtain ⟨octets, hoctets⟩ := hread item hitem hfile
    rw [(hsource s hs).2 item.path (hplain item hitem), bytesOf, hoctets]
    rfl
  have hspaces : ∀ item ∈ items, HasSpace t₁ (loc ++ names) (namesOf item.path)
      (entryOf (contentOf mount (bundle.bytesOf t)) item) := by
    refine fun item hitem => ⟨fun above _ _ => ?_, Or.inl (hempty' _ (hplain item hitem).1)⟩
    by_cases hnil : above = []
    · rw [hnil, List.append_nil]
      exact Or.inr hleads'.isDirectory
    · exact Or.inl (hempty' above hnil)
  rw [copy, hpath, hmade]
  dsimp only
  rw [(hsource t₁ (.refl t₁ _)).1]
  exact exists_copyItems_eq (hgrows.develops.get?_current hcurrent) hleads' (hlinks'.append _)
    hplain hgives hway hspaces hfaults

/-! ### An example -/

/-- A site with a style sheet and an empty directory. -/
def smallSite : FileTree :=
  ((FileTree.empty.put [] "site" .directory).put ["site"] "a.css"
    (.file (Utf8.encode "url(/static/b.png)"))).put ["site"] "img" .directory

/-- The items of the site. -/
def smallItems : List BundleItem := [⟨"a.css", false⟩, ⟨"img", true⟩]

theorem noLinks_smallSite : NoLinks smallSite [] :=
  (((noLinks_empty []).put (by simp) _ _).put (by simp) _ _).put (by simp) _ _

theorem leadsTo_smallSite : LeadsTo smallSite "site" ["site"] :=
  leadsTo_of_name (by decide) (by decide) (by decide) rfl rfl

theorem walk_smallSite : (Bundle.directory "site").walk smallSite = .ok smallItems := by
  rw [walk_eq_listing leadsTo_smallSite (leadsTo_smallSite.isDir (by decide) (by decide))]
  rfl

theorem apart_smallSite : (Bundle.directory "site").Apart smallSite "out/static" := by
  have hplace : smallSite.placeOf "site" = ["site"] := by decide
  have hplace' : smallSite.placeOf "out/static" = ["out", "static"] := by decide
  have hnames : namesOf "out/static" = ["out", "static"] := by decide
  rw [Apart, hplace, hplace', hnames]
  refine ⟨by decide, by decide, fun init hinit hsite => ?_⟩
  -- the way to the output does not pass the site
  have hplain : ∀ s ∈ init, IsPlain s := fun s hs =>
    (show ∀ s ∈ ["out", "static"], IsPlain s by decide) s (hinit.subset hs)
  rw [placeFrom_of_forall_isPlain hplain] at hsite
  exact absurd (hsite.trans hinit) (by decide)

/-- Where the site is copied to there is nothing. -/
theorem get?_smallSite_out (more : List String) : smallSite.get? (["out"] ++ more) = none :=
  get?_append_eq_none rfl more

theorem hasSpace_smallSite : HasSpace smallSite [] ["out", "static"] .directory :=
  .of_get?_eq_none [] [] rfl (get?_smallSite_out []) .directory

theorem read_smallSite : (Bundle.directory "site").read smallSite "a.css" =
    .ok (Utf8.encode "url(/static/b.png)") := by
  have hjoin : FilePath.join "site" "a.css" = FilePath.below "site" ([] ++ ["a.css"]) := by decide
  have hfile : smallSite.get? (["site"] ++ ([] ++ ["a.css"])) =
      some (.file (Utf8.encode "url(/static/b.png)")) := rfl
  rw [read, hjoin, read_below leadsTo_smallSite (by decide) (by decide) hfile]

/-- The site is copied below `out/static`, with its style sheet relocated for that place. -/
theorem copy_exact_smallSite :
    ∃ t' n, (Bundle.directory "site").copy smallSite "static" "out" = (t', .ok n) ∧ n = 1 ∧
      t'.get? ["out", "static", "img"] = some .directory ∧
      t'.get? ["out", "static", "a.css"] = some (.file
        (Asset.transform (Utf8.encode "url(/static/b.png)") "static/a.css")) ∧
      t'.get? ["site", "a.css"] = some (.file (Utf8.encode "url(/static/b.png)")) := by
  have hcurrent : smallSite.get? smallSite.current = some .directory := rfl
  have hmount : "/".intercalate ["static"] = "static" := String.intercalate_singleton
  have hplain : ∀ item ∈ smallItems, IsPlainPath item.path := by decide
  obtain ⟨t', n, hcopy⟩ : ∃ t' n, (Bundle.directory "site").copy smallSite "static" "out" =
      (t', .ok n) := by
    refine exists_copy_eq hcurrent noLinks_smallSite (leadsTo_empty hcurrent) (by decide)
      (by decide) (show _ = FilePath.below "" ["out", "static"] by decide) hasSpace_smallSite
      (fun more _ => get?_smallSite_out ("static" :: more)) walk_smallSite hplain
      (fun item hitem hfile => ?_) apart_smallSite (by decide) (by decide) (by decide)
    rcases List.mem_cons.mp hitem with rfl | hitem
    · exact ⟨_, read_smallSite⟩
    · rw [List.mem_singleton.mp hitem] at hfile
      cases hfile
  have hapart : (Bundle.directory "site").Apart smallSite
      (FilePath.join "out" ("/".intercalate ["static"])) := by
    rw [hmount]
    exact apart_smallSite
  obtain ⟨hcount, hdirs, hfiles, hothers, -, -⟩ := copy_exact hcurrent noLinks_smallSite
    (show ∀ s ∈ ["static"], IsName s ∧ IsPlain s by decide) walk_smallSite hplain hapart
    (hmount.symm ▸ hcopy)
  rw [hmount] at hfiles
  refine ⟨t', n, hcopy, hcount, hdirs ⟨"img", true⟩ (by decide) rfl, ?_, ?_⟩
  · obtain ⟨octets, hoctets, hfile⟩ := hfiles ⟨"a.css", false⟩ (by decide) rfl
    obtain rfl := Except.ok.inj (hoctets.symm.trans read_smallSite)
    have hsheet : Asset.isRelocatable ("static" ++ "/" ++ "a.css") = true := by decide
    rw [hsheet, if_pos rfl] at hfile
    exact hfile
  · rcases hothers ["site", "a.css"] (by decide) with hsame | ⟨hnone, -⟩
    · exact hsame
    · cases hnone

end Bundle

end SiteSnapshot
