import SiteSnapshot.Proofs.Asset.Substitution
import SiteSnapshot.Proofs.Bundle.Copying
import SiteSnapshot.Proofs.FileTree.Containment

/-!
# Where the references of an asset lead

A file of a bundle is copied to the path of its mount and its own path below the output directory
(`Asset.Place`). The depth that its references are relocated for counts slashes in its path on the
site, and this is the number of directories between the output directory and the file
(`Asset.Place.depth_sitePath`). So the way that every reference gets leads from the directory of the
file to the output directory and not above it (`Asset.Place.follow_toRoot`).

What is relocated is every opener directly before the root of a bundle, wherever it stands
(`Roots.substitute_append`), and nothing else (`Roots.substitute_eq_self`). `asset_relocates` puts
these together.
-/

namespace SiteSnapshot

open FileTree

/-! ### Every reference of a text -/

namespace Roots

/-- The root of a bundle without its leading slash. -/
def bare (root : String) : String :=
  String.ofList (root.toList.drop 1)

/-- A word without an element ends in front of it. -/
theorem prefix_append_cons_iff {α : Type} {w l m : List α} {a : α} (ha : a ∉ w) :
    w <+: l ++ a :: m ↔ w <+: l := by
  induction w generalizing l with
  | nil => simp
  | cons c w ih =>
    rw [List.mem_cons, not_or] at ha
    cases l with
    | nil =>
      rw [List.nil_append, List.cons_prefix_cons]
      exact iff_of_false (fun h => ha.1 h.1.symm) (by simp)
    | cons b l => rw [List.cons_append, List.cons_prefix_cons, List.cons_prefix_cons, ih ha.2]

/-- The three openers. -/
theorem mem_openers_iff {opener : Char} :
    opener ∈ quotesAndParenthesis ↔ opener = '"' ∨ opener = '\'' ∨ opener = '(' := by
  simp [quotesAndParenthesis]

/-- An opener is one octet. -/
theorem encode_opener {opener : Char} (h : opener ∈ quotesAndParenthesis) :
    Utf8.encode (String.singleton opener) = [opener.toNat.toUInt8] := by
  rcases mem_openers_iff.mp h with rfl | rfl | rfl <;> decide

theorem mem_encode_openers_iff {b : UInt8} :
    b ∈ Utf8.encode (String.ofList quotesAndParenthesis) ↔
      ∃ opener ∈ quotesAndParenthesis, opener.toNat.toUInt8 = b := by
  have hopeners : Utf8.encode (String.ofList quotesAndParenthesis) =
      quotesAndParenthesis.map (·.toNat.toUInt8) := by decide
  rw [hopeners, List.mem_map]

/-- No opener is part of a root. -/
theorem opener_notMem_root {opener : Char} (h : opener ∈ quotesAndParenthesis) :
    ∀ root ∈ bundleRoots.map Utf8.encode, opener.toNat.toUInt8 ∉ root := by
  rcases mem_openers_iff.mp h with rfl | rfl | rfl <;> decide

theorem encode_bare : ∀ root ∈ bundleRoots,
    Utf8.encode (bare root) = (Utf8.encode root).drop 1 := by
  decide

section Substitute

variable {openers : List Char} {toRoot : String} {b : UInt8} {root : Bytes}

/-- In front of an opener, the same roots start. -/
theorem rootAt?_append_cons (hb : b ∈ Utf8.encode (String.ofList quotesAndParenthesis))
    (text more : Bytes) : rootAt? (text ++ b :: more) = rootAt? text := by
  refine Option.ext fun root => ?_
  rw [rootAt?_eq_some_iff, rootAt?_eq_some_iff]
  refine and_congr_right fun hroot => ?_
  obtain ⟨opener, hopener, rfl⟩ := mem_encode_openers_iff.mp hb
  exact prefix_append_cons_iff (opener_notMem_root hopener root hroot)

/-- The root that an octet opens in front of a text. -/
def opened? (openers : List Char) (b : UInt8) (text : Bytes) : Option Bytes :=
  if b ∈ Utf8.encode (String.ofList openers) then rootAt? text else none

theorem opened?_eq_some_iff {text : Bytes} :
    opened? openers b text = some root ↔ b ∈ Utf8.encode (String.ofList openers) ∧
      root ∈ bundleRoots.map Utf8.encode ∧ root <+: text := by
  rw [opened?, Option.ite_none_right_eq_some, rootAt?_eq_some_iff]

theorem substitute_of_some {text : Bytes} (h : opened? openers b (root ++ text) = some root) :
    substitute openers toRoot (b :: (root ++ text)) =
      b :: (Utf8.encode toRoot ++ root.drop 1 ++ substitute openers toRoot text) := by
  rw [opened?] at h
  rw [substitute, h]
  simp

theorem substitute_of_none {text : Bytes} (h : opened? openers b text = none) :
    substitute openers toRoot (b :: text) = b :: substitute openers toRoot text := by
  rw [opened?] at h
  rw [substitute, h]

/-- **A reference is relocated wherever it stands**, and what is around it on its own. -/
theorem substitute_append (hb : b ∈ Utf8.encode (String.ofList quotesAndParenthesis))
    (hroot : root ∈ bundleRoots.map Utf8.encode) (before rest : Bytes) :
    substitute quotesAndParenthesis toRoot (before ++ b :: (root ++ rest)) =
      substitute quotesAndParenthesis toRoot before ++
        b :: (Utf8.encode toRoot ++ root.drop 1 ++
          substitute quotesAndParenthesis toRoot rest) := by
  -- induction on the length, since the scan goes on behind a root
  induction hn : before.length using Nat.strong_induction_on generalizing before with
  | _ n ih =>
    cases before with
    | nil =>
      rw [List.nil_append, substitute_of_some
        (opened?_eq_some_iff.mpr ⟨hb, hroot, List.prefix_append _ _⟩), substitute.eq_1,
        List.nil_append]
    | cons c before =>
      rw [List.length_cons] at hn
      -- what `c` opens ends in front of `b`
      have hopened : opened? quotesAndParenthesis c (before ++ b :: (root ++ rest)) =
          opened? quotesAndParenthesis c before := by
        rw [opened?, opened?, rootAt?_append_cons hb]
      cases hc : opened? quotesAndParenthesis c before with
      | none =>
        rw [List.cons_append, substitute_of_none (hopened.trans hc), substitute_of_none hc,
          ih _ (by omega) before rfl, List.cons_append]
      | some root' =>
        obtain ⟨-, -, more, rfl⟩ := opened?_eq_some_iff.mp hc
        have hlength : more.length < n := by
          rw [List.length_append] at hn
          omega
        rw [List.append_assoc] at hopened
        rw [List.cons_append, List.append_assoc, substitute_of_some (hopened.trans hc),
          substitute_of_some hc, ih _ hlength more rfl]
        simp

/-- A text without references stays as it is. -/
theorem substitute_eq_self {text : Bytes}
    (h : ∀ b ∈ Utf8.encode (String.ofList openers), ∀ root ∈ bundleRoots.map Utf8.encode,
      ¬b :: root <:+: text) : substitute openers toRoot text = text := by
  induction text with
  | nil => rw [substitute]
  | cons c rest ih =>
    have hnone : opened? openers c rest = none := by
      rw [Option.eq_none_iff_forall_ne_some]
      intro root hopened
      obtain ⟨hc, hroot, hprefix⟩ := opened?_eq_some_iff.mp hopened
      exact h c hc root hroot (List.cons_prefix_cons.mpr ⟨rfl, hprefix⟩).isInfix
    rw [substitute_of_none hnone, ih fun b hb root hroot hin =>
      h b hb root hroot (hin.trans (List.suffix_cons c rest).isInfix)]

end Substitute

end Roots

namespace Asset

/-- Relocating an asset is a substitution. -/
theorem transform_eq_substitute (octets : Bytes) (sitePath : String) :
    transform octets sitePath =
      Roots.substitute Roots.quotesAndParenthesis (UrlPath.parentHops (depth sitePath)) octets := by
  have hway : Roots.IsWay (UrlPath.parentHops (depth sitePath)) := Or.inr (Or.inr ⟨_, rfl⟩)
  rw [transform, Roots.relativize, Roots.foldl_pass_eq_scan (List.Subset.refl _) hway]
  exact Roots.scan_eq_substitute (Or.inr rfl) (fun _ => Iff.rfl) _ octets

/-! ### Depth -/

/-- A slash at the start does not count. -/
theorem depth_slash_append (path : String) : depth ("/" ++ path) = depth path := by
  simp [depth]

/-- There is a slash between two names. -/
theorem filter_slash_intercalate {names : List String} (h : ∀ s ∈ names, IsName s) :
    (("/".intercalate names).toList.filter (· == '/')).length = names.length - 1 := by
  have hname : ∀ s, IsName s → s.toList.filter (· == '/') = [] := by
    intro s hs
    rw [List.filter_eq_nil_iff]
    rintro c hc heq
    rw [beq_iff_eq] at heq
    exact hs.2 (heq ▸ hc)
  induction names with
  | nil => simp
  | cons s rest ih =>
    obtain ⟨hs, hrest⟩ := List.forall_mem_cons.mp h
    by_cases hnil : rest = []
    · rw [hnil, String.intercalate_singleton, hname s hs]
      rfl
    · have hlength : 0 < rest.length := List.length_pos_iff.mpr hnil
      rw [String.intercalate_cons_of_ne_nil hnil, String.toList_append, String.toList_append,
        List.filter_append, List.filter_append, hname s hs, List.nil_append, List.length_append,
        ih hrest, List.length_cons]
      have hslash : ("/".toList.filter (· == '/')).length = 1 := by decide
      omega

theorem depth_intercalate {names : List String} (h : ∀ s ∈ names, IsName s) :
    depth ("/".intercalate names) = names.length - 1 := by
  have hrelative := FilePath.isAbsolute_intercalate h
  rw [FilePath.isAbsolute] at hrelative
  rw [depth, ← filter_slash_intercalate h]
  cases htext : ("/".intercalate names).toList with
  | nil => rfl
  | cons c cs =>
    rw [htext] at hrelative
    rw [List.dropWhile_cons_of_neg (by simpa using hrelative)]

/-! ### Places -/

/-- The place of an asset on the site: the names of its mount, of which there may be none, and of
its path in the bundle. -/
structure Place where
  mount : List String
  item : List String
  names : ∀ s ∈ mount ++ item, IsName s ∧ IsPlain s
  item_ne_nil : item ≠ []

namespace Place

variable (p : Place)

/-- The name of the mount. -/
def mountName : String :=
  "/".intercalate p.mount

/-- The path in the bundle. -/
def path : String :=
  "/".intercalate p.item

/-- The path on the site, as copying builds it. -/
def sitePath : String :=
  p.mountName ++ "/" ++ p.path

/-- The directories between the output directory and the file. -/
def dir : List String :=
  (p.mount ++ p.item).dropLast

/-- The way that references get. -/
def toRoot : String :=
  UrlPath.parentHops (depth p.sitePath)

/-- The file of an asset below an output directory. -/
def file (out : FilePath) : FilePath :=
  FilePath.join (FilePath.join out p.mountName) p.path

theorem isName : ∀ s ∈ p.mount ++ p.item, IsName s := fun s hs => (p.names s hs).1

/-- **The depth of an asset** is the number of directories between the output directory and its
file. -/
theorem depth_sitePath : depth p.sitePath = p.dir.length := by
  rw [dir, List.length_dropLast]
  by_cases hmount : p.mount = []
  · have hsite : p.sitePath = "/" ++ "/".intercalate p.item := by
      rw [sitePath, mountName, hmount, String.intercalate_nil, String.empty_append, path]
    rw [hsite, depth_slash_append, hmount, List.nil_append,
      depth_intercalate fun s hs => p.isName s (List.mem_append_right _ hs)]
  · have hsite : p.sitePath = "/".intercalate (p.mount ++ p.item) :=
      (String.intercalate_append_of_ne_nil hmount p.item_ne_nil).symm
    rw [hsite, depth_intercalate p.isName]

/-- The file has the names of the place below the output directory. -/
theorem namesOf_file (out : FilePath) :
    namesOf (p.file out) = namesOf out ++ (p.mount ++ p.item) ∧
      FilePath.isAbsolute (p.file out) = FilePath.isAbsolute out := by
  have hmount : ∀ s ∈ p.mount, IsName s := fun s hs => p.isName s (List.mem_append_left _ hs)
  have hitem : ∀ s ∈ p.item, IsName s := fun s hs => p.isName s (List.mem_append_right _ hs)
  have hname : FilePath.isAbsolute p.mountName = false := FilePath.isAbsolute_intercalate hmount
  have hpath : FilePath.isAbsolute p.path = false := FilePath.isAbsolute_intercalate hitem
  constructor
  · rw [file, FilePath.namesOf_join_of_relative hpath, FilePath.namesOf_join_of_relative hname,
      mountName, path, namesOf_intercalate hmount, namesOf_intercalate hitem, List.append_assoc]
  · rw [file, FilePath.isAbsolute_join_of_relative hpath,
      FilePath.isAbsolute_join_of_relative hname]

/-- **The way of references** leads from the directory of the file to the output directory. -/
theorem follow_toRoot (rest : String) :
    Link.follow p.dir (UrlPath.segments (p.toRoot ++ rest)) =
      Link.follow [] (UrlPath.segments rest) := by
  rw [segments_eq_namesOf, segments_eq_namesOf, toRoot, namesOf_parentHops_append,
    depth_sitePath, Link.follow_replicate_append, if_pos le_rfl, Nat.sub_self, List.take_zero]

/-- **The file that a copy has written** is at the place of the asset, unless there is a link in the
output directory. -/
theorem exists_place_of_wrote {bundle : Bundle} {out : FilePath} {t t' s s' : FileTree}
    {octets : Bytes} (hcurrent : t.get? t.current = some .directory)
    (h : bundle.Wrote p.mountName (FilePath.join out p.mountName) p.path t t' s s' octets) :
    ∃ loc place octets', LeadsTo t' out loc ∧ FileAt t' (p.file out) place octets' ∧
      (NoLinks t loc → place = loc ++ (p.mount ++ p.item)) := by
  have hbefore := h.before.get?_current hcurrent
  have hwrite : Develops s s' := Output.develops_of_write hbefore h.write
  obtain ⟨place, hwritten⟩ := Output.exists_fileAt_of_write hbefore h.write
  obtain ⟨octets', hfile⟩ := h.after.exists_fileAt (hwrite.get?_current hbefore) hwritten
  have hdevelops : Develops t t' := (h.before.trans hwrite).trans h.after
  obtain ⟨hnames, habsolute⟩ := p.namesOf_file out
  obtain ⟨loc, hleads, hplace⟩ := hfile.exists_place (hdevelops.get?_current hcurrent) habsolute
    hnames (List.append_ne_nil_of_right_ne_nil _ p.item_ne_nil)
  refine ⟨loc, place, octets', hleads, hfile, fun hlinks =>
    hplace loc [] (List.append_nil loc).symm ?_ _ ?_⟩
  · exact fun names text hlink => hlinks names text (hdevelops.link.mp hlink)
  · rw [Link.follow_of_forall_isPlain (fun s hs => (p.names s hs).2), List.nil_append]

end Place

/-! ### Contents -/

/-- **A reference of an asset is relocated wherever it stands.** -/
theorem transform_append {opener : Char} (hopener : opener ∈ Roots.quotesAndParenthesis)
    {root : String} (hroot : root ∈ Roots.bundleRoots) (before rest : Bytes) (sitePath : String) :
    transform (before ++ Utf8.encode (String.singleton opener ++ root) ++ rest) sitePath =
      transform before sitePath ++
        Utf8.encode (String.singleton opener ++ UrlPath.parentHops (depth sitePath) ++
          Roots.bare root) ++
        transform rest sitePath := by
  have hencode := Roots.encode_opener hopener
  have hb := Roots.mem_encode_openers_iff.mpr ⟨opener, hopener, rfl⟩
  have hreference : before ++ Utf8.encode (String.singleton opener ++ root) ++ rest =
      before ++ opener.toNat.toUInt8 :: (Utf8.encode root ++ rest) := by
    rw [Utf8.encode_append, hencode]
    simp
  rw [transform_eq_substitute, transform_eq_substitute, transform_eq_substitute, hreference,
    Roots.substitute_append hb (List.mem_map_of_mem hroot), Utf8.encode_append, Utf8.encode_append,
    hencode, Roots.encode_bare root hroot]
  simp

/-- An asset without references stays as it is. -/
theorem transform_eq_self {octets : Bytes} (h : ∀ opener ∈ Roots.quotesAndParenthesis,
    ∀ root ∈ Roots.bundleRoots, ¬Utf8.encode (String.singleton opener ++ root) <:+: octets)
    (sitePath : String) : transform octets sitePath = octets := by
  rw [transform_eq_substitute]
  refine Roots.substitute_eq_self fun b hb root hroot hin => ?_
  obtain ⟨opener, hopener, rfl⟩ := Roots.mem_encode_openers_iff.mp hb
  obtain ⟨text, htext, rfl⟩ := List.mem_map.mp hroot
  refine h opener hopener text htext ?_
  rwa [Utf8.encode_append, Roots.encode_opener hopener]

end Asset

/-- **References of an asset lead to the bundles of the site.** The depth of an asset is the number
of directories between the output directory and the file that copying its bundle writes. In any
content every opener directly before the root of a bundle gets the way to the root of the site, and
nothing else changes. Read from the directory of the file, this way leads to the output directory
and at no time above it, so that what follows it is read from there. -/
theorem asset_relocates (p : Asset.Place) :
    Asset.depth p.sitePath = p.dir.length ∧
      (∀ (t t' : FileTree) (bundle : Bundle) (out : FilePath) (n : ℕ),
        t.get? t.current = some .directory → bundle.copy t p.mountName out = (t', .ok n) →
        ∃ items, bundle.walk (Output.ensureDir t (FilePath.join out p.mountName)).1 = .ok items ∧
          (⟨p.path, false⟩ ∈ items →
            ∃ s s' octets,
              bundle.Wrote p.mountName (FilePath.join out p.mountName) p.path t t' s s' octets ∧
                ∃ loc place octets', LeadsTo t' out loc ∧ FileAt t' (p.file out) place octets' ∧
                  (NoLinks t loc → place = loc ++ (p.mount ++ p.item)))) ∧
      (∀ opener ∈ Roots.quotesAndParenthesis, ∀ root ∈ Roots.bundleRoots, ∀ before rest : Bytes,
        Asset.transform (before ++ Utf8.encode (String.singleton opener ++ root) ++ rest)
            p.sitePath =
          Asset.transform before p.sitePath ++
            Utf8.encode (String.singleton opener ++ p.toRoot ++ Roots.bare root) ++
            Asset.transform rest p.sitePath) ∧
      (∀ octets : Bytes,
        (∀ opener ∈ Roots.quotesAndParenthesis, ∀ root ∈ Roots.bundleRoots,
          ¬Utf8.encode (String.singleton opener ++ root) <:+: octets) →
        Asset.transform octets p.sitePath = octets) ∧
      Link.follow p.dir (UrlPath.segments p.toRoot) = some [] ∧
      ∀ root ∈ Roots.bundleRoots, ∀ rest : String,
        Link.follow p.dir (UrlPath.segments (p.toRoot ++ Roots.bare root ++ rest)) =
          Link.follow [] (UrlPath.segments (root ++ rest)) := by
  refine ⟨p.depth_sitePath, fun t t' bundle out n hcurrent hcopy => ?_,
    fun opener hopener root hroot before rest =>
      Asset.transform_append hopener hroot before rest p.sitePath,
    fun octets h => Asset.transform_eq_self h p.sitePath, ?_, fun root hroot rest => ?_⟩
  · obtain ⟨items, hwalk, hwrote⟩ := Bundle.exists_of_copy hcurrent hcopy
    refine ⟨items, hwalk, fun hmem => ?_⟩
    obtain ⟨s, s', octets, hs⟩ := hwrote p.path hmem
    exact ⟨s, s', octets, hs, p.exists_place_of_wrote hcurrent hs⟩
  · have hway := p.follow_toRoot ""
    rw [String.append_empty] at hway
    exact hway
  · have hbare : ∀ root ∈ Roots.bundleRoots, root = "/" ++ Roots.bare root := by decide
    rw [String.append_assoc, p.follow_toRoot, segments_eq_namesOf, segments_eq_namesOf]
    conv_rhs => rw [hbare root hroot, String.append_assoc, namesOf_slash_append]

/-- A style sheet two directories below the output directory. -/
def nestedSheet : Asset.Place where
  mount := ["static"]
  item := ["frontend", "site.css"]
  names := by decide
  item_ne_nil := by decide

/-- A style sheet in the output directory itself. -/
def rootSheet : Asset.Place where
  mount := []
  item := ["site.css"]
  names := by decide
  item_ne_nil := by decide

/-- A bundle of one empty style sheet. -/
def oneSheet : Bundle :=
  .memory { files := [("site.css", [])] }

theorem walk_oneSheet (t : FileTree) : oneSheet.walk t = .ok [⟨"site.css", false⟩] := by
  simp [oneSheet, Bundle.walk, MemoryBundle.walk]

/-- One file is copied to an empty tree. -/
theorem copy_oneSheet :
    oneSheet.copy .empty "" "" = (FileTree.empty.put [] "site.css" (.file []), .ok 1) := by
  have hroot : FilePath.join "" "" = "" := by decide
  have hjoin : FilePath.join "" "site.css" = "site.css" := by decide
  have hmade : Output.ensureDir .empty "" = (.empty, .ok ()) := rfl
  have hread : oneSheet.read .empty "site.css" = .ok [] := by decide
  have hcontent : Bundle.written "" "site.css" [] = [] := by
    rw [Bundle.written]
    split_ifs
    · rw [Asset.transform_eq_substitute, Roots.substitute]
    · rfl
  have hresolve : FileTree.empty.resolve .written "site.css" = .ok (.free [] "site.css") := by
    rw [resolve_eq _ _ (by decide)]
    have hfault : pathFault? "site.css" = none := by decide
    have hsteps : stepsOf "site.css" = ["site.css"] := by decide
    rw [hfault, hsteps, Option.elim_none]
    exact (follow_free (.of_isPlain (by decide) (by decide) (by decide)) (by decide) rfl).trans
      (if_pos rfl)
  have hput : FileTree.empty.write "site.css" [] =
      .ok (FileTree.empty.put [] "site.css" (.file [])) := by
    rw [FileTree.write, hresolve]
  have hparent : FilePath.parent? "site.css" = some "" := by decide
  have hwrite : Output.write .empty "site.css" [] =
      (FileTree.empty.put [] "site.css" (.file []), .ok ()) := by
    rw [Output.write_of_ok hparent hmade, Output.writeFile_of_ok hput]
  simp only [Bundle.copy, hroot, hmade, walk_oneSheet, Bundle.copyItems_cons, hjoin, hread,
    hcontent, hwrite]
  rfl

/-- A style sheet two directories down reaches an image of the site, and one in the output directory
itself is written there. -/
theorem asset_relocates_style_sheets :
    Asset.depth "static/frontend/site.css" = 2 ∧
      Asset.transform (Utf8.encode "src: url(/static/c.svg)") "static/frontend/site.css" =
        Utf8.encode "src: url(../../static/c.svg)" ∧
      Link.follow ["static", "frontend"] (UrlPath.segments "../../static/c.svg") =
        some ["static", "c.svg"] ∧
      ∃ place octets, FileAt (oneSheet.copy .empty "" "").1 "site.css" place octets ∧
        place = ["site.css"] := by
  obtain ⟨hdepth, -, hreference, hrest, -, hleads⟩ := asset_relocates nestedSheet
  obtain ⟨-, hfile, -⟩ := asset_relocates rootSheet
  have hsite : nestedSheet.sitePath = "static/frontend/site.css" := by decide
  rw [hsite] at hdepth hreference hrest
  -- there is no reference without a slash
  have hfree : ∀ text : Bytes, Roots.slash ∉ text → Asset.transform text
      "static/frontend/site.css" = text := by
    intro text htext
    refine hrest text fun opener _ root hroot hin => htext (hin.subset ?_)
    have hslash : ∀ root ∈ Roots.bundleRoots, Roots.slash ∈ Utf8.encode root := by decide
    rw [Utf8.encode_append]
    exact List.mem_append_right _ (hslash root hroot)
  refine ⟨hdepth, ?_, ?_, ?_⟩
  · have hbefore := hfree (Utf8.encode "src: url") (by decide)
    have hafter := hfree (Utf8.encode "c.svg)") (by decide)
    have h := hreference '(' (by decide) "/static/" (by decide) (Utf8.encode "src: url")
      (Utf8.encode "c.svg)")
    rw [hbefore, hafter] at h
    exact h
  · exact (hleads "/static/" (by decide) "c.svg").trans (by decide)
  · rw [copy_oneSheet]
    obtain ⟨items, hwalk, hwritten⟩ := hfile .empty _ oneSheet "" 1 rfl copy_oneSheet
    rw [walk_oneSheet] at hwalk
    obtain rfl := Except.ok.inj hwalk
    obtain ⟨-, -, -, -, loc, place, octets, hleads, hat, hplace⟩ := hwritten (by decide)
    have hcurrent : (FileTree.empty.put [] "site.css" (.file [])).get?
        (FileTree.empty.put [] "site.css" (.file [])).current = some .directory := rfl
    obtain ⟨rfl, -⟩ := Target.present.inj
      (Except.ok.inj (hleads.reached.symm.trans (leadsTo_empty hcurrent).reached))
    exact ⟨place, octets, hat, hplace (noLinks_empty _)⟩

end SiteSnapshot
