import Mathlib.Data.List.Pairwise
import SiteSnapshot.Proofs.Bundle.Interchange

/-!
# The order of a walk

A directory is walked by the names of its entries, level by level, and a bundle in memory by whole
paths. Names in order have their paths in order, except at a sibling of a directory whose name goes
on from the directory's with a character before the slash, such as `fonts.css` beside `fonts`
(`intercalate_lt_iff`): by its path it comes after the directory and before what is in it
(`Intrudes`).

The order by names is depth-first (`depthFirst_of_pairwise`). So a directory is walked depth first,
and a bundle in memory of the same entries is if no entry intrudes, and only then
(`walks_agree_iff_not_intrudes`).
-/

namespace SiteSnapshot

open FileTree

/-! ### Names and their paths in order -/

section Lex

variable {α : Type} [LT α] {l m : List α}

/-- A list comes before another one that continues it, or by the first elements that differ. -/
theorem exists_of_lt (h : l < m) : (∃ a rest, m = l ++ a :: rest) ∨
    ∃ init a b rest rest', l = init ++ a :: rest ∧ m = init ++ b :: rest' ∧ a < b := by
  induction l generalizing m with
  | nil =>
    cases m with
    | nil => exact absurd h (List.not_lt_nil _)
    | cons b m => exact Or.inl ⟨b, m, rfl⟩
  | cons a l ih =>
    cases m with
    | nil => exact absurd h (List.not_lt_nil _)
    | cons b m =>
      rcases List.cons_lt_cons_iff.mp h with hlt | ⟨rfl, hlt⟩
      · exact Or.inr ⟨[], a, b, l, m, rfl, rfl, hlt⟩
      · rcases ih hlt with ⟨c, rest, rfl⟩ | ⟨init, c, d, rest, rest', rfl, rfl, hcd⟩
        · exact Or.inl ⟨c, rest, rfl⟩
        · exact Or.inr ⟨a :: init, c, d, rest, rest', rfl, rfl, hcd⟩

theorem append_cons_lt {a b : α} (h : a < b) (init rest rest' : List α) :
    init ++ a :: rest < init ++ b :: rest' :=
  List.append_left_lt (List.cons_lt_cons_iff.mpr (Or.inl h))

end Lex

/-- Names that **intrude** between a directory and the names below it: they are at or below a
sibling of the directory whose name goes on with a character before the slash. -/
def Intrudes (others names : List String) : Prop :=
  ∃ init dir below c more behind, below ≠ [] ∧ c < '/' ∧ names = init ++ dir :: below ∧
    others = init ++ (dir ++ String.ofList (c :: more)) :: behind

variable {names others : List String}

/-- Names in the same directory are compared there. -/
theorem intercalate_append_lt (init : List String) (hnames : names ≠ []) (hothers : others ≠ [])
    (h : "/".intercalate names < "/".intercalate others) :
    "/".intercalate (init ++ names) < "/".intercalate (init ++ others) := by
  by_cases hinit : init = []
  · rwa [hinit]
  · have hsplit : ∀ {more}, more ≠ [] → ("/".intercalate (init ++ more)).toList =
        ("/".intercalate init ++ "/").toList ++ ("/".intercalate more).toList := fun hmore => by
      rw [String.intercalate_append_of_ne_nil hinit hmore, String.toList_append]
    rw [String.lt_iff_toList_lt, hsplit hnames, hsplit hothers]
    exact List.append_left_lt (String.lt_iff_toList_lt.mp h)

/-- A name, and what stands behind it in a path. -/
theorem toList_intercalate_cons (name : String) (rest : List String) :
    ("/".intercalate (name :: rest)).toList =
      name.toList ++ if rest = [] then [] else '/' :: ("/".intercalate rest).toList := by
  split_ifs with hrest
  · rw [hrest, String.intercalate_singleton, List.append_nil]
  · rw [String.intercalate_cons_of_ne_nil hrest, String.toList_append, String.toList_append,
      List.append_assoc]
    rfl

/-- What intrudes comes first by its path. -/
theorem Intrudes.intercalate_lt (h : Intrudes others names) :
    "/".intercalate others < "/".intercalate names := by
  obtain ⟨init, dir, below, c, more, behind, hbelow, hc, rfl, rfl⟩ := h
  refine intercalate_append_lt init (List.cons_ne_nil _ _) (List.cons_ne_nil _ _) ?_
  rw [String.lt_iff_toList_lt, toList_intercalate_cons, toList_intercalate_cons, if_neg hbelow,
    String.toList_append, String.toList_ofList, List.append_assoc, List.cons_append]
  exact append_cons_lt hc _ _ _

/-- What intrudes comes last by the names. -/
theorem Intrudes.lt (h : Intrudes others names) : names < others := by
  obtain ⟨init, dir, below, c, more, behind, -, -, rfl, rfl⟩ := h
  refine append_cons_lt ?_ _ _ _
  rw [String.lt_iff_toList_lt, String.toList_append]
  have hlt : dir.toList ++ [] < dir.toList ++ (String.ofList (c :: more)).toList := by
    rw [String.toList_ofList]
    exact List.append_left_lt (List.nil_lt_cons c more)
  rwa [List.append_nil] at hlt

/-- What intrudes comes by its path between a directory and what is in it. -/
theorem Intrudes.exists_dir (h : Intrudes others names) : ∃ dir, dir ≠ [] ∧ dir <+: names ∧
    dir ≠ names ∧ ¬dir <+: others ∧ "/".intercalate dir < "/".intercalate others := by
  obtain ⟨init, dir, below, c, more, behind, hbelow, -, rfl, rfl⟩ := h
  refine ⟨init ++ [dir], by simp, ⟨below, by simp⟩, by simpa using Ne.symm hbelow, fun hpre => ?_,
    intercalate_append_lt init (List.cons_ne_nil _ _) (List.cons_ne_nil _ _) ?_⟩
  · have heq := (List.cons_prefix_cons.mp ((List.prefix_append_right_inj init).mp hpre)).1
    simp [← String.toList_inj] at heq
  · rw [String.lt_iff_toList_lt, toList_intercalate_cons, toList_intercalate_cons, if_pos rfl,
      String.toList_append, String.toList_ofList, List.append_assoc, List.cons_append]
    exact List.append_left_lt (List.nil_lt_cons _ _)

/-- **Names in order have paths in order**, unless the others intrude. -/
theorem intercalate_lt_iff (hne : names ≠ []) (hothers : ∀ s ∈ others, IsName s)
    (h : names < others) :
    "/".intercalate names < "/".intercalate others ↔ ¬Intrudes others names := by
  refine ⟨fun hlt hintrudes => lt_asymm hlt hintrudes.intercalate_lt, fun hnot => ?_⟩
  rcases exists_of_lt h with ⟨s, rest, rfl⟩ | ⟨init, s, other, rest, rest', rfl, rfl, hlt⟩
  · -- the others continue the names
    rw [String.intercalate_append_of_ne_nil hne (List.cons_ne_nil s rest),
      String.lt_iff_toList_lt, String.append_assoc, String.toList_append, String.toList_append]
    have hslash : ("/".intercalate names).toList ++ [] <
        ("/".intercalate names).toList ++ '/' :: ("/".intercalate (s :: rest)).toList :=
      List.append_left_lt (List.nil_lt_cons _ _)
    rwa [List.append_nil] at hslash
  · refine intercalate_append_lt init (List.cons_ne_nil _ _) (List.cons_ne_nil _ _) ?_
    rw [String.lt_iff_toList_lt, toList_intercalate_cons, toList_intercalate_cons]
    rcases exists_of_lt (String.lt_iff_toList_lt.mp hlt) with
      ⟨c, more, hother⟩ | ⟨l, c, d, m, m', hs, hother, hcd⟩
    · rw [hother, List.append_assoc, List.cons_append]
      refine List.append_left_lt ?_
      by_cases hrest : rest = []
      · rw [if_pos hrest]
        exact List.nil_lt_cons _ _
      · rw [if_neg hrest]
        -- the name of a directory goes on, and it does so behind the slash
        have hslash : c ≠ '/' := by
          rintro rfl
          exact (hothers other (by simp)).2 (by simp [hother])
        have hc : ¬c < '/' := fun hc => hnot ⟨init, s, rest, c, more, rest', hrest, hc, rfl, by
          rw [← String.toList_inj.mp (show other.toList = (s ++ String.ofList (c :: more)).toList by
            rw [hother, String.toList_append, String.toList_ofList])]⟩
        exact List.cons_lt_cons_iff.mpr (Or.inl (lt_of_le_of_ne (not_lt.mp hc) hslash.symm))
    · rw [hs, hother, List.append_assoc, List.append_assoc]
      exact append_cons_lt hcd l _ _

/-! ### Depth-first order -/

/-- What is in a directory, at any depth. -/
def BundleItem.IsIn (item : BundleItem) (dir : String) : Prop :=
  namesOf dir <+: namesOf item.path ∧ namesOf dir ≠ namesOf item.path

instance (item : BundleItem) (dir : String) : Decidable (item.IsIn dir) :=
  inferInstanceAs (Decidable (_ ∧ _))

theorem BundleItem.IsIn.lt {item : BundleItem} {dir : String} (h : item.IsIn dir) :
    namesOf dir < namesOf item.path := by
  obtain ⟨⟨more, hmore⟩, hne⟩ := h
  cases more with
  | nil => exact absurd (by rw [← hmore, List.append_nil]) hne
  | cons s more =>
    have hlt : namesOf dir ++ [] < namesOf dir ++ s :: more :=
      List.append_left_lt (List.nil_lt_cons s more)
    rwa [List.append_nil, hmore] at hlt

/-- Items **in depth-first order**: directly behind a directory stands all that is in it, and what
is directly in one directory is in the order of the octets of the names. -/
structure DepthFirst (items : List BundleItem) : Prop where
  contents : ∀ before dir after, items = before ++ ⟨dir, true⟩ :: after →
    ∃ inside outside, after = inside ++ outside ∧ (∀ i ∈ inside, i.IsIn dir) ∧
      ∀ i ∈ before ++ outside, ¬i.IsIn dir
  siblings : items.Pairwise fun i j => ∀ init a b, namesOf i.path = init ++ [a] →
    namesOf j.path = init ++ [b] → Utf8.encode a < Utf8.encode b

/-- What comes between a directory and something in it is in it as well. -/
theorem prefix_of_lt_of_lt {dir more : List String} (h : dir < names)
    (h' : names < dir ++ more) : dir <+: names := by
  rcases exists_of_lt h with ⟨s, rest, rfl⟩ | ⟨init, a, b, rest, rest', rfl, rfl, hlt⟩
  · exact List.prefix_append dir (s :: rest)
  · rw [List.append_assoc, List.cons_append] at h'
    exact absurd h' (List.lt_asymm (append_cons_lt hlt init _ _))

/-- Behind the contents of a directory nothing is in it. -/
theorem not_isIn_of_mem_dropWhile {dir : String} {items : List BundleItem} {item : BundleItem}
    (hsorted : items.Pairwise fun i j => namesOf i.path < namesOf j.path)
    (hdir : ∀ i ∈ items, namesOf dir < namesOf i.path)
    (hitem : item ∈ items.dropWhile (·.IsIn dir)) : ¬item.IsIn dir := by
  induction items with
  | nil => cases hitem
  | cons first rest ih =>
    obtain ⟨hfirst, hsorted⟩ := List.pairwise_cons.mp hsorted
    obtain ⟨hlt, hdir⟩ := List.forall_mem_cons.mp hdir
    by_cases hin : first.IsIn dir
    · rw [List.dropWhile_cons_of_pos (by simpa using hin)] at hitem
      exact ih hsorted hdir hitem
    · rw [List.dropWhile_cons_of_neg (by simpa using hin)] at hitem
      rcases List.mem_cons.mp hitem with rfl | hitem
      · exact hin
      -- between the directory and something in it, the first would be in it
      · rintro ⟨⟨more, hmore⟩, -⟩
        have hlt' := hfirst item hitem
        rw [← hmore] at hlt'
        exact hin ⟨prefix_of_lt_of_lt hlt hlt', fun heq => List.lt_irrefl _ (heq ▸ hlt)⟩

/-- **The order by names is depth-first.** -/
theorem depthFirst_of_pairwise {items : List BundleItem}
    (h : items.Pairwise fun i j => namesOf i.path < namesOf j.path) : DepthFirst items := by
  refine ⟨?_, h.imp fun {i j} hlt init a b hi hj => ?_⟩
  · rintro before dir after rfl
    obtain ⟨-, hafter, hbefore⟩ := List.pairwise_append.mp h
    obtain ⟨hdir, hafter⟩ := List.pairwise_cons.mp hafter
    refine ⟨after.takeWhile (·.IsIn dir), after.dropWhile (·.IsIn dir),
      (List.takeWhile_append_dropWhile ..).symm,
      fun i hi => by simpa using List.mem_takeWhile_imp hi, fun i hi => ?_⟩
    rcases List.mem_append.mp hi with hi | hi
    · have hlt := hbefore i hi ⟨dir, true⟩ List.mem_cons_self
      exact fun hin => List.lt_asymm hin.lt hlt
    · exact not_isIn_of_mem_dropWhile hafter hdir hi
  · rw [hi, hj] at hlt
    rcases List.cons_lt_cons_iff.mp (lt_of_append_lt_append init hlt) with hlt | ⟨-, hnil⟩
    · exact Utf8.encode_lt_encode_iff.mpr hlt
    · exact absurd hnil (List.lt_irrefl _)

/-! ### The two walks -/

namespace NamedEntry

variable {entries : List NamedEntry} {e f : NamedEntry} {items : List BundleItem}

/-- The item that an entry is. -/
def item (e : NamedEntry) : BundleItem :=
  ⟨e.path, e.octets?.isNone⟩

/-- Entries with all directories above them. -/
def Complete (entries : List NamedEntry) : Prop :=
  ∀ e ∈ entries, ∀ names, names ≠ [] → names <+: e.names → names ≠ e.names →
    ⟨names, none⟩ ∈ entries

/-- **A listing of complete entries** has their items and no others. -/
theorem Lists.mem_iff (h : Lists entries items) (hcomplete : Complete entries) {i : BundleItem} :
    i ∈ items ↔ ∃ e ∈ entries, i = e.item := by
  refine ⟨fun hi => ?_, fun ⟨e, he, hi⟩ => hi ▸ h.mem he⟩
  obtain ⟨path, isDir⟩ := i
  cases isDir with
  | false =>
    obtain ⟨e, he, hfile, rfl⟩ := (h.file path).mp hi
    exact ⟨e, he, by rw [item, Option.isNone_eq_false_iff.mpr hfile]⟩
  | true =>
    obtain ⟨names, hne, rfl, hmem | ⟨e, he, hpre, hne'⟩⟩ := h.only path hi
    · exact ⟨_, hmem, rfl⟩
    · exact ⟨_, hcomplete e he names hne hpre hne', rfl⟩

/-- **Items in the order of their names are in that of their paths** if no entry intrudes, and only
then. -/
theorem pairwise_before_iff (hentries : Consistent entries)
    (hmem : ∀ i, i ∈ items ↔ ∃ e ∈ entries, i = e.item)
    (hsorted : items.Pairwise fun i j => namesOf i.path < namesOf j.path) :
    items.Pairwise BundleItem.Before ↔
      ∀ e ∈ entries, ∀ f ∈ entries, ¬Intrudes f.names e.names := by
  constructor
  · intro h e he f hf hintrudes
    have hlt : namesOf e.item.path < namesOf f.item.path := by
      rw [item, item, hentries.namesOf_path he, hentries.namesOf_path hf]
      exact hintrudes.lt
    have hlisted := BundleItem.sublist_of_pairwise (fun _ => List.lt_irrefl _) List.lt_asymm hsorted
      ((hmem _).mpr ⟨e, he, rfl⟩) ((hmem _).mpr ⟨f, hf, rfl⟩) hlt
    exact (List.pairwise_pair.mp (h.sublist hlisted)).not_lt hintrudes.intercalate_lt
  · intro hnot
    refine hsorted.imp_of_mem fun {i j} hi hj hlt => Or.inl ?_
    obtain ⟨e, he, rfl⟩ := (hmem i).mp hi
    obtain ⟨f, hf, rfl⟩ := (hmem j).mp hj
    rw [item, item, hentries.namesOf_path he, hentries.namesOf_path hf] at hlt
    obtain ⟨hne, -⟩ := hentries.plain e he
    rw [Utf8.encode_lt_encode_iff]
    exact (intercalate_lt_iff hne (fun s hs => ((hentries.plain f hf).2 s hs).1) hlt).mpr
      (hnot e he f hf)

/-- Where an entry intrudes, a listing by paths is not in depth-first order. -/
theorem not_intrudes_of_depthFirst (hentries : Consistent entries) (hcomplete : Complete entries)
    (hmem : ∀ i, i ∈ items ↔ ∃ e ∈ entries, i = e.item)
    (hbefore : items.Pairwise BundleItem.Before) (h : DepthFirst items) (he : e ∈ entries)
    (hf : f ∈ entries) : ¬Intrudes f.names e.names := by
  intro hintrudes
  obtain ⟨names, hne, hpre, hne', hnot, hlt⟩ := hintrudes.exists_dir
  have hdir : (⟨names, none⟩ : NamedEntry) ∈ entries := hcomplete e he names hne hpre hne'
  obtain ⟨before, after, rfl⟩ := List.append_of_mem ((hmem _).mpr ⟨_, hdir, rfl⟩)
  obtain ⟨inside, outside, rfl, hinside, houtside⟩ := h.contents before _ after rfl
  have hisIn : ∀ g ∈ entries, g.item.IsIn (path ⟨names, none⟩) ↔
      names <+: g.names ∧ names ≠ g.names := by
    intro g hg
    rw [BundleItem.IsIn, item, hentries.namesOf_path hdir, hentries.namesOf_path hg]
  have hplace : ∀ g ∈ entries, g.item ∈ before ∨ g.item = item ⟨names, none⟩ ∨
      g.item ∈ inside ∨ g.item ∈ outside := by
    intro g hg
    simpa using (hmem _).mpr ⟨g, hg, rfl⟩
  -- the entry in the directory stands directly behind it
  have he' : e.item ∈ inside := by
    have hin := (hisIn e he).mpr ⟨hpre, hne'⟩
    rcases hplace e he with hbefore | heq | hinside | hafter
    · exact absurd hin (houtside _ (List.mem_append_left _ hbefore))
    · have hpath : e.item.path = path ⟨names, none⟩ := congrArg BundleItem.path heq
      exact absurd (by rw [hpath]) hin.2
    · exact hinside
    · exact absurd hin (houtside _ (List.mem_append_right _ hafter))
  obtain ⟨-, hafter, hbefore'⟩ := List.pairwise_append.mp hbefore
  obtain ⟨-, hapart⟩ := List.pairwise_cons.mp hafter
  rcases hplace f hf with hfirst | heq | hin | hlast
  · exact (hbefore' _ hfirst _ List.mem_cons_self).not_lt hlt
  · exact hlt.ne' (congrArg BundleItem.path heq)
  · exact hnot ((hisIn f hf).mp (hinside _ hin)).1
  · exact ((List.pairwise_append.mp hapart).2.2 _ he' _ hlast).not_lt hintrudes.intercalate_lt

end NamedEntry

namespace Bundle

open NamedEntry

variable {t : FileTree} {place : Location} {root : FilePath} {entries : List NamedEntry}

/-- **Walks are in depth-first order**, that of a directory always, and that of a bundle in memory
where no entry intrudes. Let entries be complete, and let a directory hold them. Then the walk of
the directory has the item of each entry, and directly behind each directory all that is in it,
where what is in the same directory is in the order of the octets of the names. A bundle in memory
to which the entries were added, in any order, has the same items. It lists them in the same order
if no sibling of a directory that is not empty goes on from its name with a character before the
slash, and only then; and only then is its walk in depth-first order. -/
theorem walks_agree_iff_not_intrudes (hentries : Consistent entries)
    (hcomplete : Complete entries) (hroot : LeadsTo t root place) (hdir : t.isDir root = true)
    (hholds : HoldsBelow t place entries) :
    ∃ items, (Bundle.directory root).walk t = .ok items ∧
      (∀ i, i ∈ items ↔ ∃ e ∈ entries, i = ⟨e.path, e.octets?.isNone⟩) ∧ DepthFirst items ∧
      (∀ i, i ∈ (MemoryBundle.ofEntries entries).walk ↔ i ∈ items) ∧
      ((MemoryBundle.ofEntries entries).walk = items ↔
        ∀ e ∈ entries, ∀ f ∈ entries, ¬Intrudes f.names e.names) ∧
      (DepthFirst (MemoryBundle.ofEntries entries).walk ↔
        ∀ e ∈ entries, ∀ f ∈ entries, ¬Intrudes f.names e.names) := by
  have hlists : Lists entries (listing t place) := hholds.lists hentries
  have hmem := fun i => hlists.mem_iff hcomplete (i := i)
  have hmem' := fun i => (MemoryBundle.lists_ofEntries hentries).mem_iff hcomplete (i := i)
  -- the walk of the directory goes by the names
  have hsorted : (listing t place).Pairwise fun i j => namesOf i.path < namesOf j.path := by
    refine List.pairwise_map.mpr ((sorted_below t place).imp_of_mem fun {p q} hp hq hlt => ?_)
    dsimp only
    rwa [namesOf_intercalate (hholds.isName hentries hp),
      namesOf_intercalate (hholds.isName hentries hq)]
  -- and that of the bundle in memory by the paths
  have hbefore : (MemoryBundle.ofEntries entries).walk.Pairwise BundleItem.Before :=
    MemoryBundle.pairwise_walk (MemoryBundle.registers_ofEntries hentries).nodup
  have hiff := pairwise_before_iff hentries hmem hsorted
  have hequal : (∀ e ∈ entries, ∀ f ∈ entries, ¬Intrudes f.names e.names) →
      (MemoryBundle.ofEntries entries).walk = listing t place := fun hnot =>
    BundleItem.eq_of_pairwise_before hbefore (hiff.mpr hnot) fun i => (hmem' i).trans (hmem i).symm
  refine ⟨listing t place, walk_eq_listing hroot hdir, hmem, depthFirst_of_pairwise hsorted,
    fun i => (hmem' i).trans (hmem i).symm, ⟨fun heq => hiff.mp (heq ▸ hbefore), hequal⟩,
    fun h e he f hf => not_intrudes_of_depthFirst hentries hcomplete hmem' hbefore h he hf,
    fun hnot => ?_⟩
  rw [hequal hnot]
  exact depthFirst_of_pairwise hsorted

/-! ### Two examples -/

/-- A site with fonts in a directory and a style sheet named after it. -/
def fontSite : FileTree :=
  (((FileTree.empty.put [] "site" .directory).put ["site"] "fonts" .directory).put
    ["site", "fonts"] "a.woff" (.file (Utf8.encode "w"))).put ["site"] "fonts.css"
      (.file (Utf8.encode "c"))

/-- What the site holds. -/
def fontEntries : List NamedEntry :=
  [⟨["fonts"], none⟩, ⟨["fonts", "a.woff"], some (Utf8.encode "w")⟩,
    ⟨["fonts.css"], some (Utf8.encode "c")⟩]

theorem noLinks_fontSite : NoLinks fontSite [] :=
  ((((noLinks_empty []).put (by simp) _ _).put (by simp) _ _).put (by simp) _ _).put (by simp) _ _

theorem leadsTo_fontSite : LeadsTo fontSite "site" ["site"] :=
  leadsTo_of_name (by decide) (by decide) (by decide) rfl rfl

theorem consistent_fontEntries : Consistent fontEntries :=
  ⟨by decide, by decide⟩

theorem complete_of_inits {entries : List NamedEntry}
    (h : ∀ e ∈ entries, ∀ names ∈ e.names.inits, names ≠ [] → names ≠ e.names →
      ⟨names, none⟩ ∈ entries) : Complete entries :=
  fun e he names hne hpre hne' => h e he names ((List.mem_inits names e.names).mpr hpre) hne hne'

theorem holdsBelow_fontSite : HoldsBelow fontSite ["site"] fontEntries :=
  .of_below rfl (by decide) (by decide)

/-- **Walks that differ**: the style sheet stands between the directory and the font in it. -/
theorem fontSite_walks_differ :
    NoLinks fontSite [] ∧ LeadsTo fontSite "site" ["site"] ∧ Consistent fontEntries ∧
      Complete fontEntries ∧ HoldsBelow fontSite ["site"] fontEntries ∧
      (Bundle.directory "site").walk fontSite =
        .ok [⟨"fonts", true⟩, ⟨"fonts/a.woff", false⟩, ⟨"fonts.css", false⟩] ∧
      (MemoryBundle.ofEntries fontEntries).walk =
        [⟨"fonts", true⟩, ⟨"fonts.css", false⟩, ⟨"fonts/a.woff", false⟩] := by
  refine ⟨noLinks_fontSite, leadsTo_fontSite, consistent_fontEntries,
    complete_of_inits (by decide), holdsBelow_fontSite, ?_, by cbv⟩
  rw [walk_eq_listing leadsTo_fontSite (leadsTo_fontSite.isDir (by decide) (by decide))]
  rfl

/-- The walks of the small site agree, those of the site with fonts do not. -/
theorem walks_agree_smallSite :
    (∃ items, (Bundle.directory "site").walk smallSite = .ok items ∧
      (MemoryBundle.ofEntries smallEntries).walk = items) ∧
    ∃ items, (Bundle.directory "site").walk fontSite = .ok items ∧ DepthFirst items ∧
      ¬DepthFirst (MemoryBundle.ofEntries fontEntries).walk := by
  constructor
  · obtain ⟨items, hwalk, -, -, -, hagree, -⟩ := walks_agree_iff_not_intrudes
      consistent_smallEntries (complete_of_inits (by decide)) leadsTo_smallSite
      (leadsTo_smallSite.isDir (by decide) (by decide)) holdsBelow_smallSite
    refine ⟨items, hwalk, hagree.mpr fun e he f _ => ?_⟩
    rintro ⟨init, dir, below, -, -, -, hbelow, -, hnames, -⟩
    -- no directory has anything in it
    have hlength := (show ∀ e ∈ smallEntries, e.names.length = 1 by decide) e he
    rw [hnames, List.length_append, List.length_cons] at hlength
    exact hbelow (List.length_eq_zero_iff.mp (by omega))
  · obtain ⟨items, hwalk, -, hfirst, -, -, hagree⟩ := walks_agree_iff_not_intrudes
      consistent_fontEntries (complete_of_inits (by decide)) leadsTo_fontSite
      (leadsTo_fontSite.isDir (by decide) (by decide)) holdsBelow_fontSite
    have hintrudes : Intrudes ["fonts.css"] ["fonts", "a.woff"] :=
      ⟨[], "fonts", ["a.woff"], '.', "css".toList, [], by simp, by decide, rfl, by decide⟩
    exact ⟨items, hwalk, hfirst, fun h =>
      hagree.mp h _ (.tail _ (.head _)) _ (.tail _ (.tail _ (.head _))) hintrudes⟩

end Bundle

end SiteSnapshot
