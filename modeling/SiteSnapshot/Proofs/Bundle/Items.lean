import SiteSnapshot.Proofs.Bundle.Copying
import SiteSnapshot.Proofs.Layout.Additions

/-!
# What the items of a bundle add

The items of a bundle are copied one by one, and each adds its entry below the directory of the
mount. Together they add all of them and change nothing else (`AddsAll`), as long as reading the
bundle does not depend on what is written there (`GivesOnly`): no item is in the way of another,
since the copy would fail (`copiedItems_of_copyItems`).

In turn items are copied, unless a path has a fault, if there is space for each of them and no file
is in the way of another item (`exists_copyItems_eq`). So the order of the items does not matter,
and neither do directories above other items: what is added is the same if the items cover each
other (`AddsAll.eq`).
-/

namespace SiteSnapshot

open FileTree

namespace Bundle

/-! ### Paths of items -/

/-- A path of names that are no steps, with one slash between two. -/
def IsPlainPath (path : String) : Prop :=
  namesOf path ≠ [] ∧ (∀ s ∈ namesOf path, IsPlain s) ∧ "/".intercalate (namesOf path) = path

instance (path : String) : Decidable (IsPlainPath path) :=
  inferInstanceAs (Decidable (_ ∧ _ ∧ _))

theorem isPlainPath_intercalate {names : List String} (h : ∀ s ∈ names, IsName s ∧ IsPlain s)
    (hne : names ≠ []) : IsPlainPath ("/".intercalate names) := by
  rw [IsPlainPath, namesOf_intercalate fun s hs => (h s hs).1]
  exact ⟨hne, fun s hs => (h s hs).2, rfl⟩

namespace IsPlainPath

variable {path path' : String}

theorem names (h : IsPlainPath path) : ∀ s ∈ namesOf path, IsName s ∧ IsPlain s :=
  fun s hs => ⟨isName_of_mem_namesOf hs, h.2.1 s hs⟩

theorem join_eq (h : IsPlainPath path) (dir : FilePath) :
    FilePath.join dir path = dir.below (namesOf path) := by
  rw [← FilePath.join_intercalate (fun s hs => (h.names s hs).1) h.1, h.2.2]

/-- A plain path is decided by its names. -/
theorem eq (h : IsPlainPath path) (h' : IsPlainPath path') (hnames : namesOf path = namesOf path') :
    path = path' := by
  rw [← h.2.2, ← h'.2.2, hnames]

end IsPlainPath

variable {s t t' u : FileTree} {loc : Location} {content bytes : String → Bytes}
  {item : BundleItem} {items items' rest : List BundleItem} {bundle : Bundle} {mount : String}
  {root : FilePath} {count n : ℕ}

/-! ### Adding items -/

/-- The entry that an item becomes. -/
def entryOf (content : String → Bytes) (item : BundleItem) : Entry :=
  if item.isDir then .directory else .file (content item.path)

/-- A tree to which items were added below a place, with the directories above them. -/
structure AddsAll (loc : Location) (content : String → Bytes) (items : List BundleItem)
    (t t' : FileTree) : Prop where
  current : t'.current = t.current
  above : ∀ item ∈ items, ∀ above, above <+: namesOf item.path → above ≠ namesOf item.path →
    t'.get? (loc ++ above) = some .directory
  last : ∀ item ∈ items, t'.get? (loc ++ namesOf item.path) = some (entryOf content item)
  other : ∀ place, (∀ item ∈ items, ∀ above, above <+: namesOf item.path → place ≠ loc ++ above) →
    t'.get? place = t.get? place

namespace AddsAll

theorem nil (loc : Location) (content : String → Bytes) (t : FileTree) :
    AddsAll loc content [] t t :=
  ⟨rfl, by simp, by simp, fun _ _ => rfl⟩

/-- What is not above one of the items is as it was. -/
theorem get?_of_not_above (h : AddsAll loc content items t t') {more : List String}
    (hmore : ∀ item ∈ items, ¬more <+: namesOf item.path) :
    t'.get? (loc ++ more) = t.get? (loc ++ more) :=
  h.other _ fun item hitem _ habove heq =>
    hmore item hitem (List.append_cancel_left heq ▸ habove)

/-- One more item in front. What it adds stays, because the tree develops. -/
theorem cons (hplain : ∀ i ∈ item :: items, IsPlainPath i.path)
    (hadds : Adds s loc (namesOf item.path) (entryOf content item) t)
    (hdevelops : Develops t t') (h : AddsAll loc content items t t') :
    AddsAll loc content (item :: items) s t' := by
  refine ⟨h.current.trans hadds.current, fun i hi above habove hne => ?_, fun i hi => ?_,
    fun place hplace => ?_⟩
  · rcases List.mem_cons.mp hi with rfl | hi
    · exact hdevelops.directory (hadds.above above habove hne)
    · exact h.above i hi above habove hne
  · rcases List.mem_cons.mp hi with rfl | hi'
    · have hlast := hadds.last
      by_cases hother : ∃ j ∈ items, namesOf i.path <+: namesOf j.path
      · obtain ⟨j, hj, hpre⟩ := hother
        cases hdir : i.isDir with
        | true =>
          rw [entryOf, hdir] at hlast ⊢
          exact hdevelops.directory hlast
        | false =>
          -- a file is in the way of other items, so the other item is the same file
          rw [entryOf, hdir] at hlast ⊢
          obtain ⟨octets, hfile⟩ := hdevelops.file hlast
          by_cases hnames : namesOf i.path = namesOf j.path
          · have hpath := (hplain i hi).eq (hplain j (List.mem_cons_of_mem _ hj)) hnames
            rw [hnames, h.last j hj, entryOf] at hfile
            rw [hnames, h.last j hj, entryOf, hpath]
            cases hjdir : j.isDir with
            | true => simp [hjdir] at hfile
            | false => rfl
          · rw [h.above j hj _ hpre hnames] at hfile
            cases hfile
      · rw [h.get?_of_not_above fun j hj hpre => hother ⟨j, hj, hpre⟩, hlast]
    · exact h.last i hi'
  · rw [h.other place fun i hi => hplace i (List.mem_cons_of_mem _ hi),
      hadds.other place (hplace item List.mem_cons_self)]

/-- Where no file was added, there is a directory that was added, or what was there. -/
theorem get?_or (h : AddsAll loc content items t t') {place : Location}
    (hplace : ∀ item ∈ items, item.isDir = false → place ≠ loc ++ namesOf item.path) :
    t'.get? place = some .directory ∨ t'.get? place = t.get? place := by
  by_cases hadded : ∃ item ∈ items, ∃ above, above <+: namesOf item.path ∧ place = loc ++ above
  · obtain ⟨item, hitem, above, habove, rfl⟩ := hadded
    by_cases hne : above = namesOf item.path
    · have hdir : item.isDir = true := by
        by_contra hfile
        exact hplace item hitem (by simpa using hfile) (by rw [hne])
      rw [hne, h.last item hitem, entryOf, hdir, if_pos rfl]
      exact Or.inl rfl
    · exact Or.inl (h.above item hitem above habove hne)
  · exact Or.inr (h.other place fun item hitem above habove heq =>
      hadded ⟨item, hitem, above, habove, heq⟩)

end AddsAll

/-- Items of which each one is among others, or is a directory above one of them. -/
def Covers (items items' : List BundleItem) : Prop :=
  ∀ item ∈ items', item ∈ items ∨ item.isDir = true ∧ ∃ i ∈ items,
    namesOf item.path <+: namesOf i.path ∧ namesOf item.path ≠ namesOf i.path

/-- Items that are covered by those added to a tree are in it. -/
theorem AddsAll.of_covers (h : AddsAll loc content items t t') (hcovers : Covers items items')
    (hitem : item ∈ items') :
    (∀ above, above <+: namesOf item.path → above ≠ namesOf item.path →
      t'.get? (loc ++ above) = some .directory) ∧
    t'.get? (loc ++ namesOf item.path) = some (entryOf content item) := by
  rcases hcovers item hitem with hmem | ⟨hdir, i, hi, hpre, hne⟩
  · exact ⟨h.above item hmem, h.last item hmem⟩
  · refine ⟨fun above habove hne' => h.above i hi above (habove.trans hpre) fun heq => ?_, ?_⟩
    · exact hne' (habove.eq_of_length_le (heq ▸ hpre.length_le))
    · rw [h.above i hi _ hpre hne, entryOf, hdir, if_pos rfl]

/-- **Adding items that cover each other** gives one tree. -/
theorem AddsAll.eq (h : AddsAll loc content items t s) (h' : AddsAll loc content items' t u)
    (hcovers : Covers items items') (hcovers' : Covers items' items) : s = u := by
  have hsame : ∀ {items items' : List BundleItem} {s u : FileTree},
      AddsAll loc content items t s → AddsAll loc content items' t u → Covers items items' →
        ∀ place, (∃ item ∈ items', ∃ above, above <+: namesOf item.path ∧ place = loc ++ above) →
          s.get? place = u.get? place := by
    rintro items items' s u hs hu hcovers place ⟨item, hitem, above, habove, rfl⟩
    obtain ⟨hdirs, hlast⟩ := hs.of_covers hcovers hitem
    by_cases hne : above = namesOf item.path
    · rw [hne, hu.last item hitem, hlast]
    · rw [hu.above item hitem above habove hne, hdirs above habove hne]
  refine ext_get? (h.current.trans h'.current.symm) fun place => ?_
  by_cases hitems' : ∃ item ∈ items', ∃ above, above <+: namesOf item.path ∧ place = loc ++ above
  · exact hsame h h' hcovers place hitems'
  by_cases hitems : ∃ item ∈ items, ∃ above, above <+: namesOf item.path ∧ place = loc ++ above
  · exact (hsame h' h hcovers' place hitems).symm
  rw [h.other place fun item hitem above habove heq => hitems ⟨item, hitem, above, habove, heq⟩,
    h'.other place fun item hitem above habove heq => hitems' ⟨item, hitem, above, habove, heq⟩]

/-! ### Space for items -/

/-- An item that is not in the way of another: only the same file can be at a file or below it. -/
def NotInWay (item other : BundleItem) : Prop :=
  item.isDir = false → namesOf item.path <+: namesOf other.path →
    namesOf item.path = namesOf other.path ∧ other.isDir = false

instance (item other : BundleItem) : Decidable (NotInWay item other) :=
  inferInstanceAs (Decidable (_ → _ → _))

/-- After an item was added there is space for the others, if none is in the way. -/
theorem hasSpace_of_adds {other : BundleItem} (hitem : NotInWay item other)
    (hother : NotInWay other item)
    (hadds : Adds s loc (namesOf item.path) (entryOf content item) t)
    (hspace : HasSpace s loc (namesOf other.path) (entryOf content other)) :
    HasSpace t loc (namesOf other.path) (entryOf content other) := by
  refine ⟨fun above habove hne => ?_, ?_⟩
  · by_cases hway : above <+: namesOf item.path
    · by_cases heq : above = namesOf item.path
      · cases hdir : item.isDir with
        | true =>
          refine Or.inr ?_
          rw [heq, hadds.last, entryOf, hdir, if_pos rfl]
        | false => exact absurd (heq.trans (hitem hdir (heq ▸ habove)).1) hne
      · exact Or.inr (hadds.above above hway heq)
    · rw [hadds.get?_of_not_above hway]
      exact hspace.above above habove hne
  · by_cases hway : namesOf other.path <+: namesOf item.path
    · cases hdir : other.isDir with
      | false =>
        obtain ⟨heq, hfile⟩ := hother hdir hway
        refine Or.inr (Or.inr ⟨content other.path, content item.path, ?_, ?_⟩)
        · rw [entryOf, hdir, if_neg Bool.false_ne_true]
        · rw [heq, hadds.last, entryOf, hfile, if_neg Bool.false_ne_true]
      | true =>
        refine Or.inr (Or.inl ⟨by rw [entryOf, hdir, if_pos rfl], ?_⟩)
        by_cases heq : namesOf other.path = namesOf item.path
        · have hitemDir : item.isDir = true := by
            by_contra hfile
            obtain ⟨-, hother⟩ := hitem (by simpa using hfile) (heq ▸ List.prefix_rfl)
            rw [hdir] at hother
            cases hother
          rw [heq, hadds.last, entryOf, hitemDir, if_pos rfl]
        · exact hadds.above _ hway heq
    · rw [hadds.get?_of_not_above hway]
      exact hspace.last

/-! ### Copying items -/

/-- A tree that has developed below a place only. -/
structure DevelopsBelow (t : FileTree) (loc : Location) (s : FileTree) : Prop where
  develops : Develops t s
  other : ∀ place, (∀ names, names ≠ [] → place ≠ loc ++ names) → s.get? place = t.get? place

theorem DevelopsBelow.refl (t : FileTree) (loc : Location) : DevelopsBelow t loc t :=
  ⟨.refl t, fun _ _ => rfl⟩

theorem DevelopsBelow.trans (h : DevelopsBelow s loc t) (h' : DevelopsBelow t loc u) :
    DevelopsBelow s loc u :=
  ⟨h.develops.trans h'.develops, fun place hplace =>
    (h'.other place hplace).trans (h.other place hplace)⟩

/-- Adding an entry lets a tree develop below the place of the directory only. -/
theorem DevelopsBelow.of_adds {names : List String} {e : Entry} (hdevelops : Develops s t)
    (hleads : LeadsTo s root loc) (h : Adds s loc names e t) : DevelopsBelow s loc t := by
  refine ⟨hdevelops, fun place hplace => ?_⟩
  by_cases hloc : place = loc
  · rw [hloc, hleads.isDirectory, hdevelops.directory hleads.isDirectory]
  · refine h.other place fun above _ heq => ?_
    rcases eq_or_ne above [] with rfl | hne
    · exact hloc (heq.trans (List.append_nil loc))
    · exact hplace above hne heq

/-- A bundle that has no other bytes for its files than these, whatever is below the place that
they are copied to. -/
def GivesOnly (bundle : Bundle) (t : FileTree) (loc : Location) (items : List BundleItem)
    (bytes : String → Bytes) : Prop :=
  ∀ s, DevelopsBelow t loc s → ∀ item ∈ items, item.isDir = false → ∀ octets,
    bundle.read s item.path = .ok octets → octets = bytes item.path

/-- A bundle that has these bytes for its files, whatever is below the place that they are copied
to. -/
def Gives (bundle : Bundle) (t : FileTree) (loc : Location) (items : List BundleItem)
    (bytes : String → Bytes) : Prop :=
  ∀ s, DevelopsBelow t loc s → ∀ item ∈ items, item.isDir = false →
    bundle.read s item.path = .ok (bytes item.path)

theorem GivesOnly.of_cons (h : GivesOnly bundle t loc (item :: rest) bytes)
    (hstep : DevelopsBelow t loc s) : GivesOnly bundle s loc rest bytes :=
  fun u hu i hi hfile => h u (hstep.trans hu) i (List.mem_cons_of_mem item hi) hfile

theorem Gives.of_cons (h : Gives bundle t loc (item :: rest) bytes)
    (hstep : DevelopsBelow t loc s) : Gives bundle s loc rest bytes :=
  fun u hu i hi hfile => h u (hstep.trans hu) i (List.mem_cons_of_mem item hi) hfile

theorem Gives.givesOnly (h : Gives bundle t loc items bytes) : GivesOnly bundle t loc items bytes :=
  fun s hs i hi hfile _ hread => Except.ok.inj (hread.symm.trans (h s hs i hi hfile))

/-- What is copied for a file. -/
abbrev contentOf (mount : String) (bytes : String → Bytes) (path : String) : Bytes :=
  written mount path (bytes path)

/-- What a copy has done that succeeds. -/
structure CopiedItems (bundle : Bundle) (mount : String) (root : FilePath) (loc : Location)
    (bytes : String → Bytes) (items : List BundleItem) (t t' : FileTree) : Prop where
  adds : AddsAll loc (contentOf mount bytes) items t t'
  below : DevelopsBelow t loc t'
  read : ∀ item ∈ items, item.isDir = false → ∃ s, DevelopsBelow t loc s ∧
    bundle.read s item.path = .ok (bytes item.path)
  faultless : ∀ item ∈ items,
    wayFault? (root.below (namesOf item.path)) (namesOf item.path) = none

/-- **One item more**, before the others. -/
theorem CopiedItems.cons (hplain : ∀ i ∈ item :: items, IsPlainPath i.path)
    (hleads : LeadsTo t root loc) (hdevelops : Develops t t₁)
    (hread : item.isDir = false → bundle.read t item.path = .ok (bytes item.path))
    (hfault : wayFault? (root.below (namesOf item.path)) (namesOf item.path) = none)
    (hadds : Adds t loc (namesOf item.path) (entryOf (contentOf mount bytes) item) t₁)
    (h : CopiedItems bundle mount root loc bytes items t₁ t') :
    CopiedItems bundle mount root loc bytes (item :: items) t t' := by
  have hbelow := DevelopsBelow.of_adds hdevelops hleads hadds
  refine ⟨.cons hplain hadds h.below.develops h.adds, hbelow.trans h.below,
    List.forall_mem_cons.mpr ⟨fun hfile => ⟨t, .refl t loc, hread hfile⟩, fun i hi hfile => ?_⟩,
    List.forall_mem_cons.mpr ⟨hfault, h.faultless⟩⟩
  obtain ⟨s, hs, hread⟩ := h.read i hi hfile
  exact ⟨s, hbelow.trans hs, hread⟩

/-- **A copy that succeeds** has added every item and nothing else. -/
theorem copiedItems_of_copyItems (hcurrent : t.get? t.current = some .directory)
    (hleads : LeadsTo t root loc) (hlinks : NoLinks t loc)
    (hplain : ∀ item ∈ items, IsPlainPath item.path) (hgives : GivesOnly bundle t loc items bytes)
    (h : bundle.copyItems mount root t count items = (t', .ok n)) :
    CopiedItems bundle mount root loc bytes items t t' ∧ n = count + items.countP (!·.isDir) := by
  induction items generalizing t count with
  | nil =>
    obtain ⟨rfl, hcount⟩ := Prod.mk.inj h
    exact ⟨⟨.nil loc _ t, .refl t loc, by simp, by simp⟩, (Except.ok.inj hcount).symm⟩
  | cons item rest ih =>
    obtain ⟨hitem, hrest⟩ := List.forall_mem_cons.mp hplain
    -- the rest is copied after an item that has added its entry
    have hnext : ∀ {t₁ : FileTree} {count' : ℕ}, Develops t t₁ →
        Adds t loc (namesOf item.path) (entryOf (contentOf mount bytes) item) t₁ →
        bundle.copyItems mount root t₁ count' rest = (t', .ok n) →
        CopiedItems bundle mount root loc bytes rest t₁ t' ∧
          n = count' + rest.countP (!·.isDir) := fun hdevelops hadds =>
      ih (hdevelops.get?_current hcurrent) (hleads.of_keepsPlaces hdevelops.keepsPlaces)
        (hlinks.of_develops hdevelops) hrest (hgives.of_cons (.of_adds hdevelops hleads hadds))
    rcases copyItems_cases bundle mount root t count item rest with
      ⟨f, hfails, -⟩ | ⟨t₁, hdir, hmade, hcopy⟩ | ⟨octets, t₁, hfile, hread, hwrite, hcopy⟩
    · rw [h] at hfails
      cases hfails
    · have hdevelops := (Output.grows_of_ensureDir hmade).develops
      rw [hitem.join_eq] at hmade
      obtain ⟨hfault, hadds, -⟩ :=
        Output.adds_of_ensureDir hcurrent hleads hitem.names hitem.1 hlinks hmade
      replace hadds :
          Adds t loc (namesOf item.path) (entryOf (contentOf mount bytes) item) t₁ := by
        rwa [entryOf, hdir, if_pos rfl]
      obtain ⟨hcopied, hcount⟩ := hnext hdevelops hadds (hcopy ▸ h)
      refine ⟨.cons hplain hleads hdevelops (by simp [hdir]) hfault hadds hcopied, ?_⟩
      rw [hcount, List.countP_cons_of_neg (by simp [hdir])]
    · obtain rfl : octets = bytes item.path :=
        hgives t (.refl t loc) item List.mem_cons_self hfile octets hread
      have hdevelops := Output.develops_of_write hcurrent hwrite
      rw [hitem.join_eq] at hwrite
      obtain ⟨hfault, hadds⟩ :=
        Output.adds_of_write hcurrent hleads hitem.names hitem.1 hlinks hwrite
      replace hadds :
          Adds t loc (namesOf item.path) (entryOf (contentOf mount bytes) item) t₁ := by
        rwa [entryOf, hfile, if_neg Bool.false_ne_true]
      obtain ⟨hcopied, hcount⟩ := hnext hdevelops hadds (hcopy ▸ h)
      refine ⟨.cons hplain hleads hdevelops (fun _ => hread) hfault hadds hcopied, ?_⟩
      rw [hcount, List.countP_cons_of_pos (by simp [hfile]), Nat.add_assoc, Nat.add_comm 1]

/-- **Items are copied** if there is space for each of them, none is in the way of another, and no
path has a fault. -/
theorem exists_copyItems_eq (hcurrent : t.get? t.current = some .directory)
    (hleads : LeadsTo t root loc) (hlinks : NoLinks t loc)
    (hplain : ∀ item ∈ items, IsPlainPath item.path) (hgives : Gives bundle t loc items bytes)
    (hway : ∀ item ∈ items, ∀ other ∈ items, NotInWay item other)
    (hspace : ∀ item ∈ items,
      HasSpace t loc (namesOf item.path) (entryOf (contentOf mount bytes) item))
    (hfaults : ∀ item ∈ items,
      wayFault? (root.below (namesOf item.path)) (namesOf item.path) = none) :
    ∃ t' n, bundle.copyItems mount root t count items = (t', .ok n) := by
  induction items generalizing t count with
  | nil => exact ⟨t, count, rfl⟩
  | cons item rest ih =>
    obtain ⟨hitem, hrest⟩ := List.forall_mem_cons.mp hplain
    obtain ⟨hspace', hspaceRest⟩ := List.forall_mem_cons.mp hspace
    obtain ⟨hfault, hfaultsRest⟩ := List.forall_mem_cons.mp hfaults
    -- the rest is copied after an item that has added its entry
    have hnext : ∀ {t₁ : FileTree} (count' : ℕ), Develops t t₁ →
        Adds t loc (namesOf item.path) (entryOf (contentOf mount bytes) item) t₁ →
        ∃ t' n, bundle.copyItems mount root t₁ count' rest = (t', .ok n) := by
      intro t₁ count' hstep hadds
      refine ih (hstep.get?_current hcurrent) (hleads.of_keepsPlaces hstep.keepsPlaces)
        (hlinks.of_develops hstep) hrest (hgives.of_cons (.of_adds hstep hleads hadds))
        (fun i hi j hj => hway i (List.mem_cons_of_mem _ hi) j (List.mem_cons_of_mem _ hj))
        (fun i hi => ?_) hfaultsRest
      exact hasSpace_of_adds (hway item List.mem_cons_self i (List.mem_cons_of_mem _ hi))
        (hway i (List.mem_cons_of_mem _ hi) item List.mem_cons_self) hadds (hspaceRest i hi)
    rw [copyItems_cons, hitem.join_eq]
    cases hdir : item.isDir with
    | true =>
      rw [entryOf, hdir, if_pos rfl] at hspace' hnext
      obtain ⟨t₁, hmade⟩ := Output.exists_ensureDir_eq hleads hitem.names hitem.1 hspace' hfault
      rw [if_pos rfl, hmade]
      exact hnext count (Output.grows_of_ensureDir hmade).develops
        (Output.adds_of_ensureDir hcurrent hleads hitem.names hitem.1 hlinks hmade).2.1
    | false =>
      rw [entryOf, hdir, if_neg Bool.false_ne_true] at hspace' hnext
      obtain ⟨t₁, hwrite, hadds⟩ := Output.exists_output_eq hleads hitem.names hitem.1 hspace'
        hfault (written mount item.path (bytes item.path))
      rw [if_neg Bool.false_ne_true, hgives t (.refl t loc) item List.mem_cons_self hdir]
      dsimp only
      rw [hwrite]
      exact hnext (count + 1) (Output.develops_of_write hcurrent hwrite) hadds

end Bundle

end SiteSnapshot
