import SiteSnapshot.Proofs.FileTree.Places

/-!
# Growing trees

Making directories lets a tree **grow** on the way down from a place (`GrowsTo`): some names of
the way become directories where there was nothing, and everything else stays as it was. So the
places of the tree are kept, and where neither a file nor a link was in the way, none is
afterwards.
-/

namespace SiteSnapshot.FileTree

/-- A tree that has grown by directories on the way down from a place. -/
structure GrowsTo (t : FileTree) (loc : Location) (names : List String) (t' : FileTree) : Prop where
  current : t'.current = t.current
  get?_or : ∀ place, t'.get? place = t.get? place ∨
    t.get? place = none ∧ t'.get? place = some .directory ∧
      ∃ above, above <+: names ∧ place = loc ++ above

namespace GrowsTo

variable {t t' t'' : FileTree} {loc : Location} {names more : List String}

theorem refl (t : FileTree) (loc : Location) (names : List String) : GrowsTo t loc names t :=
  ⟨rfl, fun _ => Or.inl rfl⟩

/-- Growing keeps every entry. -/
theorem get? (h : GrowsTo t loc names t') {place : Location} {e : Entry}
    (hget : t.get? place = some e) : t'.get? place = some e := by
  rcases h.get?_or place with hsame | ⟨hnone, -, -⟩
  · rwa [hsame]
  · rw [hnone] at hget
    cases hget

/-- Below the way, growing changes nothing. -/
theorem get?_append (h : GrowsTo t loc names t') (hmore : more ≠ []) :
    t'.get? (loc ++ (names ++ more)) = t.get? (loc ++ (names ++ more)) := by
  rcases h.get?_or (loc ++ (names ++ more)) with hsame | ⟨-, -, above, habove, hplace⟩
  · exact hsame
  · have hlen := habove.length_le
    -- what has been made is no longer than the way
    rw [← List.append_cancel_left hplace, List.length_append] at hlen
    have hpos := List.length_pos_iff.mpr hmore
    omega

theorem trans (h : GrowsTo t loc names t') (h' : GrowsTo t' loc names t'') :
    GrowsTo t loc names t'' := by
  refine ⟨h'.current.trans h.current, fun place => ?_⟩
  rcases h.get?_or place with hsame | ⟨hnone, hdir, habove⟩
  · rw [← hsame]
    exact h'.get?_or place
  · exact Or.inr ⟨hnone, h'.get? hdir, habove⟩

theorem mono (h : GrowsTo t loc names t') (hnames : names <+: more) : GrowsTo t loc more t' := by
  refine ⟨h.current, fun place => (h.get?_or place).imp_right ?_⟩
  rintro ⟨hnone, hdir, above, habove, hplace⟩
  exact ⟨hnone, hdir, above, habove.trans hnames, hplace⟩

theorem keepsPlaces (h : GrowsTo t loc names t') : KeepsPlaces t t' :=
  ⟨h.current, fun _ _ _ hget => h.get? hget⟩

/-- Where nothing was in the way, nothing is. -/
theorem clear (h : GrowsTo t loc names t') {loc' : Location} {names' : List String}
    (hclear : Clear t loc' names') : Clear t' loc' names' := by
  intro above hne habove
  rcases h.get?_or (loc' ++ above) with hsame | ⟨-, hdir, -⟩
  · rw [hsame]
    exact hclear above hne habove
  · exact Or.inr hdir

theorem allDirectories (h : GrowsTo t loc names t') {loc' : Location} {names' : List String}
    (hdirs : AllDirectories t loc' names') : AllDirectories t' loc' names' :=
  fun above habove => h.get? (hdirs above habove)

/-- Making the next directory. -/
theorem put {init : List String} {name : String} (hdir : t.get? (loc ++ init) = some .directory)
    (hnone : t.get? (loc ++ (init ++ [name])) = none) :
    GrowsTo t loc (init ++ [name]) (t.put (loc ++ init) name .directory) := by
  rw [← List.append_assoc] at hnone
  refine ⟨current_put t _ _ _, fun place => ?_⟩
  rw [get?_put hdir (by rw [hnone]; simp)]
  split_ifs with hplace
  · refine Or.inr ⟨by rwa [hplace], rfl, init ++ [name], List.prefix_rfl, ?_⟩
    rw [hplace, List.append_assoc]
  · exact Or.inl rfl

end GrowsTo

theorem Clear.of_prefix {t : FileTree} {loc : Location} {names more : List String}
    (h : Clear t loc more) (hnames : names <+: more) : Clear t loc names :=
  fun above hne habove => h above hne (habove.trans hnames)

/-- Directories as far as the last name, and then one more. -/
theorem AllDirectories.append_singleton {t : FileTree} {loc : Location} {init : List String}
    {name : String} (h : AllDirectories t loc init)
    (hlast : t.get? (loc ++ (init ++ [name])) = some .directory) :
    AllDirectories t loc (init ++ [name]) := by
  intro above habove
  rcases List.prefix_concat_iff.mp habove with rfl | habove
  · exact hlast
  · exact h above habove

/-- Above an entry there are directories. -/
theorem allDirectories_of_get? {t : FileTree} {loc : Location} {init : List String} {name : String}
    {e : Entry} (h : t.get? (loc ++ (init ++ [name])) = some e) : AllDirectories t loc init := by
  rintro above ⟨rest, rfl⟩
  rw [List.append_assoc, ← List.append_assoc] at h
  exact get?_of_get?_append h (by simp)

theorem AllDirectories.clear {t : FileTree} {loc : Location} {names : List String}
    (h : AllDirectories t loc names) : Clear t loc names :=
  fun above _ habove => Or.inr (h above habove)

end SiteSnapshot.FileTree
