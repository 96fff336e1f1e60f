import SiteSnapshot.Catalog.Enumerate
import SiteSnapshot.Proofs.Text.Order

/-!
# The union of first answers

Of the sources that know an entry only the first one counts. `Answers` says so for one entry, and
`mem_enumerate` for a whole catalog: its pages are the units that the first answers list. The list
of pages is in order, so it is decided by its members, and what does not change these does not
change the list: the order of the entries and their repetitions, how a catalog is put together, and
sources that are asked later.
-/

namespace SiteSnapshot.Catalog

variable {entries : List String} {sources : List Source} {entry : String} {units : List String}

/-- The units of an entry by a source that knows it, where the sources before do not. -/
def Answers (sources : List Source) (entry : String) (units : List String) : Prop :=
  ∃ before source after, sources = before ++ source :: after ∧
    (∀ s ∈ before, ∃ f, s.units entry = .error f) ∧ source.units entry = .ok units

theorem firstAnswer_eq_some_iff :
    firstAnswer sources entry = some units ↔ Answers sources entry units := by
  have hnone : ∀ {s : Source}, (s.units entry).toOption = none ↔ ∃ f, s.units entry = .error f := by
    intro s
    cases s.units entry <;> simp [Except.toOption]
  have hsome : ∀ {s : Source},
      (s.units entry).toOption = some units ↔ s.units entry = .ok units := by
    intro s
    cases s.units entry <;> simp [Except.toOption]
  simp only [firstAnswer, List.findSome?_eq_some_iff, hnone, hsome, Answers]
  constructor
  · rintro ⟨before, source, after, rfl, hsource, hbefore⟩
    exact ⟨before, source, after, rfl, hbefore, hsource⟩
  · rintro ⟨before, source, after, rfl, hbefore, hsource⟩
    exact ⟨before, source, after, rfl, hsource, hbefore⟩

/-- Sources that are asked later have a say only where no earlier one knows the entry. -/
theorem firstAnswer_append (sources more : List Source) (entry : String) :
    firstAnswer (sources ++ more) entry =
      (firstAnswer sources entry).or (firstAnswer more entry) :=
  List.findSome?_append

/-- The pages of a catalog are the units that the first answers list. -/
theorem mem_enumerate {path : String} : path ∈ enumerate entries sources ↔
    path ≠ "/" ∧ ∃ entry ∈ entries, ∃ units, Answers sources entry units ∧
      ∃ unit ∈ units, UrlPath.normalize unit = path := by
  have hlisted : ∀ entry, path ∈ ((firstAnswer sources entry).getD []).map UrlPath.normalize ↔
      ∃ units, Answers sources entry units ∧ ∃ unit ∈ units, UrlPath.normalize unit = path := by
    intro entry
    simp only [← firstAnswer_eq_some_iff]
    cases firstAnswer sources entry <;> simp
  rw [enumerate, mem_sortedSet, List.mem_filter, List.mem_flatMap, bne_iff_ne, and_comm]
  simp only [hlisted]

/-- The pages of a catalog are in order, each once. -/
theorem pairwise_enumerate (entries : List String) (sources : List Source) :
    (enumerate entries sources).Pairwise (· < ·) :=
  pairwise_sortedSet _

/-- A list in order with the members of a catalog is the list of its pages. -/
theorem enumerate_eq_of_mem_iff {l : List String} (hl : l.Pairwise (· < ·))
    (h : ∀ path, path ∈ enumerate entries sources ↔ path ∈ l) : enumerate entries sources = l :=
  eq_of_pairwise_lt (pairwise_enumerate entries sources) hl h

/-- Where every entry is known, sources that are asked later have no say. -/
theorem enumerate_append_sources (entries : List String) (sources more : List Source) :
    enumerate entries (sources ++ more) = sortedSet (enumerate entries sources ++
      enumerate (entries.filter fun entry => (firstAnswer sources entry).isNone) more) := by
  refine enumerate_eq_of_mem_iff (pairwise_sortedSet _) fun path => ?_
  simp only [mem_sortedSet, List.mem_append, mem_enumerate, List.mem_filter,
    ← firstAnswer_eq_some_iff, firstAnswer_append, ← and_or_left]
  refine and_congr_right fun _ => ⟨?_, ?_⟩
  · rintro ⟨entry, hentry, units, hunits, hpath⟩
    cases hfirst : firstAnswer sources entry with
    | some first =>
      rw [hfirst, Option.some_or] at hunits
      exact Or.inl ⟨entry, hentry, units, hfirst.trans hunits, hpath⟩
    | none =>
      rw [hfirst, Option.none_or] at hunits
      exact Or.inr ⟨entry, ⟨hentry, by rw [hfirst, Option.isNone_none]⟩, units, hunits, hpath⟩
  · rintro (⟨entry, hentry, units, hunits, hpath⟩ | ⟨entry, ⟨hentry, hnone⟩, units, hunits, hpath⟩)
    · exact ⟨entry, hentry, units, by rw [hunits, Option.some_or], hpath⟩
    · refine ⟨entry, hentry, units, ?_, hpath⟩
      rw [Option.isNone_iff_eq_none.mp hnone, Option.none_or, hunits]

/-- **The pages of a catalog are the sorted union of the first answers.** They are in the order of
their octets, each once, and a path is one of them if it is not the homepage and the first source
that knows one of the entries lists a unit of this normal form. So the entries may be reordered and
repeated; the pages of two catalogs together are those of both; and of sources that are asked later
only the entries matter that no earlier one knows, an entry without units being known. -/
theorem enumerate_eq_union (entries more : List String) (sources others : List Source) :
    ((enumerate entries sources).Pairwise fun p q => Utf8.encode p < Utf8.encode q) ∧
    (∀ path, path ∈ enumerate entries sources ↔
      path ≠ "/" ∧ ∃ entry ∈ entries, ∃ units, Answers sources entry units ∧
        ∃ unit ∈ units, UrlPath.normalize unit = path) ∧
    ((∀ entry, entry ∈ more ↔ entry ∈ entries) →
      enumerate more sources = enumerate entries sources) ∧
    enumerate (entries ++ more) sources =
      sortedSet (enumerate entries sources ++ enumerate more sources) ∧
    (∀ entry units, Answers sources entry units →
      ∀ units', Answers (sources ++ others) entry units' ↔ units' = units) ∧
    ((∀ entry ∈ entries, ∃ units, Answers sources entry units) →
      enumerate entries (sources ++ others) = enumerate entries sources) ∧
    enumerate entries (sources ++ others) = sortedSet (enumerate entries sources ++
      enumerate (entries.filter fun entry => (firstAnswer sources entry).isNone) others) := by
  refine ⟨?_, fun path => mem_enumerate, fun h => ?_, ?_, ?_, fun h => ?_,
    enumerate_append_sources entries sources others⟩
  · exact (pairwise_enumerate entries sources).imp Utf8.encode_lt_encode_iff.mpr
  · refine enumerate_eq_of_mem_iff (pairwise_enumerate _ _) fun path => ?_
    simp only [mem_enumerate, h]
  · refine enumerate_eq_of_mem_iff (pairwise_sortedSet _) fun path => ?_
    simp only [mem_sortedSet, List.mem_append, mem_enumerate, or_and_right, exists_or,
      ← and_or_left]
  · intro entry units hunits units'
    rw [← firstAnswer_eq_some_iff] at hunits ⊢
    rw [firstAnswer_append, hunits, Option.some_or, Option.some.injEq, eq_comm]
  · refine enumerate_eq_of_mem_iff (pairwise_enumerate _ _) fun path => ?_
    simp only [mem_enumerate, ← firstAnswer_eq_some_iff, firstAnswer_append] at h ⊢
    refine and_congr_right fun _ => exists_congr fun entry => and_congr_right fun hentry => ?_
    obtain ⟨units, hunits⟩ := h entry hentry
    simp only [hunits, Option.some_or]

/-- An entry without units is known, so a later source is not asked for its units. -/
theorem enumerate_entry_without_units :
    enumerate ["b", "a", "b"]
        ([Manifest.source ⟨[("a", []), ("b", ["z//y", "x", "/"])]⟩ "first"] ++
          [Manifest.source ⟨[("a", ["w"])]⟩ "later"]) =
      enumerate ["b", "a", "b"] [Manifest.source ⟨[("a", []), ("b", ["z//y", "x", "/"])]⟩ "first"] ∧
    enumerate ["b", "a", "b"] [Manifest.source ⟨[("a", []), ("b", ["z//y", "x", "/"])]⟩ "first"] =
      ["/x", "/z/y"] := by
  have hpages : enumerate ["b", "a", "b"]
      [Manifest.source ⟨[("a", []), ("b", ["z//y", "x", "/"])]⟩ "first"] =
        sortedSet ["/z/y", "/x", "/z/y", "/x"] := congrArg sortedSet (by decide)
  have hsorted : sortedSet ["/z/y", "/x", "/z/y", "/x"] = ["/x", "/z/y"] :=
    eq_of_pairwise_lt (pairwise_sortedSet _) (by decide) fun path => by grind [mem_sortedSet]
  refine ⟨?_, hpages.trans hsorted⟩
  refine (enumerate_eq_union ["b", "a", "b"] [] _ _).2.2.2.2.2.1 fun entry hentry => ?_
  have hknown : entry = "b" ∨ entry = "a" ∨ entry = "b" := by simpa using hentry
  rcases hknown with rfl | rfl | rfl
  · exact ⟨["z//y", "x", "/"], [], _, [], rfl, by simp, rfl⟩
  · exact ⟨[], [], _, [], rfl, by simp, rfl⟩
  · exact ⟨["z//y", "x", "/"], [], _, [], rfl, by simp, rfl⟩

end SiteSnapshot.Catalog
