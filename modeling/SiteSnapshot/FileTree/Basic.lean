import SiteSnapshot.Text.Utf8

/-!
# File trees

A `FileTree` is all that a run can read and write: directories, files and symbolic links,
each at a **location**, the list of names that leads to it from the root. It is a list of
entries in the order of their locations, so that

* a directory comes before its contents, and the contents of a directory follow it without
  a gap, siblings in the order of their names;
* two trees with the same entry at every location are equal (`FileTree.ext_get?`).

Two facts hold of every tree and belong to the type: the order is strict, and what lies in
a directory lies in one that exists. The root always exists and has no entry. Relative
paths start at the **current** directory.
-/

namespace SiteSnapshot

/-- A place in a file tree: the names from the root to it. -/
abbrev Location := List String

/-- What is at a place. -/
inductive Entry where
  | directory
  | file (octets : Bytes)
  | link (target : String)
deriving DecidableEq, Repr, Inhabited

namespace Entry

/-- Puts an entry into a list in the order of locations, in place of one that is there. -/
def insert (loc : Location) (e : Entry) : List (Location × Entry) → List (Location × Entry)
  | [] => [(loc, e)]
  | p :: rest =>
    if loc < p.1 then (loc, e) :: p :: rest
    else if loc = p.1 then (loc, e) :: rest
    else p :: insert loc e rest

/-- The entry at a location in a list. -/
def find (entries : List (Location × Entry)) (loc : Location) : Option Entry :=
  (entries.find? (·.1 == loc)).map (·.2)

/-- In the order of locations. -/
def Sorted (entries : List (Location × Entry)) : Prop :=
  entries.Pairwise fun p q => p.1 < q.1

/-- What an insertion puts into a list. -/
theorem mem_insert {entries : List (Location × Entry)} (sorted : Sorted entries)
    {loc : Location} {e : Entry} {p : Location × Entry} :
    p ∈ insert loc e entries ↔ p = (loc, e) ∨ (p ∈ entries ∧ p.1 ≠ loc) := by
  induction entries with
  | nil => simp [insert]
  | cons q rest ih =>
    obtain ⟨first, sorted⟩ := List.pairwise_cons.mp sorted
    have ne_of_lt {r : Location × Entry} (h : loc < r.1) : r.1 ≠ loc :=
      fun h' => List.lt_irrefl loc (h' ▸ h)
    unfold insert
    split
    · next lt =>
      have all : ∀ r ∈ q :: rest, r.1 ≠ loc := by
        intro r hr
        rcases List.mem_cons.mp hr with rfl | hr
        · exact ne_of_lt lt
        · exact ne_of_lt (List.lt_trans lt (first r hr))
      constructor
      · intro h
        rcases List.mem_cons.mp h with h | h
        · exact Or.inl h
        · exact Or.inr ⟨h, all p h⟩
      · rintro (h | ⟨h, _⟩)
        · exact h ▸ List.mem_cons_self
        · exact List.mem_cons_of_mem _ h
    · split
      · next _ eq =>
        subst eq
        have all : ∀ r ∈ rest, r.1 ≠ q.1 := fun r hr => ne_of_lt (first r hr)
        constructor
        · intro h
          rcases List.mem_cons.mp h with h | h
          · exact Or.inl h
          · exact Or.inr ⟨List.mem_cons_of_mem _ h, all p h⟩
        · rintro (h | ⟨h, ne⟩)
          · exact h ▸ List.mem_cons_self
          · rcases List.mem_cons.mp h with h | h
            · exact absurd (congrArg (·.1) h) ne
            · exact List.mem_cons_of_mem _ h
      · next _ ne =>
        rw [List.mem_cons, ih sorted, List.mem_cons]
        constructor
        · rintro (h | h | ⟨h, h'⟩)
          · exact Or.inr ⟨Or.inl h, h ▸ fun h' => ne h'.symm⟩
          · exact Or.inl h
          · exact Or.inr ⟨Or.inr h, h'⟩
        · rintro (h | ⟨h | h, h'⟩)
          · exact Or.inr (Or.inl h)
          · exact Or.inl h
          · exact Or.inr (Or.inr ⟨h, h'⟩)

/-- An insertion keeps the order. -/
theorem Sorted.insert {entries : List (Location × Entry)} (sorted : Sorted entries)
    (loc : Location) (e : Entry) : Sorted (Entry.insert loc e entries) := by
  induction entries with
  | nil => simp [Entry.insert, Sorted]
  | cons q rest ih =>
    obtain ⟨first, sorted'⟩ := List.pairwise_cons.mp sorted
    unfold Entry.insert
    split
    · next lt =>
      refine List.pairwise_cons.mpr ⟨fun r hr => ?_, sorted⟩
      rcases List.mem_cons.mp hr with rfl | hr
      · exact lt
      · exact List.lt_trans lt (first r hr)
    · split
      · next _ eq =>
        subst eq
        exact List.pairwise_cons.mpr ⟨first, sorted'⟩
      · next not_lt ne =>
        refine List.pairwise_cons.mpr ⟨fun r hr => ?_, ih sorted'⟩
        rcases (mem_insert sorted').mp hr with rfl | ⟨hr, _⟩
        · exact Std.lt_of_le_of_ne (Std.not_lt.mp not_lt) fun h => ne h.symm
        · exact first r hr

/-- A list in order has at most one entry at a location. -/
theorem Sorted.find_eq_some_iff {entries : List (Location × Entry)} (sorted : Sorted entries)
    {loc : Location} {e : Entry} : find entries loc = some e ↔ (loc, e) ∈ entries := by
  induction entries with
  | nil => simp [find]
  | cons q rest ih =>
    obtain ⟨first, sorted⟩ := List.pairwise_cons.mp sorted
    by_cases h : q.1 = loc
    · subst h
      simp only [find, List.find?_cons, BEq.rfl, Option.map_some, Option.some.injEq,
        List.mem_cons]
      constructor
      · rintro rfl
        exact Or.inl rfl
      · rintro (h | h)
        · exact (congrArg (·.2) h).symm
        · exact absurd (first _ h) (List.lt_irrefl _)
    · have h' : (q.1 == loc) = false := by simpa using h
      simp only [find, List.find?_cons, h', List.mem_cons]
      rw [show (rest.find? (·.1 == loc)).map (·.2) = find rest loc from rfl, ih sorted]
      constructor
      · exact Or.inr
      · rintro (h'' | h'')
        · exact absurd (congrArg (·.1) h'').symm h
        · exact h''

/-- Lists in order with the same members are equal. -/
theorem Sorted.eq_of_mem_iff : {l m : List (Location × Entry)} → Sorted l → Sorted m →
    (∀ p, p ∈ l ↔ p ∈ m) → l = m
  | [], [], _, _, _ => rfl
  | [], q :: m, _, _, h => absurd ((h q).mpr List.mem_cons_self) List.not_mem_nil
  | p :: l, [], _, _, h => absurd ((h p).mp List.mem_cons_self) List.not_mem_nil
  | p :: l, q :: m, hl, hm, h => by
    obtain ⟨firstL, hl'⟩ := List.pairwise_cons.mp hl
    obtain ⟨firstM, hm'⟩ := List.pairwise_cons.mp hm
    have eq : p = q := by
      rcases List.mem_cons.mp ((h p).mp List.mem_cons_self) with eq | hp
      · exact eq
      · rcases List.mem_cons.mp ((h q).mpr List.mem_cons_self) with eq | hq
        · exact eq.symm
        · exact absurd (List.lt_trans (firstL q hq) (firstM p hp)) (List.lt_irrefl _)
    subst eq
    have rest : l = m := by
      refine eq_of_mem_iff hl' hm' fun r => ⟨fun hr => ?_, fun hr => ?_⟩
      · rcases List.mem_cons.mp ((h r).mp (List.mem_cons_of_mem _ hr)) with rfl | hr'
        · exact absurd (firstL _ hr) (List.lt_irrefl _)
        · exact hr'
      · rcases List.mem_cons.mp ((h r).mpr (List.mem_cons_of_mem _ hr)) with rfl | hr'
        · exact absurd (firstM _ hr) (List.lt_irrefl _)
        · exact hr'
    rw [rest]

end Entry

/-- Directories, files and links at their locations. -/
structure FileTree where
  entries : List (Location × Entry) := []
  current : Location := []
  sorted : Entry.Sorted entries := by exact List.Pairwise.nil
  closed : ∀ p ∈ entries, ∃ dir name, p.1 = dir ++ [name] ∧
    (dir = [] ∨ (dir, Entry.directory) ∈ entries) := by simp

namespace FileTree

/-- The tree with nothing in it. -/
def empty : FileTree := {}

/-- What is at a location. -/
def get? (t : FileTree) (loc : Location) : Option Entry :=
  if loc = [] then some .directory else Entry.find t.entries loc

/-- Where there is an entry, `get?` shows it. -/
theorem get?_eq_some_iff {t : FileTree} {loc : Location} {e : Entry} (ne : loc ≠ []) :
    t.get? loc = some e ↔ (loc, e) ∈ t.entries := by
  rw [get?, if_neg ne]
  exact t.sorted.find_eq_some_iff

/-- The root is a directory. -/
@[simp]
theorem get?_nil (t : FileTree) : t.get? [] = some .directory := rfl

/-- Where there is a directory, either it is the root or it has an entry. -/
theorem eq_nil_or_mem_of_get? {t : FileTree} {loc : Location} {e : Entry}
    (h : t.get? loc = some e) : loc = [] ∨ (loc, e) ∈ t.entries := by
  by_cases ne : loc = []
  · exact Or.inl ne
  · exact Or.inr ((get?_eq_some_iff ne).mp h)

/-- No entry is at the root. -/
theorem ne_nil_of_mem {t : FileTree} {p : Location × Entry} (h : p ∈ t.entries) : p.1 ≠ [] := by
  obtain ⟨dir, name, eq, _⟩ := t.closed p h
  simp [eq]

/-- Trees with the same current directory and the same entry at every location are
equal. -/
theorem ext_get? {s t : FileTree} (current : s.current = t.current)
    (h : ∀ loc, s.get? loc = t.get? loc) : s = t := by
  have mem : ∀ p, p ∈ s.entries ↔ p ∈ t.entries := by
    intro p
    by_cases ne : p.1 = []
    · exact ⟨fun hp => absurd ne (ne_nil_of_mem hp), fun hp => absurd ne (ne_nil_of_mem hp)⟩
    · rw [← get?_eq_some_iff (t := s) ne, ← get?_eq_some_iff (t := t) ne, h]
  have entries : s.entries = t.entries := s.sorted.eq_of_mem_iff t.sorted mem
  cases s
  cases t
  simp_all

/-- Puts an entry into a directory. Nothing happens if there is no such directory, or if
the name belongs to a directory already. -/
def put (t : FileTree) (dir : Location) (name : String) (e : Entry) : FileTree :=
  if h : t.get? dir = some .directory ∧ t.get? (dir ++ [name]) ≠ some .directory then
    { entries := Entry.insert (dir ++ [name]) e t.entries
      current := t.current
      sorted := t.sorted.insert _ _
      closed := by
        have kept {loc : Location} (hl : (loc, Entry.directory) ∈ t.entries) :
            (loc, Entry.directory) ∈ Entry.insert (dir ++ [name]) e t.entries := by
          refine (Entry.mem_insert t.sorted).mpr (Or.inr ⟨hl, fun hloc => h.2 ?_⟩)
          rw [get?_eq_some_iff (by simp), ← hloc]
          exact hl
        intro p hp
        rcases (Entry.mem_insert t.sorted).mp hp with rfl | ⟨hp, _⟩
        · exact ⟨dir, name, rfl, (eq_nil_or_mem_of_get? h.1).imp id kept⟩
        · obtain ⟨d, n, hd, hd'⟩ := t.closed p hp
          exact ⟨d, n, hd, hd'.imp id kept⟩ }
  else t

/-- The tree with another current directory. -/
def enter (t : FileTree) (loc : Location) : FileTree :=
  { t with current := loc }

/-- The entries below a location, with the names that lead there from it. A directory comes
before its contents. -/
def below (t : FileTree) (loc : Location) : List (Location × Entry) :=
  t.entries.filterMap fun p =>
    if loc.isPrefixOf p.1 ∧ p.1.length > loc.length then some (p.1.drop loc.length, p.2)
    else none

/-- The entries below the current directory by their relative paths, in the order of the
paths. -/
def snapshot (t : FileTree) : List (String × Entry) :=
  let named := (t.below t.current).map fun p => ("/".intercalate p.1, p.2)
  named.mergeSort fun p q => decide (p.1 ≤ q.1)

end FileTree

end SiteSnapshot
