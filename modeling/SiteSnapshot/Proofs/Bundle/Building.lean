import Mathlib.Data.List.Induction
import SiteSnapshot.Bundle.Memory
import SiteSnapshot.Proofs.Text.Order

/-!
# Bundles built by additions

A bundle in memory is built by additions of files and directories in any number and order, under any
paths. Whatever the additions, the bundle **holds** them (`holds_build`): a file has the contents of
the last addition under its path, and the directories are the added ones and those above the files.
This is kept by every further addition (`Holds.add`).

A walk lists the items by their paths, a directory before a file of the same path
(`BundleItem.Before`). That is a strict order, so a walk is decided by what the bundle holds, and
the order of the additions matters only among those of files at one path (`build_congr`).
-/

namespace SiteSnapshot

/-! ### The order of items -/

namespace BundleItem

variable {i j : BundleItem} {items items' : List BundleItem}

/-- An item that is listed before another one: by the octets of its path, or because it is the
directory and the other one is the file of this path. -/
def Before (i j : BundleItem) : Prop :=
  Utf8.encode i.path < Utf8.encode j.path ∨ i.path = j.path ∧ i.isDir = true ∧ j.isDir = false

theorem Before.irrefl (i : BundleItem) : ¬i.Before i := by
  rintro (hlt | ⟨-, hdir, hfile⟩)
  · exact List.lt_irrefl _ hlt
  · rw [hdir] at hfile
    cases hfile

theorem Before.asymm (h : i.Before j) : ¬j.Before i := by
  rintro (hlt | ⟨heq, -, hfile⟩)
  · rcases h with hlt' | ⟨heq, -⟩
    · exact List.lt_asymm hlt hlt'
    · exact List.lt_irrefl _ (heq ▸ hlt)
  · rcases h with hlt | ⟨-, hdir, -⟩
    · exact List.lt_irrefl _ (heq ▸ hlt)
    · rw [hdir] at hfile
      cases hfile

theorem Before.not_lt (h : i.Before j) : ¬j.path < i.path := by
  rw [← Utf8.encode_lt_encode_iff]
  rcases h with hlt | ⟨heq, -⟩
  · exact List.lt_asymm hlt
  · rw [heq]
    exact List.lt_irrefl _

theorem nodup_of_pairwise_before (h : items.Pairwise Before) : items.Nodup := by
  refine h.imp fun hij heq => ?_
  subst heq
  exact Before.irrefl _ hij

/-- **A list in this order is decided by its items.** -/
theorem eq_of_pairwise_before (h : items.Pairwise Before)
    (h' : items'.Pairwise Before) (hmem : ∀ item, item ∈ items ↔ item ∈ items') :
    items = items' :=
  ((List.perm_ext_iff_of_nodup (nodup_of_pairwise_before h) (nodup_of_pairwise_before h')).mpr
    hmem).eq_of_pairwise (fun _ _ _ _ hij hji => absurd hji (Before.asymm hij)) h h'

/-- An item that comes before another one in some order is listed before it. -/
theorem sublist_of_pairwise {r : BundleItem → BundleItem → Prop} (hirrefl : ∀ i, ¬r i i)
    (hasymm : ∀ {i j}, r i j → ¬r j i) (h : items.Pairwise r) (hi : i ∈ items) (hj : j ∈ items)
    (hij : r i j) : [i, j].Sublist items := by
  obtain ⟨before, after, rfl⟩ := List.append_of_mem hi
  obtain ⟨-, -, hbefore⟩ := List.pairwise_append.mp h
  rcases List.mem_append.mp hj with hj | hj
  · exact absurd (hbefore j hj i List.mem_cons_self) (hasymm hij)
  · rcases List.mem_cons.mp hj with rfl | hj
    · exact absurd hij (hirrefl j)
    · exact ((List.singleton_sublist.mpr hj).cons_cons i).trans (List.sublist_append_right _ _)

/-- An item that comes before another one is listed before it. -/
theorem sublist_of_before (h : items.Pairwise Before) (hi : i ∈ items) (hj : j ∈ items)
    (hij : i.Before j) : [i, j].Sublist items :=
  sublist_of_pairwise Before.irrefl Before.asymm h hi hj hij

end BundleItem

namespace MemoryBundle

variable {b : MemoryBundle} {path dir q : String} {octets : Bytes}

/-! ### Paths above a path -/

/-- A path that another one continues behind a slash. -/
def IsAncestor (dir path : String) : Prop :=
  ∃ rest, path = dir ++ "/" ++ rest

theorem mem_ancestors_go {done text : List Char} : q ∈ ancestors.go done text ↔
    ∃ a rest, text = a ++ '/' :: rest ∧ q = String.ofList (done.reverse ++ a) := by
  induction text generalizing done with
  | nil => simp [ancestors.go]
  | cons c text ih =>
    have hgo : q ∈ ancestors.go (c :: done) text ↔
        ∃ a rest, c :: text = c :: a ++ '/' :: rest ∧
          q = String.ofList (done.reverse ++ c :: a) := by
      rw [ih]
      simp
    rw [ancestors.go]
    constructor
    · intro h
      split_ifs at h with hc
      · rcases List.mem_cons.mp h with rfl | h
        · exact ⟨[], text, by rw [hc, List.nil_append], by rw [List.append_nil]⟩
        · obtain ⟨a, rest, htext, hq⟩ := hgo.mp h
          exact ⟨c :: a, rest, htext, hq⟩
      · obtain ⟨a, rest, htext, hq⟩ := hgo.mp h
        exact ⟨c :: a, rest, htext, hq⟩
    · rintro ⟨a, rest, htext, rfl⟩
      cases a with
      | nil =>
        rw [if_pos (List.cons.inj htext).1, List.append_nil]
        exact List.mem_cons_self
      | cons d a =>
        obtain rfl : c = d := (List.cons.inj htext).1
        have hmem := hgo.mpr ⟨a, rest, htext, rfl⟩
        split_ifs
        · exact List.mem_cons_of_mem _ hmem
        · exact hmem

/-- **Every path above a path is registered**, and nothing else. -/
theorem mem_ancestors_iff : dir ∈ ancestors path ↔ IsAncestor dir path := by
  rw [ancestors, mem_ancestors_go]
  constructor
  · rintro ⟨a, rest, htext, rfl⟩
    exact ⟨String.ofList rest, by simp [← String.toList_inj, htext]⟩
  · rintro ⟨rest, rfl⟩
    exact ⟨dir.toList, rest.toList, by simp, by simp⟩

/-- What is above a path has smaller octets. -/
theorem IsAncestor.encode_lt (h : IsAncestor dir path) : Utf8.encode dir < Utf8.encode path := by
  obtain ⟨rest, rfl⟩ := h
  rw [Utf8.encode_lt_encode_iff, String.lt_iff_toList_lt, String.append_assoc, String.toList_append,
    String.toList_append]
  have hrest : dir.toList ++ [] < dir.toList ++ '/' :: rest.toList :=
    List.append_left_lt (List.nil_lt_cons '/' rest.toList)
  rwa [List.append_nil] at hrest

/-! ### The order of a walk -/

theorem mem_walk_directory : ⟨path, true⟩ ∈ b.walk ↔ path ∈ b.dirs := by
  rw [walk, List.mem_mergeSort]
  simp

/-- The files that are listed are those that have contents. -/
theorem mem_walk_file : ⟨path, false⟩ ∈ b.walk ↔
    ∃ octets, b.files.lookup path = some octets := by
  have hkeys : ⟨path, false⟩ ∈ b.walk ↔ path ∈ b.files.map (·.1) := by
    rw [walk, List.mem_mergeSort]
    simp
  rw [hkeys, ← Option.isSome_iff_exists, List.lookup_isSome_iff, List.mem_map]
  simp only [beq_iff_eq]
  exact exists_congr fun f => and_congr_right fun _ => eq_comm

theorem nodup_eraseDups (l : List String) : l.eraseDups.Nodup := by
  induction hlength : l.length using Nat.strongRecOn generalizing l with
  | ind n ih =>
    cases l with
    | nil => simp
    | cons first rest =>
      rw [List.eraseDups_cons, List.nodup_cons]
      refine ⟨by simp, ih _ ?_ _ rfl⟩
      have hle := List.length_filter_le (fun path => !path == first) rest
      rw [List.length_cons] at hlength
      omega

section Sorting

variable {α : Type} {key : α → String}

private theorem key_le_trans (a b c : α) (hab : decide (key a ≤ key b) = true)
    (hbc : decide (key b ≤ key c) = true) : decide (key a ≤ key c) = true :=
  decide_eq_true ((of_decide_eq_true hab).trans (of_decide_eq_true hbc))

private theorem key_le_total (a b : α) :
    (decide (key a ≤ key b) || decide (key b ≤ key a)) = true := by
  simpa using le_total (key a) (key b)

/-- Sorting by a text leaves the elements with the same text in their order. -/
theorem filter_mergeSort (k : String) (l : List α) :
    (l.mergeSort fun a b => decide (key a ≤ key b)).filter (key · = k) = l.filter (key · = k) := by
  have hsame : (l.filter (key · = k)).Pairwise fun a b => decide (key a ≤ key b) = true := by
    refine List.pairwise_of_forall_mem_list fun a ha b hb => ?_
    have ha := (List.mem_filter.mp ha).2
    have hb := (List.mem_filter.mp hb).2
    simp_all
  have hsorted := List.sublist_mergeSort key_le_trans key_le_total hsame List.filter_sublist
  have hsub := hsorted.filter (key · = k)
  rw [List.filter_filter] at hsub
  simp only [Bool.and_self] at hsub
  exact (hsub.eq_of_length ((List.mergeSort_perm _ _).filter _).length_eq.symm).symm

/-- **Sorting by a text**: what stands before in the result has a smaller text, or it has the same
text and stood before. -/
theorem pairwise_mergeSort_key {r : α → α → Prop} {l : List α}
    (h : l.Pairwise fun a b => key a = key b → r a b) :
    (l.mergeSort fun a b => decide (key a ≤ key b)).Pairwise fun a b =>
      key a < key b ∨ key a = key b ∧ r a b := by
  have hsorted : (l.mergeSort fun a b => decide (key a ≤ key b)).Pairwise fun a b =>
      decide (key a ≤ key b) = true := List.pairwise_mergeSort key_le_trans key_le_total l
  rw [List.pairwise_iff_forall_sublist] at hsorted h ⊢
  intro a b hab
  rcases lt_or_eq_of_le (of_decide_eq_true (hsorted hab)) with hlt | heq
  · exact Or.inl hlt
  · have hfilter := hab.filter (key · = key b)
    rw [filter_mergeSort] at hfilter
    simp only [heq, List.filter_cons, decide_true, if_true, List.filter_nil] at hfilter
    exact Or.inr ⟨heq, h (hfilter.trans List.filter_sublist) heq⟩

end Sorting

/-- **A walk is in order**: sorting leaves the directory of a path before the file of this path. -/
theorem pairwise_walk (h : (b.files.map (·.1)).Nodup) : b.walk.Pairwise BundleItem.Before := by
  have hkind : (b.dirs.eraseDups.map (fun path => BundleItem.mk path true) ++
      b.files.map fun f => BundleItem.mk f.1 false).Pairwise fun i j =>
        i.path = j.path → i.isDir = true ∧ j.isDir = false := by
    refine List.pairwise_append.mpr ⟨?_, ?_, ?_⟩
    · exact List.pairwise_map.mpr ((nodup_eraseDups b.dirs).imp fun hne heq => absurd heq hne)
    · exact List.pairwise_map.mpr ((List.pairwise_map.mp h).imp fun hne heq => absurd heq hne)
    · intro i hi j hj _
      obtain ⟨-, -, rfl⟩ := List.mem_map.mp hi
      obtain ⟨-, -, rfl⟩ := List.mem_map.mp hj
      exact ⟨rfl, rfl⟩
  refine (pairwise_mergeSort_key hkind).imp fun hij => ?_
  rwa [BundleItem.Before, Utf8.encode_lt_encode_iff]

/-! ### Additions -/

/-- An addition of a file or of a directory to a bundle. -/
inductive Addition where
  | file (path : String) (octets : Bytes)
  | directory (path : String)
deriving DecidableEq, Repr

namespace Addition

/-- The contents that an addition gives to the file at a path. -/
def octetsAt? (path : String) : Addition → Option Bytes
  | .file added octets => if trimSlashes added = path then some octets else none
  | .directory _ => none

/-- True for an addition of a file at a path. -/
def isFileAt (path : String) (a : Addition) : Bool :=
  (a.octetsAt? path).isSome

/-- An addition that makes a path a directory: it adds this directory, or a file below it. -/
def HasDirectory (dir : String) : Addition → Prop
  | .file added _ => IsAncestor dir (trimSlashes added)
  | .directory added => trimSlashes added = dir

end Addition

variable {a : Addition} {additions others : List Addition}

/-- The bundle with one more addition. -/
def add (b : MemoryBundle) : Addition → MemoryBundle
  | .file path octets => b.addFile path octets
  | .directory path => b.addDir path

/-- The bundle that additions build one after the other. -/
def build (additions : List Addition) : MemoryBundle :=
  additions.foldl add {}

theorem lookup_addFile (b : MemoryBundle) (path : String) (octets : Bytes) (q : String) :
    (b.addFile path octets).files.lookup q =
      if q = trimSlashes path then some octets else b.files.lookup q := by
  have hfilter : ∀ l : List (String × Bytes), q ≠ trimSlashes path →
      (l.filter (·.1 != trimSlashes path)).lookup q = l.lookup q := by
    intro l hq
    induction l with
    | nil => rfl
    | cons p rest ih =>
      by_cases hp : p.1 = trimSlashes path
      · have hne : (q == p.1) = false := by simpa [hp] using hq
        rw [List.filter_cons_of_neg (by simpa using hp), ih, List.lookup_cons, hne]
      · rw [List.filter_cons_of_pos (by simpa using hp), List.lookup_cons, List.lookup_cons, ih]
  rw [addFile]
  dsimp only
  rw [List.lookup_cons]
  split_ifs with hq
  · simp [hq]
  · have hne : (q == trimSlashes path) = false := by simpa using hq
    rw [hne]
    exact hfilter b.files hq

/-- A bundle that **holds** additions: each file has the contents of the last addition at its path,
and the directories are the added ones and all above the files. -/
structure Holds (b : MemoryBundle) (additions : List Addition) : Prop where
  lookup : ∀ path, b.files.lookup path = additions.reverse.findSome? (·.octetsAt? path)
  nodup : (b.files.map (·.1)).Nodup
  directory : ∀ dir, dir ∈ b.dirs ↔ ∃ a ∈ additions, a.HasDirectory dir

/-- One more addition. -/
theorem Holds.add (h : Holds b additions) (a : Addition) : Holds (b.add a) (additions ++ [a]) := by
  have hdirectory : ∀ dir, (∃ c ∈ additions ++ [a], c.HasDirectory dir) ↔
      a.HasDirectory dir ∨ dir ∈ b.dirs := by
    intro dir
    rw [h.directory]
    simp [or_and_right, exists_or, or_comm]
  cases a with
  | file path octets =>
    refine ⟨fun q => ?_, ?_, fun dir => ?_⟩
    · rw [MemoryBundle.add, lookup_addFile, h.lookup, List.reverse_append, List.reverse_singleton,
        List.singleton_append, List.findSome?_cons, Addition.octetsAt?]
      by_cases hq : trimSlashes path = q
      · rw [if_pos hq.symm, if_pos hq]
      · rw [if_neg (Ne.symm hq), if_neg hq]
    · rw [MemoryBundle.add, addFile, List.map_cons, List.nodup_cons]
      exact ⟨by simp, h.nodup.sublist (List.filter_sublist.map _)⟩
    · rw [hdirectory, MemoryBundle.add, addFile, List.mem_append, mem_ancestors_iff,
        Addition.HasDirectory]
  | directory path =>
    refine ⟨fun q => ?_, h.nodup, fun dir => ?_⟩
    · rw [MemoryBundle.add, addDir, h.lookup, List.reverse_append, List.reverse_singleton,
        List.singleton_append, List.findSome?_cons, Addition.octetsAt?]
    · rw [hdirectory, MemoryBundle.add, addDir, List.mem_cons, Addition.HasDirectory, eq_comm]

/-- **What additions build holds them.** -/
theorem holds_build (additions : List Addition) : Holds (build additions) additions := by
  induction additions using List.reverseRecOn with
  | nil => exact ⟨fun _ => rfl, List.nodup_nil, by simp [build]⟩
  | append_singleton additions a ih =>
    rw [build, List.foldl_append]
    exact ih.add a

/-! ### What is built -/

theorem read_eq_ok_iff : b.read path = .ok octets ↔ b.files.lookup path = some octets := by
  rw [read]
  cases b.files.lookup path <;> simp

theorem read_eq_error (h : b.files.lookup path = none) :
    b.read path = .error (.file path .notInBundle) := by
  rw [read, h]

/-- The last addition that gives a file its contents. -/
theorem findSome?_octetsAt?_eq_some_iff :
    additions.reverse.findSome? (·.octetsAt? path) = some octets ↔
      ∃ before added after, additions = before ++ .file added octets :: after ∧
        trimSlashes added = path ∧ ∀ a ∈ after, a.isFileAt path = false := by
  have hgives : ∀ a : Addition, a.octetsAt? path = some octets ↔
      ∃ added, a = .file added octets ∧ trimSlashes added = path := by
    rintro (⟨added, octets'⟩ | added)
    · simp [Addition.octetsAt?, and_comm]
    · simp [Addition.octetsAt?]
  have hnone : ∀ a : Addition, a.octetsAt? path = none ↔ a.isFileAt path = false := by
    intro a
    rw [Addition.isFileAt, Option.isSome_eq_false_iff, Option.isNone_iff_eq_none]
  rw [List.findSome?_eq_some_iff]
  constructor
  · rintro ⟨after, a, before, hsplit, ha, hafter⟩
    obtain ⟨added, rfl, hadded⟩ := (hgives a).mp ha
    refine ⟨before.reverse, added, after.reverse, ?_, hadded, fun c hc => ?_⟩
    · rw [← List.reverse_reverse additions, hsplit]
      simp
    · exact (hnone c).mp (hafter c (List.mem_reverse.mp hc))
  · rintro ⟨before, added, after, rfl, hadded, hafter⟩
    refine ⟨after.reverse, .file added octets, before.reverse, by simp,
      (hgives _).mpr ⟨added, rfl, hadded⟩, fun c hc => ?_⟩
    exact (hnone c).mpr (hafter c (List.mem_reverse.mp hc))

/-- Only additions of files at a path decide its contents, by their order. -/
theorem findSome?_octetsAt?_congr
    (h : others.filter (·.isFileAt path) = additions.filter (·.isFileAt path)) :
    others.reverse.findSome? (·.octetsAt? path) =
      additions.reverse.findSome? (·.octetsAt? path) := by
  have hfilter : ∀ l : List Addition, l.filterMap (·.octetsAt? path) =
      (l.filter (·.isFileAt path)).filterMap (·.octetsAt? path) := by
    intro l
    rw [List.filterMap_filter]
    refine List.filterMap_congr fun a _ => ?_
    cases hoctets : a.octetsAt? path <;> simp [Addition.isFileAt, hoctets]
  rw [← List.getLast?_filterMap, ← List.getLast?_filterMap, hfilter others, h, ← hfilter]

/-- The files that are listed are those that were added. -/
theorem mem_walk_build_file : ⟨path, false⟩ ∈ (build additions).walk ↔
    ∃ added octets, .file added octets ∈ additions ∧ trimSlashes added = path := by
  rw [mem_walk_file, (holds_build additions).lookup, ← Option.isSome_iff_exists,
    List.findSome?_isSome_iff]
  simp only [List.mem_reverse]
  constructor
  · rintro ⟨⟨added, octets⟩ | added, hmem, hsome⟩
    · refine ⟨added, octets, hmem, ?_⟩
      by_contra hne
      simp [Addition.octetsAt?, hne] at hsome
    · simp [Addition.octetsAt?] at hsome
  · rintro ⟨added, octets, hmem, rfl⟩
    exact ⟨_, hmem, by simp [Addition.octetsAt?]⟩

/-- The directories that are listed are those that were added and all above an added file. -/
theorem mem_walk_build_directory : ⟨dir, true⟩ ∈ (build additions).walk ↔
    (∃ added, .directory added ∈ additions ∧ trimSlashes added = dir) ∨
      ∃ added octets, .file added octets ∈ additions ∧ IsAncestor dir (trimSlashes added) := by
  rw [mem_walk_directory, (holds_build additions).directory]
  constructor
  · rintro ⟨⟨added, octets⟩ | added, hmem, hdir⟩
    · exact Or.inr ⟨added, octets, hmem, hdir⟩
    · exact Or.inl ⟨added, hmem, hdir⟩
  · rintro (⟨added, hmem, hdir⟩ | ⟨added, octets, hmem, hdir⟩)
    · exact ⟨_, hmem, hdir⟩
    · exact ⟨_, hmem, hdir⟩

theorem pairwise_walk_build (additions : List Addition) :
    (build additions).walk.Pairwise BundleItem.Before :=
  pairwise_walk (holds_build additions).nodup

/-- **The order of additions** matters only among those of files at one path. -/
theorem build_congr (hperm : others.Perm additions)
    (hfiles : ∀ path, others.filter (·.isFileAt path) = additions.filter (·.isFileAt path)) :
    (build others).walk = (build additions).walk ∧
      ∀ path, (build others).read path = (build additions).read path := by
  constructor
  · refine BundleItem.eq_of_pairwise_before (pairwise_walk_build _) (pairwise_walk_build _) ?_
    rintro ⟨path, isDir⟩
    cases isDir with
    | false => simp only [mem_walk_build_file, hperm.mem_iff]
    | true => simp only [mem_walk_build_directory, hperm.mem_iff]
  · intro path
    rw [read, read, (holds_build others).lookup, (holds_build additions).lookup,
      findSome?_octetsAt?_congr (hfiles path)]

/-- **A bundle lists and reads what was added.** Whatever the additions, a walk lists the items in
the order of the octets of their paths, each once, and a directory before a file of the same path:
all added files, and as directories the added ones and all above an added file, each of them before
the file. Exactly the listed files are read, with the contents of the last addition at their path.
And the order of the additions does not matter, except among those of files at the same path. -/
theorem build_lists_and_reads (additions : List Addition) :
    (build additions).walk.Pairwise BundleItem.Before ∧ (build additions).walk.Nodup ∧
    (∀ path, ⟨path, false⟩ ∈ (build additions).walk ↔
      ∃ added octets, .file added octets ∈ additions ∧ trimSlashes added = path) ∧
    (∀ dir, ⟨dir, true⟩ ∈ (build additions).walk ↔
      (∃ added, .directory added ∈ additions ∧ trimSlashes added = dir) ∨
        ∃ added octets, .file added octets ∈ additions ∧ IsAncestor dir (trimSlashes added)) ∧
    (∀ path dir, ⟨path, false⟩ ∈ (build additions).walk → IsAncestor dir path →
      [⟨dir, true⟩, ⟨path, false⟩].Sublist (build additions).walk) ∧
    (∀ path octets, (build additions).read path = .ok octets ↔
      ∃ before added after, additions = before ++ .file added octets :: after ∧
        trimSlashes added = path ∧ ∀ a ∈ after, a.isFileAt path = false) ∧
    (∀ path, (∃ octets, (build additions).read path = .ok octets) ↔
      ⟨path, false⟩ ∈ (build additions).walk) ∧
    (∀ path, ⟨path, false⟩ ∉ (build additions).walk →
      (build additions).read path = .error (.file path .notInBundle)) ∧
    ∀ others : List Addition, others.Perm additions →
      (∀ path, others.filter (·.isFileAt path) = additions.filter (·.isFileAt path)) →
        (build others).walk = (build additions).walk ∧
          ∀ path, (build others).read path = (build additions).read path := by
  have hbefore := pairwise_walk_build additions
  refine ⟨hbefore, BundleItem.nodup_of_pairwise_before hbefore, fun _ => mem_walk_build_file,
    fun _ => mem_walk_build_directory, fun path dir hpath habove => ?_, fun path octets => ?_,
    fun path => ?_, fun path hpath => ?_, fun others => build_congr⟩
  · obtain ⟨added, octets, hmem, rfl⟩ := mem_walk_build_file.mp hpath
    have hdir := mem_walk_build_directory.mpr (Or.inr ⟨added, octets, hmem, habove⟩)
    exact BundleItem.sublist_of_before hbefore hdir hpath (Or.inl habove.encode_lt)
  · rw [read_eq_ok_iff, (holds_build additions).lookup, findSome?_octetsAt?_eq_some_iff]
  · simp only [read_eq_ok_iff, mem_walk_file]
  · refine read_eq_error (Option.eq_none_iff_forall_ne_some.mpr fun octets hoctets => hpath ?_)
    exact mem_walk_file.mpr ⟨octets, hoctets⟩

/-- One file under two spellings of its path, with a directory added between them: what stands
before the second of two slashes is a directory, a file is read by its path without slashes at the
ends, and the directory may as well be added first. -/
theorem build_lists_and_reads_two_spellings :
    [⟨"a/", true⟩, ⟨"a//é", false⟩].Sublist
        (build [.file "/a//é" [1], .directory "b/", .file "a//é/" [2]]).walk ∧
      (build [.file "/a//é" [1], .directory "b/", .file "a//é/" [2]]).read "a//é" = .ok [2] ∧
      (build [.file "/a//é" [1], .directory "b/", .file "a//é/" [2]]).read "/a//é" =
        .error (.file "/a//é" .notInBundle) ∧
      (build [.directory "b/", .file "/a//é" [1], .file "a//é/" [2]]).walk =
        (build [.file "/a//é" [1], .directory "b/", .file "a//é/" [2]]).walk := by
  obtain ⟨-, -, hfile, -, habove, hread, -, herror, horder⟩ :=
    build_lists_and_reads [.file "/a//é" [1], .directory "b/", .file "a//é/" [2]]
  refine ⟨habove _ _ ((hfile _).mpr ⟨"/a//é", [1], by simp, by decide⟩) ⟨"é", by decide⟩,
    (hread _ _).mpr
      ⟨[.file "/a//é" [1], .directory "b/"], "a//é/", [], rfl, by decide, by simp⟩,
    herror _ ?_, (horder _ (by decide) fun path => ?_).1⟩
  · rw [hfile]
    rintro ⟨added, octets, hmem, hpath⟩
    have hcases : added = "/a//é" ∨ added = "a//é/" := by
      simp only [List.mem_cons, List.not_mem_nil, or_false, reduceCtorEq, false_or,
        Addition.file.injEq] at hmem
      exact hmem.imp And.left And.left
    rcases hcases with rfl | rfl
    · exact absurd hpath (by decide)
    · exact absurd hpath (by decide)
  · simp [List.filter_cons, Addition.isFileAt, Addition.octetsAt?]

end MemoryBundle

end SiteSnapshot
