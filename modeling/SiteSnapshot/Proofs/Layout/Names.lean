import Mathlib.Data.List.Infix
import SiteSnapshot.FileTree.Resolve
import SiteSnapshot.Layout.MapPath

/-!
# Names in paths

URL paths and file paths are both read as the names between their slashes, and the layout of
the output moves names from one to the other. Here is the algebra of that reading:

* the segments of a URL path and the names of a file path are the same thing
  (`segments_eq_namesOf`), a slash between two paths puts their names one after the other
  (`namesOf_append_slash`), and names written with slashes are read back
  (`namesOf_intercalate`);
* the last name of a path decides its extension: a dot behind its first character
  (`isSome_nameExtension?_iff`);
* `mapPath_eq_intercalate` puts these together: the file of a page has the segments of the page
  as its names, and one more name unless the page keeps its own (`pageNames`).

Names are **plain** if they are no steps, so neither `.` nor `..`.
-/

namespace SiteSnapshot

open FileTree

/-- A part of a path between slashes. -/
def IsName (s : String) : Prop :=
  s ≠ "" ∧ '/' ∉ s.toList

/-- A name that is no step to the place itself or upwards. -/
def IsPlain (s : String) : Prop :=
  s ≠ "." ∧ s ≠ ".."

instance (s : String) : Decidable (IsName s) :=
  inferInstanceAs (Decidable (_ ∧ _))

instance (s : String) : Decidable (IsPlain s) :=
  inferInstanceAs (Decidable (_ ∧ _))

/-! ### Splitting and joining -/

/-- Both ways to split at slashes agree. -/
theorem splitSlash_eq_splitOn (text : List Char) :
    UrlPath.splitSlash text = text.splitOn '/' := by
  induction text with
  | nil => rfl
  | cons c rest ih =>
    rw [UrlPath.splitSlash, List.splitOn_cons_eq_if_modifyHead, ih]
    by_cases hc : c = '/'
    · simp [hc]
    · obtain ⟨part, parts, hparts⟩ := List.exists_cons_of_ne_nil (List.splitOn_ne_nil '/' rest)
      simp [hc, hparts]

/-- No part holds what was split at. -/
theorem notMem_of_mem_splitOn {a : Char} {text part : List Char} (h : part ∈ text.splitOn a) :
    a ∉ part := by
  induction text generalizing part with
  | nil =>
    rw [List.splitOn_nil, List.mem_singleton] at h
    rw [h]
    exact List.not_mem_nil
  | cons c rest ih =>
    rw [List.splitOn_cons_eq_if_modifyHead] at h
    split_ifs at h with hc
    · rcases List.mem_cons.mp h with rfl | h
      · exact List.not_mem_nil
      · exact ih h
    · obtain ⟨first, more, hparts⟩ := List.exists_cons_of_ne_nil (List.splitOn_ne_nil a rest)
      rw [hparts] at ih h
      rcases List.mem_cons.mp h with rfl | h
      · rw [List.mem_cons, not_or]
        exact ⟨fun heq => hc (by simp [heq]), ih List.mem_cons_self⟩
      · exact ih (List.mem_cons_of_mem first h)

/-- **Segments are names.** -/
theorem segments_eq_namesOf (path : String) : UrlPath.segments path = namesOf path := by
  rw [UrlPath.segments, namesOf, splitSlash_eq_splitOn]

@[simp]
theorem namesOf_empty : namesOf "" = [] := by decide

/-- A slash ends what stands before it. -/
theorem namesOf_append_slash (a b : String) :
    namesOf (a ++ "/" ++ b) = namesOf a ++ namesOf b := by
  have htext : (a ++ "/" ++ b).toList = a.toList ++ '/' :: b.toList := by simp
  rw [namesOf, htext, List.splitOn_append_cons_self, List.filter_append, List.map_append]
  rfl

theorem namesOf_slash_append (a : String) : namesOf ("/" ++ a) = namesOf a := by
  have h := namesOf_append_slash "" a
  simpa using h

theorem namesOf_append_slash_self (a : String) : namesOf (a ++ "/") = namesOf a := by
  have h := namesOf_append_slash a ""
  simpa using h

/-- A name has itself as its only name. -/
theorem namesOf_of_isName {s : String} (h : IsName s) : namesOf s = [s] := by
  have hne : s.toList ≠ [] := by simpa using h.1
  rw [namesOf, List.splitOn_eq_singleton h.2]
  simp [hne]

/-- Names written with slashes are read back. -/
theorem namesOf_intercalate {names : List String} (h : ∀ s ∈ names, IsName s) :
    namesOf ("/".intercalate names) = names := by
  induction names with
  | nil => simp
  | cons s rest ih =>
    obtain ⟨hs, hrest⟩ := List.forall_mem_cons.mp h
    by_cases hnil : rest = []
    · rw [hnil, String.intercalate_singleton, namesOf_of_isName hs]
    · rw [String.intercalate_cons_of_ne_nil hnil, namesOf_append_slash, namesOf_of_isName hs,
        ih hrest, List.singleton_append]

/-- What is read from a path are names. -/
theorem isName_of_mem_namesOf {path s : String} (h : s ∈ namesOf path) : IsName s := by
  simp only [namesOf, List.mem_map, List.mem_filter] at h
  obtain ⟨part, ⟨hpart, hne⟩, rfl⟩ := h
  refine ⟨by simpa using hne, ?_⟩
  rw [String.toList_ofList]
  exact notMem_of_mem_splitOn hpart

/-- A path has no more names than characters, and one. -/
theorem length_namesOf_le (path : FilePath) : (namesOf path).length ≤ path.length + 1 := by
  have hsplit : ∀ text, (UrlPath.splitSlash text).length ≤ text.length + 1 := by
    intro text
    induction text with
    | nil => simp [UrlPath.splitSlash]
    | cons c rest ih =>
      rw [UrlPath.splitSlash]
      split_ifs
      · simpa using ih
      · split
        · simp
        · next hparts =>
          rw [hparts] at ih
          simp only [List.length_cons] at ih ⊢
          omega
  rw [← segments_eq_namesOf, UrlPath.segments, List.length_map, ← String.length_toList]
  exact (List.length_filter_le _ _).trans (hsplit path.toList)

/-! ### The last name -/

namespace FilePath

/-- A reversed text that ends with a name is trimmed already. -/
theorem trimEnd_reverse_append {name : String} (hname : IsName name) (hdot : name ≠ ".")
    (rest : List Char) :
    trimEnd (name.toList.reverse ++ rest) = name.toList.reverse ++ rest := by
  have hslash : '/' ∉ name.toList.reverse := by simpa using hname.2
  have hne : name.toList.reverse ≠ ['.'] := fun h => hdot (by
    rw [← String.toList_inj, ← List.reverse_inj]
    exact h)
  obtain ⟨c, cs, hcs⟩ := List.exists_cons_of_ne_nil
    (show name.toList.reverse ≠ [] by simpa using hname.1)
  rw [hcs] at hslash hne ⊢
  rw [List.mem_cons, not_or] at hslash
  -- a dot at the end is only part of a longer name
  have hlonger : c = '.' → ∀ l, cs ++ rest ≠ '/' :: l := by
    intro hc l hl
    cases cs with
    | nil => exact hne (by rw [hc])
    | cons d ds => exact hslash.2 (by rw [(List.cons.inj hl).1]; exact List.mem_cons_self)
  rw [List.cons_append, trimEnd.eq_def]
  split
  · next h => exact absurd h (by simp)
  · next h => exact absurd (List.cons.inj h).1.symm hslash.1
  · next h => exact absurd (List.cons.inj h).1.symm hslash.1
  · next h => exact absurd (List.cons.inj h).2 (hlonger (List.cons.inj h).1 _)
  · next h => exact absurd (List.cons.inj h).2 (hlonger (List.cons.inj h).1 _)
  · rfl

/-- A path without the slashes and dots that end it. -/
def trimmed (path : FilePath) : FilePath :=
  String.ofList (trimEnd ('/' :: path.toList.reverse)).reverse

/-- A path that ends with a name is trimmed already. -/
theorem trimmed_append {name : String} (hname : IsName name) (hdot : name ≠ ".")
    (path : FilePath) : trimmed (path ++ name) = path ++ name := by
  have htrim := trimEnd_reverse_append hname hdot path.toList.reverse
  obtain ⟨c, cs, hcs⟩ := List.exists_cons_of_ne_nil
    (show name.toList.reverse ++ path.toList.reverse ≠ [] by simp [hname.1])
  -- the slash that `trimmed` puts in front is the first thing that is trimmed
  have hslash : trimEnd ('/' :: (name.toList.reverse ++ path.toList.reverse)) =
      trimEnd (name.toList.reverse ++ path.toList.reverse) := by
    rw [hcs, trimEnd]
    simp
  rw [trimmed, String.toList_append, List.reverse_append, hslash, htrim]
  simp

/-- Read backwards, a name goes up to the first slash. -/
private theorem takeWhile_reverse_append {name : String} (hname : IsName name)
    (rest : List Char) :
    (name.toList.reverse ++ rest).takeWhile (· != '/') =
      name.toList.reverse ++ rest.takeWhile (· != '/') := by
  refine List.takeWhile_append_of_pos fun c hc => ?_
  rw [List.mem_reverse] at hc
  rw [bne_iff_ne]
  rintro rfl
  exact hname.2 hc

/-- The parts of a path that ends with a name behind a slash. -/
theorem splitLast_append {name : String} (hname : IsName name) (hdot : name ≠ ".")
    (path : FilePath) : splitLast (path ++ "/" ++ name) = some (trimmed path, name) := by
  have htext : (path ++ "/" ++ name).toList.reverse =
      name.toList.reverse ++ '/' :: path.toList.reverse := by simp
  have htake := takeWhile_reverse_append hname ('/' :: path.toList.reverse)
  rw [List.takeWhile_cons_of_neg (by simp), List.append_nil] at htake
  rw [splitLast, htext, trimEnd_reverse_append hname hdot]
  simp only [htake]
  rw [if_neg (by simpa using hname.1)]
  simp [trimmed]

/-- The parts of a path that is a name. -/
theorem splitLast_of_isName {name : String} (hname : IsName name) (hdot : name ≠ ".") :
    splitLast name = some ("", name) := by
  have htrim := trimEnd_reverse_append hname hdot []
  have htake := takeWhile_reverse_append hname []
  rw [List.takeWhile_nil, List.append_nil] at htake
  rw [List.append_nil] at htrim
  rw [splitLast, htrim]
  simp only [htake]
  rw [if_neg (by simpa using hname.1), List.drop_length]
  simp [trimEnd]

/-- A name has an extension if there is a dot behind its first character. -/
theorem isSome_nameExtension?_iff {name : String} (hdots : name ≠ "..") :
    (nameExtension? name).isSome ↔ '.' ∈ name.toList.tail := by
  rw [nameExtension?]
  cases hname : name.toList with
  | nil => simp
  | cons c tl =>
    simp only [List.reverse_cons, hdots, false_or, List.length_append, List.length_reverse,
      List.length_singleton, List.tail_cons]
    have hkeep : ∀ l : List Char, '.' ∉ l → ∀ d ∈ l, (d != '.') = true := by
      intro l hl d hd
      rw [bne_iff_ne]
      rintro rfl
      exact hl hd
    by_cases hdot : '.' ∈ tl
    · -- the search from the end stops within the tail
      obtain ⟨as, bs, hsplit, has⟩ := List.eq_append_cons_of_mem (List.mem_reverse.mpr hdot)
      have hlen := congrArg List.length hsplit
      simp only [List.length_reverse, List.length_append, List.length_cons] at hlen
      rw [hsplit, List.append_assoc, List.takeWhile_append_of_pos (hkeep as has), List.cons_append,
        List.takeWhile_cons_of_neg (by simp), List.append_nil, if_neg (by omega)]
      simp [hdot]
    -- it comes to the first character, and a name that starts with its only dot has no extension
    · rw [List.takeWhile_append_of_pos (hkeep tl.reverse (by simpa using hdot))]
      simp [hdot]

/-- The extension of a path is that of its last name. -/
theorem extension?_append {name : String} (hname : IsName name) (hplain : IsPlain name)
    (path : FilePath) : extension? (path ++ "/" ++ name) = nameExtension? name := by
  rw [extension?, fileName?, splitLast_append hname hplain.1]
  simp [hplain.1, hplain.2]

/-- The extension of a path that is a name. -/
theorem extension?_of_isName {name : String} (hname : IsName name) (hplain : IsPlain name) :
    extension? name = nameExtension? name := by
  rw [extension?, fileName?, splitLast_of_isName hname hplain.1]
  simp [hplain.1, hplain.2]

/-! ### Joining paths -/

/-- A directory without a slash at its end. -/
def stem (dir : FilePath) : FilePath :=
  if dir.toList.getLast? = some '/' then String.ofList dir.toList.dropLast else dir

theorem stem_append_slash {dir : FilePath} (h : dir.toList.getLast? = some '/') :
    stem dir ++ "/" = dir := by
  have hne : dir.toList ≠ [] := by
    intro hnil
    simp [hnil] at h
  have hlast := List.dropLast_append_getLast hne
  rw [List.getLast?_eq_getLast_of_ne_nil hne, Option.some.injEq] at h
  rw [← String.toList_inj, stem, if_pos (by rw [List.getLast?_eq_getLast_of_ne_nil hne, h])]
  rw [h] at hlast
  simpa using hlast

/-- The names of a directory do not depend on a slash at its end. -/
theorem namesOf_stem (dir : FilePath) : namesOf (stem dir) = namesOf dir := by
  by_cases h : dir.toList.getLast? = some '/'
  · rw [← namesOf_append_slash_self (stem dir), stem_append_slash h]
  · rw [stem, if_neg h]

/-- Names written with slashes are a relative path. -/
theorem isAbsolute_intercalate {names : List String} (h : ∀ s ∈ names, IsName s) :
    isAbsolute ("/".intercalate names) = false := by
  cases names with
  | nil => simp [isAbsolute]
  | cons name rest =>
    obtain ⟨hname, -⟩ := List.forall_mem_cons.mp h
    obtain ⟨c, cs, hc⟩ := List.exists_cons_of_ne_nil
      (show name.toList ≠ [] by simpa using hname.1)
    have hslash : c ≠ '/' := fun h => hname.2 (by rw [hc, h]; exact List.mem_cons_self)
    cases rest <;> simp [isAbsolute, String.toList_intercalate, hc, hslash]

/-- A relative path below a directory. -/
theorem join_eq {dir path : FilePath} (hdir : dir ≠ "") (hpath : isAbsolute path = false) :
    join dir path = stem dir ++ "/" ++ path := by
  have hempty : dir.isEmpty = false := by simpa using hdir
  rw [join, if_neg (by simp [hpath]), hempty, Bool.false_or]
  by_cases h : dir.toList.getLast? = some '/'
  · rw [if_pos (by simpa using h), stem_append_slash h]
  · rw [if_neg (by simpa using h), stem, if_neg h]

/-- A path that ends with a name has no slash at its end. -/
theorem stem_append {name : String} (hname : IsName name) (path : FilePath) :
    stem (path ++ name) = path ++ name := by
  have hne : name.toList ≠ [] := by simpa using hname.1
  rw [stem, if_neg]
  rw [String.toList_append, List.getLast?_append_of_ne_nil _ hne]
  exact fun h => hname.2 (List.mem_of_getLast? h)

end FilePath

/-! ### The file of a page -/

/-- True for segments that end with a name that has an extension, so that the page is a file of
that name. -/
def keepsName (segments : List String) : Bool :=
  match segments.getLast? with
  | some name => decide ('.' ∈ name.toList.tail)
  | none => false

/-- The names of the file of a page with these segments. -/
def pageNames (segments : List String) : List String :=
  if keepsName segments then segments else segments ++ ["index.html"]

@[simp]
theorem keepsName_nil : keepsName [] = false := rfl

@[simp]
theorem keepsName_append_singleton (init : List String) (name : String) :
    keepsName (init ++ [name]) = decide ('.' ∈ name.toList.tail) := by
  simp [keepsName]

/-- The segments that keep no name are none, or those whose last name has no extension. -/
theorem keepsName_eq_false_iff {segments : List String}
    (h : ∀ s ∈ segments, IsName s ∧ IsPlain s) :
    keepsName segments = false ↔
      segments = [] ∨ ∃ init last, segments = init ++ [last] ∧ FilePath.extension? last = none := by
  rcases List.eq_nil_or_concat' segments with rfl | ⟨init, last, rfl⟩
  · simp
  · obtain ⟨hname, hplain⟩ := h last (by simp)
    have hextension : FilePath.extension? last = none ↔ '.' ∉ last.toList.tail := by
      rw [FilePath.extension?_of_isName hname hplain,
        ← FilePath.isSome_nameExtension?_iff hplain.2, Option.not_isSome_iff_eq_none]
    rw [keepsName_append_singleton, decide_eq_false_iff_not, ← hextension]
    constructor
    · exact fun hnone => Or.inr ⟨init, last, rfl, hnone⟩
    · rintro (hnil | ⟨init', last', heq, hnone⟩)
      · exact absurd hnil (by simp)
      · rwa [(List.append_inj' heq rfl).2 |> List.singleton_inj.mp]

/-- The normal form has the segments of the path. -/
@[simp]
theorem namesOf_normalize (path : String) : namesOf (UrlPath.normalize path) = namesOf path := by
  rw [UrlPath.normalize, segments_eq_namesOf, namesOf_slash_append,
    namesOf_intercalate fun _ => isName_of_mem_namesOf]

/-- The normal form is normal. -/
theorem UrlPath.normalize_normalize (path : String) :
    UrlPath.normalize (UrlPath.normalize path) = UrlPath.normalize path := by
  rw [UrlPath.normalize, segments_eq_namesOf, namesOf_normalize, UrlPath.normalize,
    segments_eq_namesOf]

/-- A normal path is decided by its segments. -/
theorem UrlPath.segments_inj {p q : String} (hp : UrlPath.normalize p = p)
    (hq : UrlPath.normalize q = q) : UrlPath.segments p = UrlPath.segments q ↔ p = q := by
  refine ⟨fun h => ?_, fun h => by rw [h]⟩
  rw [← hp, ← hq, UrlPath.normalize, UrlPath.normalize, h]

/-- Names written with slashes end with the last one. -/
theorem exists_intercalate_append (init : List String) (last : String) :
    ∃ before, "/".intercalate (init ++ [last]) = before ++ last ∧
      ∃ above, "/" ++ "/".intercalate (init ++ [last]) = above ++ "/" ++ last := by
  by_cases hinit : init = []
  · exact ⟨"", by simp [hinit], "", by simp [hinit]⟩
  · have h := String.intercalate_append_of_ne_nil (s := "/") hinit (List.cons_ne_nil last [])
    rw [String.intercalate_singleton] at h
    exact ⟨"/".intercalate init ++ "/", h, "/" ++ "/".intercalate init, by
      rw [h, ← String.append_assoc, ← String.append_assoc]⟩

/-- **The file of a page.** A page in normal form whose segments are no steps is written to the
file with its segments as names, or to `index.html` below them. -/
theorem mapPath_eq_intercalate {path : String} (hplain : ∀ s ∈ namesOf path, IsPlain s) :
    mapPath (UrlPath.normalize path) = "/".intercalate (pageNames (namesOf path)) := by
  have hnames : ∀ s ∈ namesOf path, IsName s := fun _ => isName_of_mem_namesOf
  rw [mapPath]
  simp only [segments_eq_namesOf, namesOf_normalize]
  rcases List.eq_nil_or_concat (namesOf path) with hnil | ⟨init, last, hlast⟩
  · simp [hnil, pageNames]
  · rw [List.concat_eq_append] at hlast
    rw [hlast] at hplain hnames
    have hmem : last ∈ init ++ [last] := by simp
    obtain ⟨before, hbefore, above, habove⟩ := exists_intercalate_append init last
    have hext : (FilePath.extension? (UrlPath.normalize path)).isSome ↔
        '.' ∈ last.toList.tail := by
      rw [UrlPath.normalize, segments_eq_namesOf, hlast, habove,
        FilePath.extension?_append (hnames last hmem) (hplain last hmem),
        FilePath.isSome_nameExtension?_iff (hplain last hmem).2]
    have hne : (init ++ [last]).isEmpty = false := by simp
    rw [hlast, hne, if_neg Bool.false_ne_true, pageNames, keepsName_append_singleton]
    by_cases hdot : '.' ∈ last.toList.tail
    · rw [if_pos (hext.mpr hdot), if_pos (decide_eq_true hdot)]
    · have hbelow : "/".intercalate (init ++ [last]) ≠ "" := by
        rw [hbefore]
        simp [(hnames last hmem).1]
      -- joining `index.html` puts one slash behind the segments, which end with none
      have hindex := String.intercalate_append_of_ne_nil (s := "/")
        (List.append_ne_nil_of_right_ne_nil init (List.cons_ne_nil last []))
        (List.cons_ne_nil "index.html" [])
      rw [if_neg (fun h => hdot (hext.mp h)), if_neg (by simpa using hdot),
        FilePath.join_eq hbelow (by decide), hindex, String.intercalate_singleton, hbefore,
        FilePath.stem_append (hnames last hmem)]

/-- The names of a page's file are names. -/
theorem isName_of_mem_pageNames {segments : List String} (h : ∀ s ∈ segments, IsName s) :
    ∀ s ∈ pageNames segments, IsName s := by
  intro s hs
  rw [pageNames] at hs
  split_ifs at hs
  · exact h s hs
  · rcases List.mem_append.mp hs with hs | hs
    · exact h s hs
    · rw [List.mem_singleton.mp hs]
      decide

/-- The names of the file of a page. -/
theorem namesOf_mapPath {path : String} (hplain : ∀ s ∈ namesOf path, IsPlain s) :
    namesOf (mapPath (UrlPath.normalize path)) = pageNames (namesOf path) := by
  rw [mapPath_eq_intercalate hplain,
    namesOf_intercalate (isName_of_mem_pageNames fun _ => isName_of_mem_namesOf)]

/-- The file of a page whose path is normal. -/
theorem mapPath_of_normalize_eq {path : String} (hnormal : UrlPath.normalize path = path)
    (hplain : ∀ s ∈ UrlPath.segments path, IsPlain s) :
    mapPath path = "/".intercalate (pageNames (UrlPath.segments path)) ∧
      namesOf (mapPath path) = pageNames (UrlPath.segments path) := by
  rw [segments_eq_namesOf] at hplain ⊢
  have hpath := mapPath_eq_intercalate hplain
  have hnames := namesOf_mapPath hplain
  rw [hnormal] at hpath hnames
  exact ⟨hpath, hnames⟩

end SiteSnapshot
