import SiteSnapshot.Proofs.Layout.Names

/-!
# Paths below a directory

The file of a page is joined to the output directory, and making its directory walks the result
upwards again. For plain names both directions are described by `FilePath.below`, the path that
joins names to a directory one by one:

* its names are those of the directory and the new ones (`namesOf_below`);
* a way down in one text is the way down name by name (`join_intercalate`);
* the directory of a joined name is the directory that it was joined to, with what ends it
  trimmed (`parent?_join`), and below the first name there is nothing to trim (`top_below`).
-/

namespace SiteSnapshot

open FileTree

namespace FilePath

/-- Names joined to a directory. -/
def below (dir : FilePath) (names : List String) : FilePath :=
  names.foldl join dir

@[simp]
theorem below_nil (dir : FilePath) : below dir [] = dir := rfl

theorem below_cons (dir : FilePath) (name : String) (rest : List String) :
    below dir (name :: rest) = below (join dir name) rest := rfl

theorem below_append (dir : FilePath) (names more : List String) :
    below dir (names ++ more) = below (below dir names) more :=
  List.foldl_append

theorem below_append_singleton (dir : FilePath) (names : List String) (name : String) :
    below dir (names ++ [name]) = join (below dir names) name :=
  List.foldl_append

/-- A name is a relative path. -/
theorem isAbsolute_of_isName {name : String} (hname : IsName name) : isAbsolute name = false := by
  have h := isAbsolute_intercalate (List.forall_mem_singleton.mpr hname)
  rwa [String.intercalate_singleton] at h

/-- What joining a name comes to as text. -/
theorem join_of_isName {name : String} (hname : IsName name) (dir : FilePath) :
    join dir name = if dir = "" then name else stem dir ++ "/" ++ name := by
  split_ifs with hdir
  · simp [hdir, join, isAbsolute_of_isName hname]
  · exact join_eq hdir (isAbsolute_of_isName hname)

/-- A joined path ends with its name. -/
theorem exists_join_eq_append {name : String} (hname : IsName name) (dir : FilePath) :
    ∃ before, join dir name = before ++ name := by
  rw [join_of_isName hname]
  split_ifs
  · exact ⟨"", by simp⟩
  · exact ⟨_, rfl⟩

theorem join_ne_empty {name : String} (hname : IsName name) (dir : FilePath) :
    join dir name ≠ "" := by
  obtain ⟨before, h⟩ := exists_join_eq_append hname dir
  rw [h]
  simp [hname.1]

theorem namesOf_join {name : String} (hname : IsName name) (dir : FilePath) :
    namesOf (join dir name) = namesOf dir ++ [name] := by
  rw [join_of_isName hname]
  split_ifs with hdir
  · rw [hdir, namesOf_empty, namesOf_of_isName hname, List.nil_append]
  · rw [namesOf_append_slash, namesOf_stem, namesOf_of_isName hname]

/-- Whether a path is absolute is decided by where it starts. -/
theorem isAbsolute_join {name : String} (hname : IsName name) (dir : FilePath) :
    isAbsolute (join dir name) = isAbsolute dir := by
  by_cases hdir : dir = ""
  · rw [join_of_isName hname, if_pos hdir, isAbsolute_of_isName hname, hdir]
    rfl
  · obtain ⟨c, cs, hc⟩ := List.exists_cons_of_ne_nil (show dir.toList ≠ [] by simpa using hdir)
    rw [join, if_neg (by simp [isAbsolute_of_isName hname])]
    split_ifs <;> simp [isAbsolute, hc]

theorem endsWithSlash_join {name : String} (hname : IsName name) (dir : FilePath) :
    endsWithSlash (join dir name) = false := by
  obtain ⟨before, h⟩ := exists_join_eq_append hname dir
  have hne : name.toList ≠ [] := by simpa using hname.1
  rw [h, endsWithSlash, beq_eq_false_iff_ne, String.toList_append,
    List.getLast?_append_of_ne_nil _ hne]
  exact fun h => hname.2 (List.mem_of_getLast? h)

/-- The names of a path below a directory. -/
theorem namesOf_below {names : List String} (h : ∀ s ∈ names, IsName s) (dir : FilePath) :
    namesOf (below dir names) = namesOf dir ++ names := by
  induction names generalizing dir with
  | nil => simp
  | cons name rest ih =>
    obtain ⟨hname, hrest⟩ := List.forall_mem_cons.mp h
    rw [below_cons, ih hrest, namesOf_join hname, List.append_assoc, List.singleton_append]

theorem isAbsolute_below {names : List String} (h : ∀ s ∈ names, IsName s) (dir : FilePath) :
    isAbsolute (below dir names) = isAbsolute dir := by
  induction names generalizing dir with
  | nil => rfl
  | cons name rest ih =>
    obtain ⟨hname, hrest⟩ := List.forall_mem_cons.mp h
    rw [below_cons, ih hrest, isAbsolute_join hname]

/-- A way down in one text leads where its names lead one by one. -/
theorem join_intercalate {names : List String} (h : ∀ s ∈ names, IsName s) (hne : names ≠ [])
    (dir : FilePath) : join dir ("/".intercalate names) = below dir names := by
  induction names generalizing dir with
  | nil => exact absurd rfl hne
  | cons name rest ih =>
    obtain ⟨hname, hrest⟩ := List.forall_mem_cons.mp h
    by_cases hnil : rest = []
    · rw [hnil, String.intercalate_singleton]
      rfl
    -- the rest is joined to `join dir name`, and the texts agree as nothing ends a joined name
    · have hrelative : isAbsolute (name ++ "/" ++ "/".intercalate rest) = false := by
        rw [← String.intercalate_cons_of_ne_nil hnil]
        exact isAbsolute_intercalate h
      obtain ⟨before, hbefore⟩ := exists_join_eq_append hname dir
      have hstem : stem (join dir name) = join dir name := by rw [hbefore, stem_append hname]
      have hbelow := ih hrest hnil (join dir name)
      rw [join_eq (join_ne_empty hname dir) (isAbsolute_intercalate hrest), hstem] at hbelow
      rw [String.intercalate_cons_of_ne_nil hnil, below_cons, ← hbelow, join_of_isName hname]
      split_ifs with hdir
      · simp [hdir, join, hrelative]
      · rw [join_eq hdir hrelative, ← String.append_assoc, ← String.append_assoc]

/-! ### The way up -/

/-- What is left of a directory as the parent of a name joined to it. -/
def top (dir : FilePath) : FilePath :=
  if dir = "" then "" else trimmed (stem dir)

@[simp]
theorem top_empty : top "" = "" := rfl

theorem parent?_join {name : String} (hname : IsName name) (hdot : name ≠ ".") (dir : FilePath) :
    parent? (join dir name) = some (top dir) := by
  rw [join_of_isName hname, parent?, top]
  split_ifs
  · rw [splitLast_of_isName hname hdot, Option.map_some]
  · rw [splitLast_append hname hdot, Option.map_some]

/-- Nothing ends a name. -/
theorem top_join {name : String} (hname : IsName name) (hdot : name ≠ ".") (dir : FilePath) :
    top (join dir name) = join dir name := by
  obtain ⟨before, hbefore⟩ := exists_join_eq_append hname dir
  rw [top, if_neg (join_ne_empty hname dir), hbefore, stem_append hname, trimmed_append hname hdot]

/-- Below the first name there is nothing to trim. -/
theorem top_below {names : List String} (h : ∀ s ∈ names, IsName s ∧ IsPlain s) (hne : names ≠ [])
    (dir : FilePath) : top (below dir names) = below dir names := by
  rcases List.eq_nil_or_concat names with rfl | ⟨init, name, rfl⟩
  · exact absurd rfl hne
  · obtain ⟨hname, hplain⟩ := h name (by simp)
    rw [List.concat_eq_append, below_append_singleton, top_join hname hplain.1]

theorem trimEnd_suffix (text : List Char) : trimEnd text <:+ text := by
  fun_induction trimEnd text with
  | case3 rest _ ih => exact ih.trans (List.suffix_cons _ _)
  | case4 => exact List.suffix_cons _ _
  | case5 rest _ ih => exact ih.trans ⟨['.', '/'], rfl⟩
  | _ => exact List.suffix_rfl

/-- Only steps to the place itself are trimmed. -/
theorem exists_namesOf_trimEnd (text : List Char) :
    ∃ n, namesOf (String.ofList text.reverse) =
      namesOf (String.ofList (trimEnd text).reverse) ++ List.replicate n "." := by
  fun_induction trimEnd text with
  | case3 rest _ ih =>
    obtain ⟨n, hn⟩ := ih
    refine ⟨n, ?_⟩
    have htext : String.ofList ('/' :: rest).reverse = String.ofList rest.reverse ++ "/" := by simp
    rw [htext, namesOf_append_slash_self, hn]
  | case4 => exact ⟨1, by decide⟩
  | case5 rest _ ih =>
    obtain ⟨n, hn⟩ := ih
    refine ⟨n + 1, ?_⟩
    have htext : String.ofList ('.' :: '/' :: rest).reverse =
        String.ofList rest.reverse ++ "/" ++ "." := by
      simp [← String.toList_inj]
    have hdot : namesOf "." = ["."] := by decide
    rw [htext, namesOf_append_slash, hn, hdot, List.append_assoc, List.replicate_succ']
  | _ => exact ⟨0, by simp⟩

/-- Trimming leaves the start of a path. -/
theorem getLast?_trimEnd (text : List Char) : (trimEnd text).getLast? = text.getLast? := by
  fun_induction trimEnd text with
  | case3 rest hne ih =>
    rw [ih]
    cases rest with
    | nil => exact absurd rfl hne
    | cons c cs => rfl
  | case4 => rfl
  | case5 rest hne ih =>
    rw [ih]
    cases rest with
    | nil => exact absurd rfl hne
    | cons c cs => rfl
  | _ => rfl

/-- The text that is trimmed on the way up. -/
private theorem top_eq {dir : FilePath} (hdir : dir ≠ "") :
    top dir = String.ofList (trimEnd (stem dir ++ "/").toList.reverse).reverse := by
  rw [top, if_neg hdir, trimmed]
  simp

/-- The way up leads to the same place. -/
theorem exists_namesOf_top (dir : FilePath) :
    ∃ n, namesOf dir = namesOf (top dir) ++ List.replicate n "." := by
  by_cases hdir : dir = ""
  · exact ⟨0, by simp [hdir]⟩
  · obtain ⟨n, hn⟩ := exists_namesOf_trimEnd (stem dir ++ "/").toList.reverse
    rw [List.reverse_reverse, String.ofList_toList, namesOf_append_slash_self, namesOf_stem] at hn
    exact ⟨n, by rw [hn, top_eq hdir]⟩

/-- The way up leaves the start of a path. -/
theorem head?_top {dir : FilePath} (hdir : dir ≠ "") :
    (top dir).toList.head? = dir.toList.head? := by
  obtain ⟨c, cs, hc⟩ := List.exists_cons_of_ne_nil (show dir.toList ≠ [] by simpa using hdir)
  have hstem : (stem dir ++ "/").toList.head? = dir.toList.head? := by
    -- with a slash at its end a directory is its stem and the slash, and else it is its own stem
    by_cases hslash : dir.toList.getLast? = some '/'
    · rw [stem_append_slash hslash]
    · rw [stem, if_neg hslash, String.toList_append, hc]
      rfl
  rw [top_eq hdir, String.toList_ofList, List.head?_reverse, getLast?_trimEnd,
    List.getLast?_reverse, hstem]

theorem isAbsolute_top (dir : FilePath) : isAbsolute (top dir) = isAbsolute dir := by
  by_cases hdir : dir = ""
  · rw [hdir, top_empty]
  · rw [isAbsolute, head?_top hdir, isAbsolute]

theorem top_eq_empty_iff {dir : FilePath} : top dir = "" ↔ dir = "" := by
  refine ⟨fun h => ?_, fun h => by rw [h, top_empty]⟩
  by_contra hdir
  have hhead := head?_top hdir
  rw [h] at hhead
  exact hdir (String.toList_eq_nil_iff.mp (List.head?_eq_none_iff.mp hhead.symm))

/-- The way up is the start of the path that it is taken from. -/
theorem exists_join_eq_top_append {name : String} (hname : IsName name) (dir : FilePath) :
    ∃ rest, join dir name = top dir ++ rest := by
  by_cases hdir : dir = ""
  · exact ⟨join dir name, by simp [hdir]⟩
  · obtain ⟨cut, hcut⟩ := trimEnd_suffix (stem dir ++ "/").toList.reverse
    refine ⟨String.ofList cut.reverse ++ name, ?_⟩
    have hstem : stem dir ++ "/" =
        String.ofList (trimEnd (stem dir ++ "/").toList.reverse).reverse ++
          String.ofList cut.reverse := by
      rw [← String.ofList_append, ← List.reverse_append, hcut, List.reverse_reverse,
        String.ofList_toList]
    rw [join_of_isName hname, if_neg hdir, hstem, top_eq hdir, String.append_assoc]

end FilePath

end SiteSnapshot
