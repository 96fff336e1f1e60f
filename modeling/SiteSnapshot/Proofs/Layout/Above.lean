import Mathlib.Data.List.TakeWhile
import SiteSnapshot.Proofs.Layout.Below

/-!
# The directory above a path

Whatever the text of a path, the directory above it is a start of the path with all of its names
but the last (`exists_of_parent?`). Steps to the place itself are left out at the end, so the
result is trimmed, and only of a path that is not trimmed can such steps follow its last name.
-/

namespace SiteSnapshot

open FileTree

namespace FilePath

/-- A path without slashes and steps to the place itself at its end, except that it may consist of
one of them. -/
def IsTrimmed (path : FilePath) : Prop :=
  trimEnd path.toList.reverse = path.toList.reverse

theorem trimEnd_trimEnd (text : List Char) : trimEnd (trimEnd text) = trimEnd text := by
  fun_induction trimEnd text with
  | case3 rest _ ih => exact ih
  | case5 rest _ ih => exact ih
  | case6 text h₁ h₂ h₃ h₄ h₅ => rw [trimEnd.eq_def]; split <;> simp_all
  | _ => rfl

/-- What is left of a text that is trimmed does not end with a slash, unless it is one. -/
theorem eq_nil_of_trimEnd_eq {text rest : List Char} (h : trimEnd text = '/' :: rest) :
    rest = [] := by
  fun_induction trimEnd text with
  | case3 rest' _ ih => exact ih h
  | case5 rest' _ ih => exact ih h
  | case6 text h₁ h₂ h₃ h₄ h₅ => simp_all
  | _ => simp_all

/-- Where a text is cut in front of its first slash. -/
private theorem exists_takeWhile_append (text : List Char) :
    ∃ rest, text = text.takeWhile (· != '/') ++ rest ∧
      text.drop (text.takeWhile (· != '/')).length = rest ∧
        (rest = [] ∨ ∃ more, rest = '/' :: more) := by
  have hsplit : text.takeWhile (· != '/') ++ text.dropWhile (· != '/') = text :=
    List.takeWhile_append_dropWhile
  refine ⟨text.dropWhile (· != '/'), hsplit.symm, ?_, ?_⟩
  · have hdrop := congrArg (List.drop (text.takeWhile (· != '/')).length) hsplit
    rwa [List.drop_left, eq_comm] at hdrop
  · cases hrest : text.dropWhile (· != '/') with
    | nil => exact Or.inl rfl
    | cons c more =>
      have hc := List.head_dropWhile_not (p := (· != '/')) (l := text) (by simp [hrest])
      simp only [hrest, List.head_cons, bne_eq_false_iff_eq] at hc
      exact Or.inr ⟨more, by rw [hc]⟩

/-- **The last name of a path** and the directory above it. The directory is a start of the path,
and has all its names but the last and the steps to the place itself around that. -/
theorem exists_of_splitLast {path dir : FilePath} {name : String}
    (h : splitLast path = some (dir, name)) :
    IsName name ∧ (∃ rest, path = dir ++ rest) ∧ isAbsolute dir = isAbsolute path ∧ IsTrimmed dir ∧
      ∃ m n, namesOf path =
          namesOf dir ++ (List.replicate m "." ++ name :: List.replicate n ".") ∧
        (IsTrimmed path → n = 0) := by
  obtain ⟨cut, hcut⟩ := trimEnd_suffix path.toList.reverse
  -- the trimmed text, its last name and what stands before that
  obtain ⟨rest, htext, hdrop, hrest⟩ := exists_takeWhile_append (trimEnd path.toList.reverse)
  rw [splitLast] at h
  simp only [hdrop] at h
  split_ifs at h with hempty
  obtain ⟨rfl, rfl⟩ := Prod.mk.inj (Option.some.inj h)
  generalize htaken : (trimEnd path.toList.reverse).takeWhile (· != '/') = taken at *
  have hname : IsName (String.ofList taken.reverse) := by
    refine ⟨by simpa using hempty, ?_⟩
    rw [String.toList_ofList, List.mem_reverse, ← htaken]
    exact fun hmem => by simpa using List.mem_takeWhile_imp hmem
  obtain ⟨cut', hcut'⟩ := trimEnd_suffix rest
  obtain ⟨n, hn⟩ := exists_namesOf_trimEnd path.toList.reverse
  obtain ⟨m, hm⟩ := exists_namesOf_trimEnd rest
  rw [List.reverse_reverse, String.ofList_toList] at hn
  refine ⟨hname, ⟨String.ofList (cut ++ taken ++ cut').reverse, ?_⟩, ?_, ?_, m, ?_⟩
  · rw [← String.ofList_append, ← List.reverse_append, List.append_assoc, hcut', List.append_assoc,
      ← htext, hcut, List.reverse_reverse, String.ofList_toList]
  · -- what stands in front of everything is not trimmed
    have hhead : path.toList.head? = (taken ++ rest).getLast? := by
      rw [← htext, getLast?_trimEnd, List.getLast?_reverse]
    rw [isAbsolute, isAbsolute, String.toList_ofList, List.head?_reverse, getLast?_trimEnd, hhead]
    rcases hrest with rfl | ⟨more, rfl⟩
    · have hrelative := isAbsolute_of_isName hname
      rw [isAbsolute, String.toList_ofList, List.head?_reverse] at hrelative
      rw [List.append_nil, hrelative]
      rfl
    · rw [List.getLast?_append_of_ne_nil _ (List.cons_ne_nil _ _)]
  · rw [IsTrimmed, String.toList_ofList, List.reverse_reverse, trimEnd_trimEnd]
  · have hnames : namesOf (String.ofList (trimEnd path.toList.reverse).reverse) =
        namesOf (String.ofList rest.reverse) ++ [String.ofList taken.reverse] := by
      rw [htext, List.reverse_append, String.ofList_append]
      rcases hrest with rfl | ⟨more, rfl⟩
      · simp [namesOf_of_isName hname]
      · have hslash : String.ofList ('/' :: more).reverse = String.ofList more.reverse ++ "/" := by
          simp
        rw [hslash, namesOf_append_slash, namesOf_append_slash_self, namesOf_of_isName hname]
    by_cases htrimmed : IsTrimmed path
    · refine ⟨0, ?_, fun _ => rfl⟩
      rw [IsTrimmed] at htrimmed
      rw [htrimmed, List.reverse_reverse, String.ofList_toList, hm] at hnames
      rw [hnames, List.append_assoc]
      rfl
    · refine ⟨n, ?_, fun h => absurd h htrimmed⟩
      rw [hn, hnames, hm]
      simp

/-- **The directory above a path** is a start of it, and has all its names but the last and the
steps to the place itself around that. -/
theorem exists_of_parent? {path dir : FilePath} (h : parent? path = some dir) :
    (∃ rest, path = dir ++ rest) ∧ isAbsolute dir = isAbsolute path ∧ IsTrimmed dir ∧
      ∃ name m n, namesOf path =
          namesOf dir ++ (List.replicate m "." ++ name :: List.replicate n ".") ∧
        (IsTrimmed path → n = 0) := by
  obtain ⟨⟨dir, name⟩, hsplit, rfl⟩ := Option.map_eq_some_iff.mp h
  obtain ⟨-, hstart, habsolute, htrimmed, hnames⟩ := exists_of_splitLast hsplit
  exact ⟨hstart, habsolute, htrimmed, name, hnames⟩

/-- A path without a directory above it stays where it starts. -/
theorem eq_dot_of_parent?_eq_none {path : FilePath} (h : parent? path = none) :
    ∀ s ∈ namesOf path, s = "." := by
  obtain ⟨n, hn⟩ := exists_namesOf_trimEnd path.toList.reverse
  rw [List.reverse_reverse, String.ofList_toList] at hn
  obtain ⟨rest, htext, -, hrest⟩ := exists_takeWhile_append (trimEnd path.toList.reverse)
  rw [parent?, Option.map_eq_none_iff, splitLast] at h
  simp only [ite_eq_left_iff, reduceCtorEq, imp_false, not_not, List.isEmpty_iff] at h
  rw [h, List.nil_append] at htext
  have hnames : namesOf (String.ofList (trimEnd path.toList.reverse).reverse) = [] := by
    rcases hrest with rfl | ⟨more, rfl⟩
    · rw [htext]
      simp
    · obtain rfl := eq_nil_of_trimEnd_eq htext
      rw [htext]
      decide
  rw [hnames, List.nil_append] at hn
  rw [hn]
  exact fun s hs => List.eq_of_mem_replicate hs

/-- A step to the place itself is the last name of a path only if nothing else is in it. -/
theorem eq_dot_of_splitLast {path dir : FilePath} (h : splitLast path = some (dir, ".")) :
    ∀ s ∈ namesOf path, s = "." := by
  obtain ⟨n, hn⟩ := exists_namesOf_trimEnd path.toList.reverse
  rw [List.reverse_reverse, String.ofList_toList] at hn
  obtain ⟨rest, htext, -, hrest⟩ := exists_takeWhile_append (trimEnd path.toList.reverse)
  rw [splitLast] at h
  split_ifs at h
  obtain ⟨-, hname⟩ := Prod.mk.inj (Option.some.inj h)
  have htaken : (trimEnd path.toList.reverse).takeWhile (· != '/') = ['.'] := by
    rw [← String.toList_inj, String.toList_ofList] at hname
    exact List.reverse_eq_iff.mp hname
  rw [htaken] at htext
  rcases hrest with rfl | ⟨more, rfl⟩
  · rw [htext] at hn
    have hdot : namesOf (String.ofList ['.'].reverse) = List.replicate 1 "." := by decide
    rw [List.append_nil, hdot, ← List.replicate_add] at hn
    rw [hn]
    exact fun s hs => List.eq_of_mem_replicate hs
  -- behind a name such a step is trimmed
  · have htrimmed := trimEnd_trimEnd path.toList.reverse
    rw [htext, List.singleton_append] at htrimmed
    cases more with
    | nil => simp [trimEnd] at htrimmed
    | cons c more =>
      have hlen := (trimEnd_suffix (c :: more)).length_le
      rw [trimEnd.eq_5 _ (by simp)] at htrimmed
      rw [htrimmed] at hlen
      simp only [List.length_cons] at hlen
      omega

end FilePath

end SiteSnapshot
