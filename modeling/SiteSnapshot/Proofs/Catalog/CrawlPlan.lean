import SiteSnapshot.Proofs.Catalog.PlannedPages

/-!
# The crawl plan

The plan has the pages that are asked for (`requested`), each where it is asked for first. It can be
read off the places of the requests, and it is what one pass over them keeps that adds every page it
has not kept yet (`firsts_eq_foldl`). To go through the pages of a plan once more adds nothing
(`firsts_append_firsts`), so a plan is stable.
-/

namespace SiteSnapshot.Catalog

variable {l m : List String} {p q : String}

/-- The pages that are asked for: the homepage, the fixed pages and the units, in normal form. -/
def requested (fixedPages units : List String) : List String :=
  "/" :: (fixedPages.map UrlPath.normalize ++ units.map UrlPath.normalize)

theorem planPages_eq (fixedPages units : List String) :
    planPages fixedPages units = firsts (requested fixedPages units) := by
  rw [planPages, requested, List.map_append]

/-! ### First occurrences -/

/-- What comes later is kept unless it was there before. -/
theorem firsts_append (l m : List String) :
    firsts (l ++ m) = firsts l ++ (firsts m).filter (· ∉ l) := by
  induction l with
  | nil => simp [firsts]
  | cons first rest ih =>
    rw [List.cons_append, firsts, firsts, ih, List.filter_append, List.filter_filter,
      List.cons_append]
    refine congrArg (fun kept => first :: (_ ++ kept)) (List.filter_congr fun path _ => ?_)
    by_cases hpath : path = first <;> simp [hpath]

theorem firsts_eq_self (h : l.Nodup) : firsts l = l := by
  induction l with
  | nil => rfl
  | cons first rest ih =>
    obtain ⟨hfirst, hrest⟩ := List.nodup_cons.mp h
    rw [firsts, ih hrest, List.filter_eq_self.mpr]
    intro path hpath
    rw [bne_iff_ne]
    rintro rfl
    exact hfirst hpath

/-- **Going through the elements that were kept once more** adds none. -/
theorem firsts_append_firsts (l m : List String) :
    firsts (l ++ firsts (l ++ m)) = firsts (l ++ m) := by
  have hnone : (firsts l).filter (· ∉ l) = [] := by
    rw [List.filter_eq_nil_iff]
    intro path hpath
    simpa using mem_firsts.mp hpath
  rw [firsts_append l (firsts (l ++ m)), firsts_eq_self (nodup_firsts _), firsts_append,
    List.filter_append, hnone, List.nil_append, List.filter_filter]
  simp only [Bool.and_self]

/-- One more element is kept if it is new. -/
theorem firsts_concat (l : List String) (path : String) :
    firsts (l ++ [path]) = if path ∈ l then firsts l else firsts l ++ [path] := by
  rw [firsts_append, show firsts [path] = [path] from rfl]
  split_ifs with hpath <;> simp [hpath]

/-- **One pass that keeps what it has not kept yet** keeps the first occurrences. -/
theorem firsts_eq_foldl (l : List String) :
    firsts l = l.foldl (fun kept path => if path ∈ kept then kept else kept ++ [path]) [] := by
  induction l using List.reverseRecOn with
  | nil => rfl
  | append_singleton l path ih =>
    rw [List.foldl_append, ← ih, firsts_concat, List.foldl_cons, List.foldl_nil]
    simp only [mem_firsts]

/-- **The first occurrences by their places**: an element is kept if it is at none of the places
before its own. -/
theorem firsts_eq_filter_zipIdx (l : List String) :
    firsts l = (l.zipIdx.filter fun place => place.1 ∉ l.take place.2).map (·.1) := by
  induction l using List.reverseRecOn with
  | nil => rfl
  | append_singleton l path ih =>
    have hbefore : (l.zipIdx.filter fun place => place.1 ∉ (l ++ [path]).take place.2) =
        l.zipIdx.filter fun place => place.1 ∉ l.take place.2 := by
      refine List.filter_congr fun place hplace => ?_
      obtain ⟨-, hlt, -⟩ := List.mem_zipIdx hplace
      rw [List.take_append_of_le_length (by omega)]
    rw [List.zipIdx_append, List.filter_append, List.map_append, hbefore, ← ih, firsts_concat]
    split_ifs with hpath <;> simp [hpath]

/-- An element is found before another one if it is among those in front of it. -/
theorem idxOf_lt_idxOf_iff (l : List String) :
    l.idxOf p < l.idxOf q ↔ p ∈ l.takeWhile (· != q) := by
  induction l with
  | nil => simp
  | cons first rest ih =>
    by_cases hq : first = q
    · simp [hq]
    · rw [List.takeWhile_cons_of_pos (by simpa using hq), List.idxOf_cons_ne rest hq]
      by_cases hp : first = p
      · simp [hp]
      · rw [List.idxOf_cons_ne rest hp, List.mem_cons, ← ih]
        simp [Ne.symm hp]

/-- **First occurrences stay in their order.** -/
theorem idxOf_firsts_lt_iff (l : List String) :
    (firsts l).idxOf p < (firsts l).idxOf q ↔ l.idxOf p < l.idxOf q := by
  rw [idxOf_lt_idxOf_iff, idxOf_lt_idxOf_iff]
  induction l with
  | nil => rfl
  | cons first rest ih =>
    rw [firsts]
    by_cases hq : first = q
    · simp [hq]
    · -- leaving out what is equal to the first element leaves the other one where it is
      have hkept : ∀ path, (!(path != first) || path != q) = (path != q) := by
        intro path
        by_cases hpath : path = first
        · simp [hpath, hq]
        · simp [hpath]
      rw [List.takeWhile_cons_of_pos (by simpa using hq),
        List.takeWhile_cons_of_pos (by simpa using hq), List.takeWhile_filter]
      simp only [hkept, List.mem_cons, List.mem_filter, ih, bne_iff_ne]
      tauto

/-! ### The plan -/

/-- **The plan has the pages that are asked for, each where it is asked for first.** Every later
repetition is left out and nothing else, so that the plan starts with the homepage, has no page
twice, has only normal paths, loses no page, and has its pages in the order in which they are first
asked for. A plan that is made once more, of its own pages or with them as units, is the same. -/
theorem planPages_keeps_firsts (fixedPages units : List String) :
    planPages fixedPages units = ((requested fixedPages units).zipIdx.filter fun place =>
        place.1 ∉ (requested fixedPages units).take place.2).map (·.1) ∧
    planPages fixedPages units = (requested fixedPages units).foldl
        (fun plan page => if page ∈ plan then plan else plan ++ [page]) [] ∧
    (planPages fixedPages units).head? = some "/" ∧
    (planPages fixedPages units).Nodup ∧
    (planPages fixedPages units).map UrlPath.normalize = planPages fixedPages units ∧
    (∀ page, page ∈ planPages fixedPages units ↔ page ∈ requested fixedPages units) ∧
    (∀ p q, (planPages fixedPages units).idxOf p < (planPages fixedPages units).idxOf q ↔
      (requested fixedPages units).idxOf p < (requested fixedPages units).idxOf q) ∧
    planPages fixedPages (planPages fixedPages units) = planPages fixedPages units ∧
    planPages (planPages fixedPages units) [] = planPages fixedPages units := by
  have hnormal : (planPages fixedPages units).map UrlPath.normalize =
      planPages fixedPages units := by
    refine (List.map_congr_left fun page hpage => ?_).trans (List.map_id _)
    exact normalize_of_mem_planPages hpage
  refine ⟨?_, ?_, rfl, nodup_planPages _ _, hnormal, fun page => ?_, fun p q => ?_, ?_, ?_⟩
  · rw [planPages_eq, ← firsts_eq_filter_zipIdx]
  · rw [planPages_eq, ← firsts_eq_foldl]
  · rw [planPages_eq, mem_firsts]
  · rw [planPages_eq, idxOf_firsts_lt_iff]
  · rw [planPages_eq fixedPages (planPages _ _), requested, hnormal, planPages_eq, requested,
      ← List.cons_append, ← List.cons_append, firsts_append_firsts]
  · have hhome := firsts_append_firsts ["/"]
      (fixedPages.map UrlPath.normalize ++ units.map UrlPath.normalize)
    rw [planPages_eq (planPages _ _), requested, hnormal, List.map_nil, List.append_nil,
      planPages_eq]
    exact hhome

example : planPages ["/about", "/search-help", "/about/"] ["about", "fmt", "//fmt", ""] =
    ["/", "/about", "/search-help", "/fmt"] := by decide

end SiteSnapshot.Catalog
