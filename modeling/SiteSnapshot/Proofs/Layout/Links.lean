import SiteSnapshot.Page.Link
import SiteSnapshot.Proofs.Catalog.PlannedPages

/-!
# Where the links of a page lead

A relative link is read from the directory of the file that it stands in, step by step
(`Link.follow`). A page of depth `n` writes its links with `n` steps up, and these lead back to
the root of the output exactly if its file has `n` directories above it.

That is so for every page that becomes an `index.html` in a directory of its own. A page that
keeps its own name has one directory less above its file than it has segments, so every one of
its links climbs above the root: `relative?_leads` says of every planned page and every link to
the site which of the two happens, and `not_leads_of_named_page` shows the second.
-/

namespace SiteSnapshot

open FileTree Catalog

namespace Link

/-- Where steps lead from a directory, which is given by its names from the root. Steps above
the root lead nowhere. -/
def follow (dir : List String) : List String → Option (List String)
  | [] => some dir
  | step :: rest =>
    if step = "." then follow dir rest
    else if step = ".." then
      if dir = [] then none else follow dir.dropLast rest
    else follow (dir ++ [step]) rest

/-- Names lead down. -/
theorem follow_of_forall_isPlain {names : List String} (h : ∀ s ∈ names, IsPlain s)
    (dir : List String) : follow dir names = some (dir ++ names) := by
  induction names generalizing dir with
  | nil => simp [follow]
  | cons name rest ih =>
    obtain ⟨hname, hrest⟩ := List.forall_mem_cons.mp h
    rw [follow, if_neg hname.1, if_neg hname.2, ih hrest, List.append_assoc, List.singleton_append]

/-- Steps up leave as many directories, as long as there are some. -/
theorem follow_replicate_append (n : ℕ) (dir steps : List String) :
    follow dir (List.replicate n ".." ++ steps) =
      if n ≤ dir.length then follow (dir.take (dir.length - n)) steps else none := by
  induction n generalizing dir with
  | zero => simp
  | succ n ih =>
    rw [List.replicate_succ, List.cons_append, follow, if_neg (by decide), if_pos rfl]
    by_cases hdir : dir = []
    · simp [hdir]
    · have hlen : 0 < dir.length := List.length_pos_iff.mpr hdir
      rw [if_neg hdir, ih, List.length_dropLast]
      by_cases hn : n + 1 ≤ dir.length
      · rw [if_pos hn, if_pos (by omega), List.dropLast_eq_take, List.take_take]
        congr 2
        omega
      · rw [if_neg hn, if_neg (by omega)]

end Link

/-- So many steps up are as many names. -/
theorem namesOf_parentHops_append (n : ℕ) (path : String) :
    namesOf (UrlPath.parentHops n ++ path) = List.replicate n ".." ++ namesOf path := by
  induction n with
  | zero => simp [UrlPath.parentHops]
  | succ n ih =>
    have hsucc : UrlPath.parentHops (n + 1) ++ path =
        ".." ++ "/" ++ (UrlPath.parentHops n ++ path) := by
      rw [UrlPath.parentHops, List.replicate_succ, String.join_cons, UrlPath.parentHops,
        String.append_assoc]
      rfl
    rw [hsucc, namesOf_append_slash, namesOf_of_isName (by decide), ih, List.replicate_succ,
      List.singleton_append, List.cons_append]

/-- The way to the root has a step up for each segment, or stays where it is. -/
theorem namesOf_wayToRoot_append (n : ℕ) (path : String) :
    namesOf (UrlPath.wayToRoot n ++ path) =
      (if n = 0 then ["."] else List.replicate n "..") ++ namesOf path := by
  rw [UrlPath.wayToRoot]
  split_ifs with hn
  · have hhere : "./" ++ path = "." ++ "/" ++ path := rfl
    rw [hhere, namesOf_append_slash, namesOf_of_isName (by decide)]
  · exact namesOf_parentHops_append n path

/-- The absolute path of names has a relative form. -/
theorem relative?_intercalate {names : List String} (h : ∀ s ∈ names, IsName s)
    (toRoot : String) :
    Link.relative? ("/" ++ "/".intercalate names) toRoot =
      some (toRoot ++ "/".intercalate names) := by
  have htext : ("/" ++ "/".intercalate names).toList =
      '/' :: ("/".intercalate names).toList := by simp
  have habs : Link.isAbsolutePath ("/" ++ "/".intercalate names) = true := by
    rw [Link.isAbsolutePath, htext]
    split
    · next heq =>
      have hrelative := FilePath.isAbsolute_intercalate h
      rw [FilePath.isAbsolute, (List.cons.inj heq).2] at hrelative
      exact absurd hrelative (by simp)
    · rfl
    · next hno => exact absurd rfl (hno _)
  rw [Link.relative?, if_pos habs, htext, List.drop_one, List.tail_cons, String.ofList_toList]

/-- **Where the links of a planned page lead.** The link that a page writes for a place of the
site leads there from the directory of the page's file, unless the page keeps its own name: then
it has one directory less above its file than it has segments, and every such link climbs above
the root of the output. -/
theorem relative?_leads {fixedPages units : List String} (hfixed : PlainPaths fixedPages)
    (hunits : PlainPaths units) {page : String} (hpage : page ∈ planPages fixedPages units)
    {place : List String} (hplace : ∀ s ∈ place, IsName s ∧ IsPlain s) :
    ∃ link,
      Link.relative? ("/" ++ "/".intercalate place)
          (UrlPath.wayToRoot (UrlPath.depth page)) = some link ∧
        Link.follow (namesOf (mapPath page)).dropLast (UrlPath.segments link) =
          if keepsName (UrlPath.segments page) then none else some place := by
  have hnames : ∀ s ∈ place, IsName s := fun s hs => (hplace s hs).1
  have hplain : ∀ s ∈ place, IsPlain s := fun s hs => (hplace s hs).2
  refine ⟨_, relative?_intercalate hnames _, ?_⟩
  rw [segments_eq_namesOf, namesOf_wayToRoot_append, namesOf_intercalate hnames,
    (mapPath_of_mem_planPages hfixed hunits hpage).2, UrlPath.depth]
  generalize UrlPath.segments page = segs
  rw [pageNames]
  by_cases hkeeps : keepsName segs = true
  · -- the file stands one level above the place that its links count from
    have hlen : 0 < segs.length := by
      rcases segs with - | ⟨s, rest⟩
      · simp at hkeeps
      · simp
    rw [if_pos hkeeps, if_pos hkeeps, if_neg (by omega), Link.follow_replicate_append,
      List.length_dropLast, if_neg (by omega)]
  · rw [if_neg hkeeps, if_neg hkeeps, List.dropLast_concat]
    -- the root is at its own depth, and any other page as many levels below it as it has segments
    by_cases hsegs : segs.length = 0
    · rw [List.length_eq_zero_iff.mp hsegs]
      simp [Link.follow, Link.follow_of_forall_isPlain hplain]
    · rw [if_neg hsegs, Link.follow_replicate_append, if_pos le_rfl, Nat.sub_self, List.take_zero,
        Link.follow_of_forall_isPlain hplain, List.nil_append]

/-- A page two segments deep reaches a style sheet of the site. -/
theorem relative?_leads_from_nested_page :
    "/net/http" ∈ planPages ["/about"] ["net/http", "go1.21"] ∧
      ∃ link,
        Link.relative? "/static/site.css" (UrlPath.wayToRoot (UrlPath.depth "/net/http")) =
            some link ∧
          Link.follow (namesOf (mapPath "/net/http")).dropLast (UrlPath.segments link) =
            some ["static", "site.css"] := by
  have hpage : "/net/http" ∈ planPages ["/about"] ["net/http", "go1.21"] := by decide
  obtain ⟨link, hlink, hleads⟩ := relative?_leads (by decide) (by decide) hpage
    (show ∀ s ∈ ["static", "site.css"], IsName s ∧ IsPlain s by decide)
  exact ⟨hpage, link, hlink, hleads⟩

/-- A page that keeps its own name does not reach another page: its links climb above the root
of the output. -/
theorem not_leads_of_named_page :
    ¬∀ page ∈ planPages [] ["go1.21"], ∃ link,
      Link.relative? "/about" (UrlPath.wayToRoot (UrlPath.depth page)) = some link ∧
        Link.follow (namesOf (mapPath page)).dropLast (UrlPath.segments link) =
          some ["about"] := by
  intro h
  obtain ⟨link, hlink, hleads⟩ := h "/go1.21" (by decide)
  have hup : link = "../about" := (Option.some.inj hlink).symm.trans (by decide)
  rw [hup] at hleads
  exact absurd hleads (by decide)

end SiteSnapshot
