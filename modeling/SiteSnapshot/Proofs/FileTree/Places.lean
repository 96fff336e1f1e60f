import Mathlib.Data.List.Infix
import SiteSnapshot.FileTree.Resolve
import SiteSnapshot.Proofs.Layout.Below

/-!
# Places in a file tree

Where a path leads does not depend on the files of a tree: it is decided by the directories and
links on the way. A tree **keeps the places** of another if it has these too (`KeepsPlaces`), and
a directory that a path leads to (`LeadsTo`) is led to in every tree that keeps the places.

Below such a directory, paths of plain names are read name by name. `follow_append_singleton`
says all that can happen on the way to the last name when no file or link is in the way
(`Clear`): some name is too long, some directory is missing, or every directory is there and the
last name decides.
-/

namespace SiteSnapshot.FileTree

/-! ### Entries -/

/-- A put shows at its place and nowhere else. -/
theorem get?_put {t : FileTree} {dir : Location} {name : String} {e : Entry}
    (hdir : t.get? dir = some .directory) (hfree : t.get? (dir ++ [name]) ≠ some .directory)
    (loc : Location) :
    (t.put dir name e).get? loc = if loc = dir ++ [name] then some e else t.get? loc := by
  by_cases hnil : loc = []
  · subst hnil
    simp
  · have hmem : ∀ e', (t.put dir name e).get? loc = some e' ↔
        (loc, e') = (dir ++ [name], e) ∨ (loc, e') ∈ t.entries ∧ loc ≠ dir ++ [name] := by
      intro e'
      rw [get?_eq_some_iff hnil, put, dif_pos ⟨hdir, hfree⟩]
      exact Entry.mem_insert t.sorted
    refine Option.ext fun e' => ?_
    rw [hmem]
    split_ifs with hloc
    · simp [hloc, eq_comm]
    · rw [get?_eq_some_iff hnil]
      simp [hloc]

@[simp]
theorem current_put (t : FileTree) (dir : Location) (name : String) (e : Entry) :
    (t.put dir name e).current = t.current := by
  rw [put]
  split_ifs <;> rfl

/-- What has an entry lies in a directory. -/
theorem get?_of_get?_append_singleton {t : FileTree} {loc : Location} {name : String} {e : Entry}
    (h : t.get? (loc ++ [name]) = some e) : t.get? loc = some .directory := by
  obtain ⟨dir, last, heq, hdir⟩ := t.closed _ ((get?_eq_some_iff (by simp)).mp h)
  obtain ⟨rfl, -⟩ := List.append_inj' heq rfl
  by_cases hnil : loc = []
  · rw [hnil, get?_nil]
  · exact (get?_eq_some_iff hnil).mpr (hdir.resolve_left hnil)

/-- Whatever is above an entry is a directory. -/
theorem get?_of_get?_append {t : FileTree} {loc names : Location} {e : Entry}
    (h : t.get? (loc ++ names) = some e) (hne : names ≠ []) : t.get? loc = some .directory := by
  induction names using List.reverseRecOn generalizing e with
  | nil => exact absurd rfl hne
  | append_singleton init name ih =>
    rw [← List.append_assoc] at h
    have hup := get?_of_get?_append_singleton h
    by_cases hinit : init = []
    · rwa [hinit, List.append_nil] at hup
    · exact ih hup hinit

/-- Below a free place there is nothing. -/
theorem get?_append_eq_none {t : FileTree} {loc : Location} (h : t.get? loc = none)
    (names : Location) : t.get? (loc ++ names) = none := by
  by_cases hne : names = []
  · rwa [hne, List.append_nil]
  · cases hget : t.get? (loc ++ names) with
    | none => rfl
    | some e => rw [get?_of_get?_append hget hne] at h; cases h

/-! ### Taking one step -/

/-- A step that reads the entry of a name. -/
structure Reads (last : LastName) (name : String) (rest : List String) : Prop where
  not_stay : ¬(name = "" ∨ name = ".")
  ne_up : name ≠ ".."
  not_slash : ¬(last = .written ∧ rest = [""])

/-- A plain name is read, unless a file is to be written with a slash behind its name. -/
theorem Reads.of_isPlain {last : LastName} {name : String} {rest : List String}
    (hname : IsName name) (hplain : IsPlain name) (hrest : rest ≠ [""]) :
    Reads last name rest :=
  ⟨not_or.mpr ⟨hname.1, hplain.1⟩, hplain.2, fun h => hrest h.2⟩

/-- A name that is no step to itself or up is read, unless a file is to be written there. -/
theorem Reads.of_ne_written {last : LastName} {name : String} {rest : List String}
    (hstay : ¬(name = "" ∨ name = ".")) (hup : name ≠ "..") (hlast : last ≠ .written) :
    Reads last name rest :=
  ⟨hstay, hup, fun h => hlast h.1⟩

section Step

variable {t : FileTree} {last : LastName} {links : ℕ} {dir : Location} {name : String}
  {rest : List String}

theorem follow_stay (h : name = "" ∨ name = ".") :
    follow t last links dir (name :: rest) = follow t last links dir rest := by
  rw [follow, if_pos h]

theorem follow_up : follow t last links dir (".." :: rest) =
    follow t last links dir.dropLast rest := by
  rw [follow, if_neg (by decide), if_pos rfl]

theorem follow_tooLong (h : Reads last name rest) (hlong : name.utf8ByteSize > maxName) :
    follow t last links dir (name :: rest) = .error .nameTooLong := by
  rw [follow, if_neg h.not_stay, if_neg h.ne_up, if_neg h.not_slash, if_pos hlong]

variable (h : Reads last name rest) (hshort : ¬name.utf8ByteSize > maxName)

include h hshort

theorem follow_directory (hget : t.get? (dir ++ [name]) = some .directory) :
    follow t last links dir (name :: rest) = follow t last links (dir ++ [name]) rest := by
  rw [follow, if_neg h.not_stay, if_neg h.ne_up, if_neg h.not_slash, if_neg hshort, hget]

theorem follow_free (hget : t.get? (dir ++ [name]) = none) :
    follow t last links dir (name :: rest) =
      if rest.isEmpty then .ok (.free dir name) else .error .notFound := by
  rw [follow, if_neg h.not_stay, if_neg h.ne_up, if_neg h.not_slash, if_neg hshort, hget]

theorem follow_file {octets : Bytes} (hget : t.get? (dir ++ [name]) = some (.file octets)) :
    follow t last links dir (name :: rest) =
      if rest.isEmpty then .ok (.present (dir ++ [name]) (.file octets))
      else .error .notDirectory := by
  rw [follow, if_neg h.not_stay, if_neg h.ne_up, if_neg h.not_slash, if_neg hshort, hget]

theorem follow_link {target : String} (hget : t.get? (dir ++ [name]) = some (.link target))
    (hlast : ¬(rest.isEmpty = true ∧ last = .kept)) :
    follow t last (links + 1) dir (name :: rest) =
      follow t last links (if FilePath.isAbsolute target then [] else dir)
        (stepsOf target ++ rest) := by
  rw [follow, if_neg h.not_stay, if_neg h.ne_up, if_neg h.not_slash, if_neg hshort, hget]
  simp only [if_neg hlast]

theorem follow_linkLoop {target : String} (hget : t.get? (dir ++ [name]) = some (.link target))
    (hlast : ¬(rest.isEmpty = true ∧ last = .kept)) :
    follow t last 0 dir (name :: rest) = .error .linkLoop := by
  rw [follow, if_neg h.not_stay, if_neg h.ne_up, if_neg h.not_slash, if_neg hshort, hget]
  simp only [if_neg hlast]

omit h in
theorem follow_link_kept (h : Reads .kept name []) {target : String}
    (hget : t.get? (dir ++ [name]) = some (.link target)) :
    follow t .kept links dir [name] = .ok (.present (dir ++ [name]) (.link target)) := by
  rw [follow, if_neg h.not_stay, if_neg h.ne_up, if_neg h.not_slash, if_neg hshort, hget]
  rfl

end Step

/-! ### Keeping places -/

/-- The directories and links of a tree are in another. -/
structure KeepsPlaces (s t : FileTree) : Prop where
  current : t.current = s.current
  kept : ∀ loc e, (∀ octets, e ≠ .file octets) → s.get? loc = some e → t.get? loc = some e

namespace KeepsPlaces

theorem refl (t : FileTree) : KeepsPlaces t t := ⟨rfl, fun _ _ _ h => h⟩

theorem trans {s t u : FileTree} (hst : KeepsPlaces s t) (htu : KeepsPlaces t u) :
    KeepsPlaces s u :=
  ⟨htu.current.trans hst.current, fun loc e he h => htu.kept loc e he (hst.kept loc e he h)⟩

end KeepsPlaces

/-- **Steps to a directory lead there in every tree that keeps the places**, and further steps
go on from it. -/
theorem exists_follow_append {t : FileTree} {links : ℕ} {dir loc : Location} {steps : List String}
    (h : follow t .followed links dir steps = .ok (.present loc .directory)) :
    ∃ links', ∀ t', KeepsPlaces t t' → ∀ last more, (more = [] → last = .followed) →
      (more = [""] → last ≠ .written) →
        follow t' last links dir (steps ++ more) = follow t' last links' loc more := by
  -- with more steps behind it, a step reads what it reads without them
  have hreads : ∀ {last : LastName} {name : String} {rest more : List String},
      ¬(name = "" ∨ name = ".") → name ≠ ".." → (more = [] → last = .followed) →
        (more = [""] → last ≠ .written) → Reads last name (rest ++ more) := by
    intro last name rest more hstay hup hlast hmore
    refine ⟨hstay, hup, ?_⟩
    rintro ⟨hwritten, hrest⟩
    rcases List.append_eq_singleton_iff.mp hrest with ⟨-, rfl⟩ | ⟨-, rfl⟩
    · exact hmore rfl hwritten
    · rw [hlast rfl] at hwritten
      cases hwritten
  fun_induction follow t .followed links dir steps with
  | case1 links dir =>
    obtain ⟨rfl, -⟩ := by simpa using h
    exact ⟨links, fun _ _ _ _ _ _ => rfl⟩
  | case2 links dir name rest hstay ih =>
    obtain ⟨links', hlinks⟩ := ih h
    refine ⟨links', fun t' ht last more hlast hmore => ?_⟩
    rw [List.cons_append, follow_stay hstay, hlinks t' ht last more hlast hmore]
  | case3 links dir rest _ ih =>
    obtain ⟨links', hlinks⟩ := ih h
    refine ⟨links', fun t' ht last more hlast hmore => ?_⟩
    rw [List.cons_append, follow_up, hlinks t' ht last more hlast hmore]
  -- a directory is one in every such tree
  | case8 links dir name rest hstay hup _ hshort hget ih =>
    obtain ⟨links', hlinks⟩ := ih h
    refine ⟨links', fun t' ht last more hlast hmore => ?_⟩
    rw [List.cons_append, follow_directory (hreads hstay hup hlast hmore) hshort
      (ht.kept _ _ (by simp) hget), hlinks t' ht last more hlast hmore]
  -- a link is the same link there; it is not the last name that an operation keeps
  | case13 dir name rest hstay hup _ hshort target hget _ links _ ih =>
    obtain ⟨links', hlinks⟩ := ih h
    refine ⟨links', fun t' ht last more hlast hmore => ?_⟩
    have hkept : ¬((rest ++ more).isEmpty = true ∧ last = .kept) := by
      rintro ⟨hempty, hkept⟩
      rw [List.isEmpty_iff, List.append_eq_nil_iff] at hempty
      rw [hlast hempty.2] at hkept
      cases hkept
    rw [List.cons_append, follow_link (hreads hstay hup hlast hmore) hshort
      (ht.kept _ _ (by simp) hget) hkept, ← List.append_assoc]
    exact hlinks t' ht last more hlast hmore
  -- the other steps do not end at a directory
  | _ => simp at h

/-- An operation that keeps the last link finds something at the end of such steps too. -/
theorem exists_follow_kept {t : FileTree} {links : ℕ} {dir loc : Location} {steps : List String}
    (h : follow t .followed links dir steps = .ok (.present loc .directory)) :
    ∃ loc' e, follow t .kept links dir steps = .ok (.present loc' e) := by
  fun_induction follow t .followed links dir steps with
  | case1 links dir => exact ⟨dir, _, by rw [follow]⟩
  | case2 links dir name rest hstay ih =>
    obtain ⟨loc', e, hkept⟩ := ih h
    exact ⟨loc', e, by rw [follow_stay hstay, hkept]⟩
  | case3 links dir rest _ ih =>
    obtain ⟨loc', e, hkept⟩ := ih h
    exact ⟨loc', e, by rw [follow_up, hkept]⟩
  -- a directory, and then a link, which is found itself when no more steps are left
  | case8 links dir name rest hstay hup _ hshort hget ih =>
    obtain ⟨loc', e, hkept⟩ := ih h
    have hreads : Reads .kept name rest := .of_ne_written hstay hup (by simp)
    exact ⟨loc', e, by rw [follow_directory hreads hshort hget, hkept]⟩
  | case13 dir name rest hstay hup _ hshort target hget _ links _ ih =>
    have hreads : Reads .kept name rest := .of_ne_written hstay hup (by simp)
    obtain ⟨loc', e, hkept⟩ := ih h
    by_cases hrest : rest = []
    · subst hrest
      exact ⟨_, _, follow_link_kept hshort hreads hget⟩
    · exact ⟨loc', e, by
        rw [follow_link hreads hshort hget (by simp [hrest])]
        exact hkept⟩
  | _ => simp at h

/-- Steps to the place itself at the end of a way do not count. -/
theorem follow_of_append_dot {t : FileTree} {links : ℕ} {dir loc : Location} {steps : List String}
    (h : follow t .followed links dir (steps ++ ["."]) = .ok (.present loc .directory)) :
    follow t .followed links dir steps = .ok (.present loc .directory) := by
  fun_induction follow t .followed links dir steps with
  | case1 links dir =>
    rwa [List.nil_append, follow_stay (Or.inr rfl), follow] at h
  | case2 links dir name rest hstay ih =>
    rw [List.cons_append, follow_stay hstay] at h
    exact ih h
  | case3 links dir rest _ ih =>
    rw [List.cons_append, follow_up] at h
    exact ih h
  -- a directory, and a link that is followed
  | case8 links dir name rest hstay hup _ hshort hget ih =>
    have hreads : Reads .followed name (rest ++ ["."]) := .of_ne_written hstay hup (by simp)
    rw [List.cons_append, follow_directory hreads hshort hget] at h
    exact ih h
  | case13 dir name rest hstay hup _ hshort target hget _ links _ ih =>
    have hreads : Reads .followed name (rest ++ ["."]) := .of_ne_written hstay hup (by simp)
    rw [List.cons_append, follow_link hreads hshort hget (by simp), ← List.append_assoc] at h
    exact ih h
  -- everywhere else the longer way fails
  | case4 => simp_all
  | case5 links dir name rest hstay hup _ hlong =>
    have hreads : Reads .followed name (rest ++ ["."]) := .of_ne_written hstay hup (by simp)
    rw [List.cons_append, follow_tooLong hreads hlong] at h
    cases h
  | case6 links dir name rest hstay hup _ hshort hget
  | case7 links dir name rest hstay hup _ hshort hget =>
    have hreads : Reads .followed name (rest ++ ["."]) := .of_ne_written hstay hup (by simp)
    rw [List.cons_append, follow_free hreads hshort hget, if_neg (by simp)] at h
    cases h
  | case9 links dir name rest hstay hup _ hshort octets hget
  | case10 links dir name rest hstay hup _ hshort octets hget =>
    have hreads : Reads .followed name (rest ++ ["."]) := .of_ne_written hstay hup (by simp)
    rw [List.cons_append, follow_file hreads hshort hget, if_neg (by simp)] at h
    cases h
  | case11 => simp_all
  | case12 dir name rest hstay hup _ hshort target hget =>
    have hreads : Reads .followed name (rest ++ ["."]) := .of_ne_written hstay hup (by simp)
    rw [List.cons_append, follow_linkLoop hreads hshort hget (by simp)] at h
    cases h

/-! ### Directories that paths lead to -/

/-- The place from which a path is read. -/
def origin (t : FileTree) (path : FilePath) : Location :=
  if FilePath.isAbsolute path then [] else t.current

/-- A path that leads to a directory. -/
structure LeadsTo (t : FileTree) (path : FilePath) (loc : Location) : Prop where
  reached : follow t .followed maxLinks (t.origin path) (namesOf path) =
    .ok (.present loc .directory)
  isDirectory : t.get? loc = some .directory

/-- The way up from below a directory leads to it. -/
theorem LeadsTo.top {t : FileTree} {path : FilePath} {loc : Location} (h : LeadsTo t path loc) :
    LeadsTo t path.top loc := by
  have horigin : t.origin path.top = t.origin path := by
    rw [origin, FilePath.isAbsolute_top, origin]
  have hdots : ∀ n names, follow t .followed maxLinks (t.origin path)
      (names ++ List.replicate n ".") = .ok (.present loc .directory) →
        follow t .followed maxLinks (t.origin path) names = .ok (.present loc .directory) := by
    intro n names hfollow
    induction n with
    | zero => simpa using hfollow
    | succ n ih =>
      rw [List.replicate_succ', ← List.append_assoc] at hfollow
      exact ih (follow_of_append_dot hfollow)
  obtain ⟨n, hn⟩ := FilePath.exists_namesOf_top path
  refine ⟨?_, h.isDirectory⟩
  rw [horigin]
  exact hdots n _ (hn ▸ h.reached)

/-- A directory is led to as long as the places are kept. -/
theorem LeadsTo.of_keepsPlaces {s t : FileTree} {path : FilePath} {loc : Location}
    (h : LeadsTo s path loc) (ht : KeepsPlaces s t) : LeadsTo t path loc := by
  obtain ⟨links, hlinks⟩ := exists_follow_append h.reached
  have hdir : t.get? loc = some .directory := ht.kept loc _ (by simp) h.isDirectory
  have horigin : t.origin path = s.origin path := by rw [origin, origin, ht.current]
  refine ⟨?_, hdir⟩
  have hend := hlinks t ht .followed [] (fun _ => rfl) (by simp)
  rw [List.append_nil] at hend
  rw [horigin, hend, follow, hdir, Option.getD_some]

/-! ### Plain names below a directory -/

/-- Names below a directory with no file and no link among and above them. -/
def Clear (t : FileTree) (loc : Location) (names : List String) : Prop :=
  ∀ above, above ≠ [] → above <+: names →
    t.get? (loc ++ above) = none ∨ t.get? (loc ++ above) = some .directory

/-- Names below a directory that all are directories. -/
def AllDirectories (t : FileTree) (loc : Location) (names : List String) : Prop :=
  ∀ above, above <+: names → t.get? (loc ++ above) = some .directory

/-- A name that is too long for a file tree. -/
def TooLong (name : String) : Prop :=
  name.utf8ByteSize > maxName

instance (name : String) : Decidable (TooLong name) :=
  inferInstanceAs (Decidable (_ > _))

/-- **The way to the last name.** Where neither a file nor a link is in the way, either a name
is too long, or a directory is missing, or all directories are there and the last name decides.
Which of these happens does not depend on the operation. -/
theorem follow_append_singleton {t : FileTree} {loc : Location} {init : List String} {name : String}
    (hdir : t.get? loc = some .directory) (hinit : ∀ s ∈ init, IsName s ∧ IsPlain s)
    (hname : IsName name) (hclear : Clear t loc init) :
    ((∃ s ∈ init ++ [name], TooLong s) ∧ ∀ last links,
        follow t last links loc (init ++ [name]) = .error .nameTooLong) ∨
      (t.get? (loc ++ init) = none ∧ ∀ last links,
        follow t last links loc (init ++ [name]) = .error .notFound) ∨
      ((∀ s ∈ init, ¬TooLong s) ∧ AllDirectories t loc init ∧ ∀ last links,
        follow t last links loc (init ++ [name]) = follow t last links (loc ++ init) [name]) := by
  induction init generalizing loc with
  | nil =>
    refine Or.inr (Or.inr ⟨by simp, fun above habove => ?_, by simp⟩)
    rwa [List.prefix_nil.mp habove, List.append_nil]
  | cons first rest ih =>
    obtain ⟨⟨hfirst, hplain⟩, hrest⟩ := List.forall_mem_cons.mp hinit
    -- the names behind are not a single slash, as the last of them is a name
    have hreads : ∀ last, Reads last first (rest ++ [name]) := by
      refine fun last => .of_isPlain hfirst hplain fun h => hname.1 ?_
      have hmem : name ∈ rest ++ [name] := by simp
      rw [h] at hmem
      exact List.mem_singleton.mp hmem
    have hassoc : loc ++ [first] ++ rest = loc ++ first :: rest := by simp
    by_cases hlong : TooLong first
    · exact Or.inl ⟨⟨first, by simp, hlong⟩, fun last _ => follow_tooLong (hreads last) hlong⟩
    rcases hclear [first] (by simp) (by simp) with hget | hget
    · refine Or.inr (Or.inl ⟨hassoc ▸ get?_append_eq_none hget rest, fun last links => ?_⟩)
      rw [List.cons_append, follow_free (hreads last) hlong hget, if_neg (by simp)]
    · have hclear' : Clear t (loc ++ [first]) rest := by
        intro above hne habove
        rw [List.append_assoc]
        exact hclear _ (by simp) (List.cons_prefix_cons.mpr ⟨rfl, habove⟩)
      have hstep : ∀ last links, follow t last links loc (first :: (rest ++ [name])) =
          follow t last links (loc ++ [first]) (rest ++ [name]) :=
        fun last _ => follow_directory (hreads last) hlong hget
      simp only [List.cons_append, hstep]
      rw [← hassoc]
      rcases ih hget hrest hclear' with ⟨⟨s, hs, hslong⟩, h⟩ | ⟨hnone, h⟩ | ⟨hshort, hdirs, h⟩
      · exact Or.inl ⟨⟨s, List.mem_cons_of_mem first hs, hslong⟩, h⟩
      · exact Or.inr (Or.inl ⟨hnone, h⟩)
      · refine Or.inr (Or.inr ⟨List.forall_mem_cons.mpr ⟨hlong, hshort⟩, fun above habove => ?_, h⟩)
        rcases List.prefix_cons_iff.mp habove with rfl | ⟨above', rfl, habove'⟩
        · rwa [List.append_nil]
        · rw [← hdirs above' habove', List.append_assoc, List.singleton_append]

end SiteSnapshot.FileTree
