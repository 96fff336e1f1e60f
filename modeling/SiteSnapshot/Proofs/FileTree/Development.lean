import SiteSnapshot.Proofs.FileTree.Places

/-!
# Developing trees

A tree **develops** while directories are made and files are written: what was a directory or a
file stays one, and links are neither made nor changed (`Develops`). The contents of files may
change, and anything may appear at a free place.

Where a path leads is the same before and after, as far as it leads anywhere (`Develops.follow`,
`Develops.follow_or`). Before, a directory on the way may still be missing, or what a link leads
to; the latter cannot be if every link led to something from the start (`LinksLead`).
-/

namespace SiteSnapshot.FileTree

/-- A tree that has **developed** from another: directories are still directories, files are still
files, and the links are the same. -/
structure Develops (s t : FileTree) : Prop where
  current : t.current = s.current
  directory : ∀ {loc}, s.get? loc = some .directory → t.get? loc = some .directory
  file : ∀ {loc octets}, s.get? loc = some (.file octets) →
    ∃ octets', t.get? loc = some (.file octets')
  link : ∀ {loc target}, t.get? loc = some (.link target) ↔ s.get? loc = some (.link target)

namespace Develops

variable {s t u : FileTree}

theorem refl (t : FileTree) : Develops t t :=
  ⟨rfl, id, fun h => ⟨_, h⟩, Iff.rfl⟩

theorem trans (hst : Develops s t) (htu : Develops t u) : Develops s u where
  current := htu.current.trans hst.current
  directory h := htu.directory (hst.directory h)
  file h := by
    obtain ⟨octets, hfile⟩ := hst.file h
    exact htu.file hfile
  link := htu.link.trans hst.link

theorem keepsPlaces (h : Develops s t) : KeepsPlaces s t := by
  refine ⟨h.current, fun loc e hfile hget => ?_⟩
  cases e with
  | directory => exact h.directory hget
  | file octets => exact absurd rfl (hfile octets)
  | link target => exact h.link.mpr hget

/-- The current directory stays where it is. -/
theorem get?_current (h : Develops s t) (hcurrent : s.get? s.current = some .directory) :
    t.get? t.current = some .directory := by
  rw [h.current]
  exact h.directory hcurrent

/-- Where there was something, there is something. -/
theorem get?_ne_none (h : Develops s t) {loc : Location} (hget : s.get? loc ≠ none) :
    t.get? loc ≠ none := by
  cases hs : s.get? loc with
  | none => exact absurd hs hget
  | some e =>
    cases e with
    | directory => simp [h.directory hs]
    | file octets =>
      obtain ⟨octets', hfile⟩ := h.file hs
      simp [hfile]
    | link target => simp [h.link.mpr hs]

end Develops

/-- The place of a target. -/
def Target.place : Target → Location
  | .present loc _ => loc
  | .free dir name => dir ++ [name]

/-- A target that says what is at its place. -/
def Target.Fits (t : FileTree) : Target → Prop
  | .present loc e => t.get? loc = some e
  | .free dir name => t.get? dir = some .directory ∧ t.get? (dir ++ [name]) = none

section Follow

variable {s t : FileTree} {last : LastName} {links : ℕ} {dir : Location} {steps more : List String}
  {target : Target}

theorem get?_dropLast {loc : Location} (h : t.get? loc = some .directory) :
    t.get? loc.dropLast = some .directory := by
  rcases List.eq_nil_or_concat loc with rfl | ⟨init, name, rfl⟩
  · exact h
  · rw [List.concat_eq_append] at h
    rw [List.concat_eq_append, List.dropLast_concat]
    exact get?_of_get?_append_singleton h

theorem get?_linkStart (hdir : t.get? dir = some .directory) (text : String) :
    t.get? (if FilePath.isAbsolute text then [] else dir) = some .directory := by
  split_ifs
  · rfl
  · exact hdir

/-- Steps from a directory lead to what is there. -/
theorem fits_of_follow (hdir : t.get? dir = some .directory)
    (h : follow t last links dir steps = .ok target) : target.Fits t := by
  fun_induction follow t last links dir steps with
  | case1 links dir =>
    obtain rfl := Except.ok.inj h
    simp [Target.Fits, hdir]
  | case2 links dir name rest _ ih => exact ih hdir h
  | case3 links dir rest _ ih => exact ih (get?_dropLast hdir) h
  | case6 links dir name rest _ _ _ _ hget hrest =>
    obtain rfl := Except.ok.inj h
    exact ⟨hdir, hget⟩
  | case8 links dir name rest _ _ _ _ hget ih => exact ih hget h
  | case9 links dir name rest _ _ _ _ octets hget _ =>
    obtain rfl := Except.ok.inj h
    exact hget
  | case11 links dir name rest _ _ _ _ text hget _ =>
    obtain rfl := Except.ok.inj h
    exact hget
  | case13 dir name rest _ _ _ _ text hget _ links _ ih =>
    exact ih (get?_linkStart hdir text) h
  | _ => cases h

/-- Only an operation that keeps the last link ends at one. -/
theorem ne_link_of_follow (hdir : t.get? dir = some .directory) (hlast : last ≠ .kept)
    {loc : Location} {text : String} :
    follow t last links dir steps ≠ .ok (.present loc (.link text)) := by
  intro h
  fun_induction follow t last links dir steps with
  | case1 links dir => simp [hdir] at h
  | case2 links dir name rest _ ih => exact ih hdir h
  | case3 links dir rest _ ih => exact ih (get?_dropLast hdir) h
  | case8 links dir name rest _ _ _ _ hget ih => exact ih hget h
  | case11 links dir name rest _ _ _ _ text hget hkept => exact hlast hkept.2
  | case13 dir name rest _ _ _ _ text hget _ links _ ih =>
    exact ih (get?_linkStart hdir text) h
  | _ => cases h

/-- A last name at which there is no link is where it leads. -/
theorem exists_follow_singleton {name : String} (h : Reads last name [])
    (hshort : ¬name.utf8ByteSize > maxName)
    (hlink : ∀ text, t.get? (dir ++ [name]) ≠ some (.link text)) :
    ∃ target, follow t last links dir [name] = .ok target ∧ target.place = dir ++ [name] := by
  cases hget : t.get? (dir ++ [name]) with
  | none => exact ⟨.free dir name, by rw [follow_free h hshort hget]; rfl, rfl⟩
  | some e =>
    cases e with
    | directory =>
      refine ⟨.present (dir ++ [name]) .directory, ?_, rfl⟩
      rw [follow_directory h hshort hget, follow, hget, Option.getD_some]
    | file octets =>
      exact ⟨.present (dir ++ [name]) (.file octets), by rw [follow_file h hshort hget]; rfl, rfl⟩
    | link text => exact absurd hget (hlink text)

/-- **Where steps lead stays the same** while a tree develops. -/
theorem Develops.follow (h : Develops s t) (hs : follow s last links dir steps = .ok target) :
    ∃ target', follow t last links dir steps = .ok target' ∧ target'.place = target.place := by
  fun_induction FileTree.follow s last links dir steps with
  | case1 links dir =>
    obtain rfl := Except.ok.inj hs
    exact ⟨.present dir ((t.get? dir).getD .directory), by rw [FileTree.follow], rfl⟩
  | case2 links dir name rest hstay ih =>
    rw [follow_stay hstay]
    exact ih hs
  | case3 links dir rest _ ih =>
    rw [follow_up]
    exact ih hs
  | case6 links dir name rest hstay hup hslash hshort hget hrest =>
    obtain rfl := Except.ok.inj hs
    obtain rfl := List.isEmpty_iff.mp hrest
    refine exists_follow_singleton ⟨hstay, hup, hslash⟩ hshort fun text hlink => ?_
    rw [h.link, hget] at hlink
    cases hlink
  | case8 links dir name rest hstay hup hslash hshort hget ih =>
    rw [follow_directory ⟨hstay, hup, hslash⟩ hshort (h.directory hget)]
    exact ih hs
  | case9 links dir name rest hstay hup hslash hshort octets hget hrest =>
    obtain rfl := Except.ok.inj hs
    obtain rfl := List.isEmpty_iff.mp hrest
    obtain ⟨octets', hfile⟩ := h.file hget
    exact exists_follow_singleton ⟨hstay, hup, hslash⟩ hshort (by simp [hfile])
  | case11 links dir name rest hstay hup hslash hshort text hget hkept =>
    obtain rfl := Except.ok.inj hs
    obtain ⟨hrest, rfl⟩ := hkept
    obtain rfl := List.isEmpty_iff.mp hrest
    exact ⟨_, follow_link_kept hshort ⟨hstay, hup, hslash⟩ (h.link.mpr hget), rfl⟩
  | case13 dir name rest hstay hup hslash hshort text hget hkept links _ ih =>
    rw [follow_link ⟨hstay, hup, hslash⟩ hshort (h.link.mpr hget) hkept]
    exact ih hs
  | _ => cases hs

/-- **Before a tree developed**, steps led to the same place, unless a directory was missing. -/
theorem Develops.follow_or (h : Develops s t)
    (ht : FileTree.follow t last links dir steps = .ok target) :
    (∃ target', FileTree.follow s last links dir steps = .ok target' ∧
        target'.place = target.place) ∨
      FileTree.follow s last links dir steps = .error .notFound := by
  fun_induction FileTree.follow s last links dir steps with
  | case1 links dir =>
    rw [FileTree.follow] at ht
    obtain rfl := Except.ok.inj ht
    exact Or.inl ⟨_, rfl, rfl⟩
  | case2 links dir name rest hstay ih =>
    rw [follow_stay hstay] at ht
    exact ih ht
  | case3 links dir rest _ ih =>
    rw [follow_up] at ht
    exact ih ht
  | case4 links dir name rest hstay hup hslash =>
    rw [FileTree.follow, if_neg hstay, if_neg hup, if_pos hslash] at ht
    cases ht
  | case5 links dir name rest hstay hup hslash hlong =>
    rw [follow_tooLong ⟨hstay, hup, hslash⟩ hlong] at ht
    cases ht
  | case6 links dir name rest hstay hup hslash hshort hget hrest =>
    obtain rfl := List.isEmpty_iff.mp hrest
    have hlink : ∀ text, t.get? (dir ++ [name]) ≠ some (.link text) := by
      intro text hlink
      rw [h.link, hget] at hlink
      cases hlink
    obtain ⟨target', htarget', hplace⟩ : ∃ target', FileTree.follow t last links dir [name] =
        .ok target' ∧ target'.place = dir ++ [name] :=
      exists_follow_singleton ⟨hstay, hup, hslash⟩ hshort hlink
    obtain rfl := Except.ok.inj (ht.symm.trans htarget')
    exact Or.inl ⟨_, rfl, hplace.symm⟩
  | case7 => exact Or.inr rfl
  | case8 links dir name rest hstay hup hslash hshort hget ih =>
    rw [follow_directory ⟨hstay, hup, hslash⟩ hshort (h.directory hget)] at ht
    exact ih ht
  | case9 links dir name rest hstay hup hslash hshort octets hget hrest =>
    obtain ⟨octets', hfile⟩ := h.file hget
    rw [follow_file ⟨hstay, hup, hslash⟩ hshort hfile, if_pos hrest] at ht
    obtain rfl := Except.ok.inj ht
    exact Or.inl ⟨_, rfl, rfl⟩
  | case10 links dir name rest hstay hup hslash hshort octets hget hrest =>
    obtain ⟨octets', hfile⟩ := h.file hget
    rw [follow_file ⟨hstay, hup, hslash⟩ hshort hfile, if_neg hrest] at ht
    cases ht
  | case11 links dir name rest hstay hup hslash hshort text hget hkept =>
    obtain ⟨hrest, rfl⟩ := hkept
    obtain rfl := List.isEmpty_iff.mp hrest
    rw [follow_link_kept hshort ⟨hstay, hup, hslash⟩ (h.link.mpr hget)] at ht
    obtain rfl := Except.ok.inj ht
    exact Or.inl ⟨_, rfl, rfl⟩
  | case12 dir name rest hstay hup hslash hshort text hget hkept =>
    rw [follow_linkLoop ⟨hstay, hup, hslash⟩ hshort (h.link.mpr hget) hkept] at ht
    cases ht
  | case13 dir name rest hstay hup hslash hshort text hget hkept links _ ih =>
    rw [follow_link ⟨hstay, hup, hslash⟩ hshort (h.link.mpr hget) hkept] at ht
    exact ih ht

/-- A name from which steps lead on is read. -/
theorem Reads.of_follow {name : String} {rest : List String} (hstay : ¬(name = "" ∨ name = "."))
    (hup : name ≠ "..") (h : FileTree.follow t last links dir (name :: rest) = .ok target) :
    Reads last name rest := by
  refine ⟨hstay, hup, fun hslash => ?_⟩
  rw [FileTree.follow, if_neg hstay, if_neg hup, if_pos hslash] at h
  cases h

/-- Above the place that steps lead to, each of them leads to a directory. -/
theorem exists_follow_of_append (hdir : t.get? dir = some .directory) (hmore : more ≠ [])
    (h : follow t last links dir (steps ++ more) = .ok target) :
    ∃ loc, t.get? loc = some .directory ∧
      follow t .followed links dir steps = .ok (.present loc .directory) := by
  fun_induction follow t .followed links dir steps with
  | case1 links dir => exact ⟨dir, hdir, by rw [hdir]; rfl⟩
  | case2 links dir name rest hstay ih =>
    rw [List.cons_append, follow_stay hstay] at h
    exact ih hdir h
  | case3 links dir rest _ ih =>
    rw [List.cons_append, follow_up] at h
    exact ih (get?_dropLast hdir) h
  | case4 links dir name rest hstay hup hslash => simp at hslash
  | case5 links dir name rest hstay hup _ hlong =>
    rw [List.cons_append] at h
    rw [follow_tooLong (.of_follow hstay hup h) hlong] at h
    cases h
  -- a name with nothing or a file at its place is no step to further ones
  | case6 links dir name rest hstay hup _ hshort hget
  | case7 links dir name rest hstay hup _ hshort hget =>
    rw [List.cons_append] at h
    rw [follow_free (.of_follow hstay hup h) hshort hget, if_neg (by simp [hmore])] at h
    cases h
  | case8 links dir name rest hstay hup _ hshort hget ih =>
    rw [List.cons_append] at h
    rw [follow_directory (.of_follow hstay hup h) hshort hget] at h
    exact ih hget h
  | case9 links dir name rest hstay hup _ hshort octets hget
  | case10 links dir name rest hstay hup _ hshort octets hget =>
    rw [List.cons_append] at h
    rw [follow_file (.of_follow hstay hup h) hshort hget, if_neg (by simp [hmore])] at h
    cases h
  | case11 => simp_all
  | case12 dir name rest hstay hup _ hshort text hget _ =>
    rw [List.cons_append] at h
    rw [follow_linkLoop (.of_follow hstay hup h) hshort hget (by simp [hmore])] at h
    cases h
  | case13 dir name rest hstay hup _ hshort text hget _ links _ ih =>
    rw [List.cons_append] at h
    rw [follow_link (.of_follow hstay hup h) hshort hget (by simp [hmore]),
      ← List.append_assoc] at h
    exact ih (get?_linkStart hdir text) h

/-- Unless a link is at the end, it makes no difference whether that would be followed. -/
theorem follow_followed_of_kept (h : follow t .kept links dir steps = .ok target)
    (hlink : ∀ loc text, target ≠ .present loc (.link text)) :
    follow t .followed links dir steps = .ok target := by
  fun_induction follow t .kept links dir steps with
  | case1 links dir => rwa [follow]
  | case2 links dir name rest hstay ih =>
    rw [follow_stay hstay]
    exact ih h
  | case3 links dir rest _ ih =>
    rw [follow_up]
    exact ih h
  | case6 links dir name rest hstay hup _ hshort hget hrest =>
    rw [follow_free (.of_ne_written hstay hup (by simp)) hshort hget, if_pos hrest]
    exact h
  | case8 links dir name rest hstay hup _ hshort hget ih =>
    rw [follow_directory (.of_ne_written hstay hup (by simp)) hshort hget]
    exact ih h
  | case9 links dir name rest hstay hup _ hshort octets hget hrest =>
    rw [follow_file (.of_ne_written hstay hup (by simp)) hshort hget, if_pos hrest]
    exact h
  | case11 links dir name rest _ _ _ _ text _ _ =>
    exact absurd (Except.ok.inj h).symm (hlink _ _)
  | case13 dir name rest hstay hup _ hshort text hget _ links _ ih =>
    rw [follow_link (.of_ne_written hstay hup (by simp)) hshort hget (by simp)]
    exact ih h
  | _ => cases h

end Follow

/-! ### Links that lead somewhere -/

/-- A tree in which every link leads to something that is there. -/
def LinksLead (t : FileTree) : Prop :=
  ∀ dir name text, t.get? (dir ++ [name]) = some (.link text) →
    ∃ loc e, follow t .followed maxLinks (if FilePath.isAbsolute text then [] else dir)
      (stepsOf text) = .ok (.present loc e)

section Links

variable {r s t : FileTree} {last : LastName} {links links' : ℕ} {dir loc : Location}
  {steps : List String} {target : Target} {e : Entry}

/-- **A way to what is there** stays one while the tree develops. -/
theorem Develops.follow_present (h : Develops s t) (hdir : s.get? dir = some .directory)
    (hs : FileTree.follow s last links dir steps = .ok (.present loc e)) :
    ∃ e', FileTree.follow t last links dir steps = .ok (.present loc e') := by
  obtain ⟨target, htarget, hplace⟩ := h.follow hs
  have hget : s.get? loc = some e := fits_of_follow hdir hs
  have hfits := fits_of_follow (h.directory hdir) htarget
  cases target with
  | present loc' e' =>
    obtain rfl : loc' = loc := hplace
    exact ⟨e', htarget⟩
  | free dir' name =>
    -- where there was something, there is something
    obtain rfl : dir' ++ [name] = loc := hplace
    exact absurd hfits.2 (h.get?_ne_none (by simp [hget]))

/-- Nothing is missing on a way that leads to something, however the way ends. -/
theorem Develops.exists_follow_of_present (h : Develops s t) (hlast : last ≠ .kept)
    (hs : FileTree.follow s .followed links' dir steps = .ok (.present loc e))
    (ht : FileTree.follow t last links dir steps = .ok target) :
    ∃ loc e, FileTree.follow s last links dir steps = .ok (.present loc e) := by
  fun_induction FileTree.follow s .followed links' dir steps generalizing links with
  | case1 links' dir => exact ⟨dir, _, by rw [FileTree.follow]⟩
  | case2 links' dir name rest hstay ih =>
    rw [follow_stay hstay] at ht ⊢
    exact ih hs ht
  | case3 links' dir rest _ ih =>
    rw [follow_up] at ht ⊢
    exact ih hs ht
  | case8 links' dir name rest hstay hup _ hshort hget ih =>
    have hreads := Reads.of_follow hstay hup ht
    rw [follow_directory hreads hshort (h.directory hget)] at ht
    rw [follow_directory hreads hshort hget]
    exact ih hs ht
  | case9 links' dir name rest hstay hup _ hshort octets hget hrest =>
    exact ⟨_, _, by rw [follow_file (.of_follow hstay hup ht) hshort hget, if_pos hrest]⟩
  | case11 => simp_all
  | case13 dir name rest hstay hup _ hshort text hget _ links' start =>
    rename_i ih
    have hreads := Reads.of_follow hstay hup ht
    have hnot : ¬(rest.isEmpty = true ∧ last = .kept) := fun hkept => hlast hkept.2
    cases links with
    | zero =>
      rw [follow_linkLoop hreads hshort (h.link.mpr hget) hnot] at ht
      cases ht
    | succ links =>
      rw [follow_link hreads hshort (h.link.mpr hget) hnot] at ht
      rw [follow_link hreads hshort hget hnot]
      exact ih hs ht
  | _ => cases hs

/-- What a link leads to in a developed tree, it leads to before. -/
theorem LinksLead.exists_follow (hr : r.LinksLead) (hrs : Develops r s) (hst : Develops s t)
    (hlast : last ≠ .kept) {name text : String} (hlink : s.get? (dir ++ [name]) = some (.link text))
    (ht : follow t last links (if FilePath.isAbsolute text then [] else dir) (stepsOf text) =
      .ok target) :
    ∃ loc e, follow s last links (if FilePath.isAbsolute text then [] else dir) (stepsOf text) =
      .ok (.present loc e) := by
  have hlink' := hrs.link.mp hlink
  obtain ⟨loc, e, hfollow⟩ := hr dir name text hlink'
  obtain ⟨loc', e', hfollow'⟩ := (hrs.trans hst).exists_follow_of_present hlast hfollow ht
  have hdir := get?_linkStart (get?_of_get?_append_singleton hlink') text
  exact ⟨loc', hrs.follow_present hdir hfollow'⟩

/-- If links lead somewhere, a way to what is there can be followed to its end. -/
theorem LinksLead.exists_follow_of_kept (hr : r.LinksLead) (hrs : Develops r s)
    (hst : Develops s t) (hs : follow s .kept links dir steps = .ok (.present loc e))
    (ht : follow t .followed links dir steps = .ok target) :
    ∃ loc e, follow s .followed links dir steps = .ok (.present loc e) := by
  fun_induction follow s .kept links dir steps with
  | case1 links dir => exact ⟨dir, _, by rw [follow]⟩
  | case2 links dir name rest hstay ih =>
    rw [follow_stay hstay] at ht ⊢
    exact ih hs ht
  | case3 links dir rest _ ih =>
    rw [follow_up] at ht ⊢
    exact ih hs ht
  | case8 links dir name rest hstay hup _ hshort hget ih =>
    have hreads := Reads.of_follow hstay hup ht
    rw [follow_directory hreads hshort (hst.directory hget)] at ht
    rw [follow_directory hreads hshort hget]
    exact ih hs ht
  | case9 links dir name rest hstay hup _ hshort octets hget hrest =>
    exact ⟨_, _, by rw [follow_file (.of_follow hstay hup ht) hshort hget, if_pos hrest]⟩
  -- a link at the end
  | case11 links dir name rest hstay hup _ hshort text hget hkept =>
    have hreads := Reads.of_follow hstay hup ht
    obtain rfl := List.isEmpty_iff.mp hkept.1
    cases links with
    | zero =>
      rw [follow_linkLoop hreads hshort (hst.link.mpr hget) (by simp)] at ht
      cases ht
    | succ links =>
      rw [follow_link hreads hshort (hst.link.mpr hget) (by simp), List.append_nil] at ht
      rw [follow_link hreads hshort hget (by simp), List.append_nil]
      exact hr.exists_follow hrs hst (by simp) hget ht
  | case13 dir name rest hstay hup _ hshort text hget _ links _ ih =>
    have hreads := Reads.of_follow hstay hup ht
    rw [follow_link hreads hshort (hst.link.mpr hget) (by simp)] at ht
    rw [follow_link hreads hshort hget (by simp)]
    exact ih hs ht
  | _ => cases hs

end Links

end SiteSnapshot.FileTree
