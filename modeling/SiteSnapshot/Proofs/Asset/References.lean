import Mathlib.Data.List.Infix
import SiteSnapshot.Asset.Roots

/-!
# Replacing references pass by pass

A **reference** is an opener, a slash and a bare root. `replaceAll` replaces one reference in a
text, and rewriting a text takes a pass of it for each, which reads what the passes before have
written. Here such passes are shown to be a single scan from left to right (`scan`).

The argument is about windows of the text. Openers occur nowhere else in a reference, nor in its
relative form, and behind the opener of a relative form there is no slash (`Separated`). So an
absolute reference can start only where the input has an opener: what a pass has written offers
no start, and what it has copied offers the same starts as before. A scan does the replacement
for some of the references, and the invariant of the passes is that a pass after a scan is a scan
for one reference more (`replaceAll_scan`).

A scan leaves no reference behind (`Separated.not_absolute_infix_scan`), and a text without
references is left as it is (`scan_eq_self`).
-/

namespace SiteSnapshot

/-! ### Replacing one needle -/

section ReplaceAll

variable {α : Type} [BEq α] {needle replacement : List α}

/-- The output of the search so far stands before the rest. -/
private theorem replaceAll_go_eq (done text : List α) :
    replaceAll.go needle replacement done text =
      done.reverse ++ replaceAll.go needle replacement [] text := by
  induction hn : text.length using Nat.strong_induction_on generalizing done text with
  | _ n ih =>
    cases text with
    | nil => simp [replaceAll.go]
    | cons a rest =>
      rw [replaceAll.go, replaceAll.go]
      have hlen : rest.length + 1 = n := by simpa using hn
      split_ifs with h
      · have hdrop : (rest.drop (needle.length - 1)).length < n := by
          rw [List.length_drop]
          omega
        rw [ih _ hdrop _ _ rfl, ih _ hdrop (replacement.reverse ++ []) _ rfl]
        simp
      · have hrest : rest.length < n := by omega
        rw [ih _ hrest _ _ rfl, ih _ hrest [a] _ rfl]
        simp

theorem replaceAll_nil : replaceAll needle replacement [] = [] := by
  rw [replaceAll, replaceAll.go, List.reverse_nil]

variable [LawfulBEq α]

/-- An occurrence at the start is replaced, and the search goes on behind it. -/
theorem replaceAll_append (hne : needle ≠ []) (text : List α) :
    replaceAll needle replacement (needle ++ text) =
      replacement ++ replaceAll needle replacement text := by
  obtain ⟨a, w, rfl⟩ := List.exists_cons_of_ne_nil hne
  have hpre : (!(a :: w).isEmpty && (a :: w).isPrefixOf (a :: (w ++ text))) = true := by
    simp [List.isPrefixOf_iff_prefix]
  rw [List.cons_append, replaceAll, replaceAll.go, if_pos hpre, replaceAll_go_eq]
  simp [replaceAll]

/-- Without an occurrence at the start, the first element is kept. -/
theorem replaceAll_cons_of_not_prefix {a : α} {rest : List α} (h : ¬needle <+: a :: rest) :
    replaceAll needle replacement (a :: rest) = a :: replaceAll needle replacement rest := by
  have hpre : ¬(!needle.isEmpty && needle.isPrefixOf (a :: rest)) = true := by
    rw [Bool.and_eq_true, List.isPrefixOf_iff_prefix]
    exact fun h' => h h'.2
  rw [replaceAll, replaceAll.go, if_neg hpre, replaceAll_go_eq]
  simp [replaceAll]

/-- Text without the first element of the needle is kept. -/
theorem replaceAll_append_of_notMem {a : α} {w : List α} {kept : List α} (h : a ∉ kept)
    (text : List α) :
    replaceAll (a :: w) replacement (kept ++ text) =
      kept ++ replaceAll (a :: w) replacement text := by
  induction kept with
  | nil => rfl
  | cons b rest ih =>
    rw [List.mem_cons, not_or] at h
    obtain ⟨hb, hrest⟩ := h
    have hpre : ¬a :: w <+: b :: (rest ++ text) := fun h' => hb (List.cons_prefix_cons.mp h').1
    rw [List.cons_append, replaceAll_cons_of_not_prefix hpre, ih hrest, List.cons_append]

end ReplaceAll

namespace Roots

/-! ### References -/

/-- The octet of a slash. -/
def slash : UInt8 := 0x2F

/-- An opener and a root without its leading slash. -/
structure Reference where
  opener : UInt8
  bare : Bytes
deriving DecidableEq

namespace Reference

/-- The reference as it stands in the text. -/
def absolute (r : Reference) : Bytes := r.opener :: slash :: r.bare

/-- The reference with the way to the root in place of the slash. -/
def relative (way : Bytes) (r : Reference) : Bytes := r.opener :: (way ++ r.bare)

theorem absolute_ne_nil (r : Reference) : r.absolute ≠ [] := List.cons_ne_nil _ _

end Reference

/-- The references of a list with which a text starts. -/
def starting? (refs : List Reference) (text : Bytes) : Option Reference :=
  refs.find? fun r => r.absolute.isPrefixOf text

/-- One scan from left to right that replaces the references of a list. -/
def scan (refs : List Reference) (way : Bytes) (text : Bytes) : Bytes :=
  match text with
  | [] => []
  | b :: rest =>
    match starting? refs (b :: rest) with
    | some r => r.relative way ++ scan refs way (rest.drop (r.bare.length + 1))
    | none => b :: scan refs way rest
termination_by text.length
decreasing_by
  · simp only [List.length_drop, List.length_cons]; omega
  · simp only [List.length_cons]; omega

/-- Openers stand only at the start of references, also of relative ones, and what follows
the opener of a relative one is no slash. -/
structure Separated (refs : List Reference) (way : Bytes) : Prop where
  opener_ne_slash : ∀ r ∈ refs, r.opener ≠ slash
  opener_notMem_way : ∀ r ∈ refs, r.opener ∉ way
  opener_notMem_bare : ∀ r ∈ refs, ∀ q ∈ refs, r.opener ∉ q.bare
  relative_head : ∀ r ∈ refs, ∃ b rest, way ++ r.bare = b :: rest ∧ b ≠ slash

section Scan

variable {refs : List Reference} {way : Bytes}

theorem starting?_eq_none_iff {text : Bytes} :
    starting? refs text = none ↔ ∀ r ∈ refs, ¬r.absolute <+: text := by
  simp [starting?, List.find?_eq_none]

theorem of_starting?_eq_some {text : Bytes} {r : Reference} (h : starting? refs text = some r) :
    r ∈ refs ∧ r.absolute <+: text :=
  ⟨List.mem_of_find?_eq_some h, by simpa using List.find?_some h⟩

@[simp]
theorem scan_nil : scan refs way [] = [] := by
  rw [scan]

/-- A reference at the start is replaced. -/
theorem scan_absolute_append {text : Bytes} {r : Reference}
    (h : starting? refs (r.absolute ++ text) = some r) :
    scan refs way (r.absolute ++ text) = r.relative way ++ scan refs way text := by
  rw [Reference.absolute, List.cons_append, scan, ← List.cons_append, ← Reference.absolute, h]
  simp

/-- Without a reference at the start, the first octet is kept. -/
theorem scan_cons_of_starting?_eq_none {b : UInt8} {rest : Bytes}
    (h : starting? refs (b :: rest) = none) :
    scan refs way (b :: rest) = b :: scan refs way rest := by
  rw [scan, h]

/-- A text starts with a reference, or its first octet is kept. -/
theorem scan_cases (refs : List Reference) (way : Bytes) (b : UInt8) (rest : Bytes) :
    (∃ r ∈ refs, ∃ text, b :: rest = r.absolute ++ text ∧
      starting? refs (b :: rest) = some r ∧
        scan refs way (b :: rest) = r.relative way ++ scan refs way text) ∨
      starting? refs (b :: rest) = none ∧
        scan refs way (b :: rest) = b :: scan refs way rest := by
  cases h : starting? refs (b :: rest) with
  | none => exact Or.inr ⟨rfl, scan_cons_of_starting?_eq_none h⟩
  | some r =>
    obtain ⟨hr, text, htext⟩ := of_starting?_eq_some h
    rw [← htext] at h ⊢
    exact Or.inl ⟨r, hr, text, rfl, h ▸ rfl, scan_absolute_append h⟩

/-- Octets that open no reference are copied. -/
theorem scan_append_of_forall_notMem {kept : Bytes} (h : ∀ r ∈ refs, r.opener ∉ kept)
    (text : Bytes) : scan refs way (kept ++ text) = kept ++ scan refs way text := by
  induction kept with
  | nil => rfl
  | cons b rest ih =>
    have hnone : starting? refs (b :: (rest ++ text)) = none := by
      refine starting?_eq_none_iff.mpr fun r hr hpre => ?_
      exact h r hr (List.mem_cons.mpr (Or.inl (List.cons_prefix_cons.mp hpre).1))
    rw [List.cons_append, scan_cons_of_starting?_eq_none hnone,
      ih fun r hr hm => h r hr (List.mem_cons_of_mem b hm), List.cons_append]

/-- A reference at the start that is none of those to replace is copied. -/
theorem scan_absolute_append_of_eq_none {p : Reference}
    (htail : ∀ r ∈ refs, r.opener ∉ slash :: p.bare) {text : Bytes}
    (h : starting? refs (p.absolute ++ text) = none) :
    scan refs way (p.absolute ++ text) = p.absolute ++ scan refs way text := by
  rw [Reference.absolute, List.cons_append] at h ⊢
  rw [scan_cons_of_starting?_eq_none h, scan_append_of_forall_notMem htail]
  rfl

/-- A word that opens no reference stands before the same places after a scan. -/
theorem prefix_scan_iff {w : Bytes} (hw : ∀ r ∈ refs, r.opener ∉ w) (text : Bytes) :
    w <+: scan refs way text ↔ w <+: text := by
  induction w generalizing text with
  | nil => simp
  | cons c w ih =>
    have hc : ∀ r ∈ refs, c ≠ r.opener := fun r hr hcr => hw r hr (by simp [hcr])
    cases text with
    | nil => simp
    | cons b rest =>
      rcases scan_cases refs way b rest with
        ⟨r, hr, text, htext, -, hscan⟩ | ⟨-, hscan⟩
      · -- both sides start with an opener, the word does not
        rw [hscan, htext, Reference.relative, Reference.absolute, List.cons_append,
          List.cons_append, List.cons_prefix_cons, List.cons_prefix_cons]
        exact iff_of_false (fun h => hc r hr h.1) fun h => hc r hr h.1
      · rw [hscan, List.cons_prefix_cons, List.cons_prefix_cons,
          ih (fun r hr hm => hw r hr (List.mem_cons_of_mem c hm))]

/-- Nothing is replaced for no references. -/
@[simp]
theorem scan_nil_left (text : Bytes) : scan [] way text = text := by
  induction text with
  | nil => exact scan_nil
  | cons b rest ih => rw [scan_cons_of_starting?_eq_none rfl, ih]

/-! ### A pass after a scan -/

/-- Fewer references are separated too. -/
theorem Separated.of_append_left {refs qs : List Reference} (h : Separated (refs ++ qs) way) :
    Separated refs way where
  opener_ne_slash r hr := h.opener_ne_slash r (List.mem_append_left qs hr)
  opener_notMem_way r hr := h.opener_notMem_way r (List.mem_append_left qs hr)
  opener_notMem_bare r hr q hq :=
    h.opener_notMem_bare r (List.mem_append_left qs hr) q (List.mem_append_left qs hq)
  relative_head r hr := h.relative_head r (List.mem_append_left qs hr)

/-- No opener stands behind the opener of a reference. -/
theorem Separated.opener_notMem_tail (h : Separated refs way) {r p : Reference} (hr : r ∈ refs)
    (hp : p ∈ refs) : r.opener ∉ slash :: p.bare := by
  rw [List.mem_cons, not_or]
  exact ⟨h.opener_ne_slash r hr, h.opener_notMem_bare r hr p hp⟩

/-- A relative reference does not start with an absolute one, whatever follows it. -/
theorem Separated.not_absolute_prefix_relative (h : Separated refs way) {r p : Reference}
    (hr : r ∈ refs) (text : Bytes) : ¬p.absolute <+: r.opener :: (way ++ r.bare ++ text) := by
  obtain ⟨b, rest, hb, hne⟩ := h.relative_head r hr
  rw [hb, Reference.absolute, List.cons_append, List.cons_prefix_cons, List.cons_prefix_cons]
  exact fun h' => hne h'.2.1.symm

/-- A pass copies relative references. -/
theorem Separated.replaceAll_relative_append (h : Separated refs way) {r p : Reference}
    (hr : r ∈ refs) (hp : p ∈ refs) (text : Bytes) :
    replaceAll p.absolute (p.relative way) (r.relative way ++ text) =
      r.relative way ++ replaceAll p.absolute (p.relative way) text := by
  have hkept : p.opener ∉ way ++ r.bare := by
    rw [List.mem_append, not_or]
    exact ⟨h.opener_notMem_way p hp, h.opener_notMem_bare p hp r hr⟩
  rw [Reference.relative.eq_1 way r, List.cons_append,
    replaceAll_cons_of_not_prefix (h.not_absolute_prefix_relative hr text), Reference.absolute,
    replaceAll_append_of_notMem hkept]
  rfl

/-- **A pass after a scan is a scan for one reference more.** -/
theorem replaceAll_scan {p : Reference} (h : Separated (refs ++ [p]) way) (text : Bytes) :
    replaceAll p.absolute (p.relative way) (scan refs way text) = scan (refs ++ [p]) way text := by
  have hp : p ∈ refs ++ [p] := by simp
  have hrefs : ∀ r ∈ refs, r ∈ refs ++ [p] := fun r hr => List.mem_append_left [p] hr
  have htail : ∀ r ∈ refs, r.opener ∉ slash :: p.bare := fun r hr =>
    h.opener_notMem_tail (hrefs r hr) hp
  have hmore : ∀ text, starting? (refs ++ [p]) text =
      (starting? refs text).or (starting? [p] text) := fun text => List.find?_append
  -- induction on the length, since both searches go on behind what they have replaced
  induction hn : text.length using Nat.strong_induction_on generalizing text with
  | _ n ih =>
    cases text with
    | nil => rw [scan_nil, scan_nil, replaceAll_nil]
    | cons b rest =>
      have hshorter : ∀ {r : Reference} {text : Bytes}, b :: rest = r.absolute ++ text →
          text.length < n := by
        intro r text htext
        rw [← hn, htext, Reference.absolute]
        simp only [List.length_append, List.length_cons]
        omega
      rcases scan_cases refs way b rest with
        ⟨r, hr, text, htext, hstart, hscan⟩ | ⟨hstart, hscan⟩
      · -- the pass copies what the scan has written
        have hr' : starting? (refs ++ [p]) (r.absolute ++ text) = some r := by
          rw [hmore, ← htext, hstart, Option.some_or]
        rw [hscan, htext, scan_absolute_append hr', h.replaceAll_relative_append (hrefs r hr) hp,
          ih _ (hshorter htext) text rfl]
      · by_cases hpre : p.absolute <+: b :: rest
        · -- the scan has kept the reference of the pass
          obtain ⟨text, htext⟩ := hpre
          rw [← htext] at hstart ⊢
          have hp' : starting? (refs ++ [p]) (p.absolute ++ text) = some p := by
            rw [hmore, hstart, Option.none_or]
            simp [starting?]
          rw [scan_absolute_append_of_eq_none htail hstart, scan_absolute_append hp',
            replaceAll_append p.absolute_ne_nil, ih _ (hshorter htext.symm) text rfl]
        · -- the scan has made no reference of the pass
          have hpre' : ¬p.absolute <+: b :: scan refs way rest := by
            rw [Reference.absolute, List.cons_prefix_cons] at hpre ⊢
            rwa [prefix_scan_iff htail]
          have hp' : starting? (refs ++ [p]) (b :: rest) = none := by
            rw [hmore, hstart, Option.none_or]
            simpa [starting?] using hpre
          rw [hscan, replaceAll_cons_of_not_prefix hpre', scan_cons_of_starting?_eq_none hp',
            ih _ (by simp [← hn]) rest rfl]

/-- The passes for separated references, one after the other, are one scan for all of them. -/
theorem foldl_replaceAll_eq_scan (h : Separated refs way) (text : Bytes) :
    refs.foldl (fun text r => replaceAll r.absolute (r.relative way) text) text =
      scan refs way text := by
  induction refs using List.reverseRecOn with
  | nil => rw [List.foldl_nil, scan_nil_left]
  | append_singleton refs p ih =>
    rw [List.foldl_append, ih h.of_append_left, List.foldl_cons, List.foldl_nil,
      replaceAll_scan h]

/-! ### What a scan leaves -/

/-- A text without references stays as it is. -/
theorem scan_eq_self {text : Bytes} (h : ∀ r ∈ refs, ¬r.absolute <:+: text) :
    scan refs way text = text := by
  induction text with
  | nil => exact scan_nil
  | cons b rest ih =>
    have hnone : starting? refs (b :: rest) = none :=
      starting?_eq_none_iff.mpr fun r hr hpre => h r hr hpre.isInfix
    rw [scan_cons_of_starting?_eq_none hnone,
      ih fun r hr hin => h r hr (hin.trans (List.suffix_cons b rest).isInfix)]

/-- Octets without the opener of a reference start no occurrence of it. -/
private theorem absolute_infix_append {r : Reference} {kept text : Bytes} (h : r.opener ∉ kept)
    (hin : r.absolute <:+: kept ++ text) : r.absolute <:+: text := by
  induction kept with
  | nil => exact hin
  | cons b rest ih =>
    rw [List.mem_cons, not_or] at h
    rw [List.cons_append, List.infix_cons_iff] at hin
    rcases hin with hpre | hin
    · exact absurd (List.cons_prefix_cons.mp hpre).1 h.1
    · exact ih h.2 hin

/-- **A scan leaves no reference.** -/
theorem Separated.not_absolute_infix_scan (h : Separated refs way) {p : Reference} (hp : p ∈ refs)
    (text : Bytes) : ¬p.absolute <:+: scan refs way text := by
  induction hn : text.length using Nat.strong_induction_on generalizing text with
  | _ n ih =>
    cases text with
    | nil => simp [Reference.absolute]
    | cons b rest =>
      intro hin
      rcases scan_cases refs way b rest with
        ⟨r, hr, text, htext, -, hscan⟩ | ⟨hstart, hscan⟩
      · have hlen : text.length < n := by
          rw [← hn, htext, Reference.absolute]
          simp only [List.length_append, List.length_cons]
          omega
        -- an occurrence starts with an opener, and the only one written here has no slash behind it
        have hkept : p.opener ∉ way ++ r.bare := by
          rw [List.mem_append, not_or]
          exact ⟨h.opener_notMem_way p hp, h.opener_notMem_bare p hp r hr⟩
        rw [hscan, Reference.relative, List.cons_append, List.infix_cons_iff] at hin
        rcases hin with hpre | hin
        · exact h.not_absolute_prefix_relative hr _ hpre
        · exact ih _ hlen text rfl (absolute_infix_append hkept hin)
      · rw [hscan, List.infix_cons_iff] at hin
        rcases hin with hpre | hin
        · rw [Reference.absolute, List.cons_prefix_cons,
            prefix_scan_iff fun r hr => h.opener_notMem_tail hr hp] at hpre
          exact starting?_eq_none_iff.mp hstart p hp (List.cons_prefix_cons.mpr hpre)
        · exact ih _ (by simp [← hn]) rest rfl hin

end Scan

end Roots

end SiteSnapshot
