import Mathlib.Data.Nat.Find
import SiteSnapshot.Proofs.Asset.References

/-!
# The occurrences that a replacement finds

A search from the left that goes on behind each occurrence cuts a text into pieces (`Cut`): a piece
ends where the needle occurs first, and the last piece is free of it. This says nothing of how the
search is done, also not for a needle that overlaps itself. A needle that is not empty cuts each
text (`exists_cut`) in one way (`Cut.unique`), and replacing it puts the replacement between the
same pieces (`Cut.replaceAll_eq`).
-/

namespace SiteSnapshot

variable {α : Type} {needle text : List α} {pieces : List (List α)}

/-- The pieces of a text between the occurrences of a needle, found from left to right. -/
inductive Cut (needle : List α) : List α → List (List α) → Prop
  /-- A text without the needle is one piece. -/
  | last {text : List α} (hno : ¬needle <:+: text) : Cut needle text [text]
  /-- A piece ends where the needle occurs first, and the rest behind the needle is cut likewise. -/
  | next {piece rest : List α} {pieces : List (List α)}
      (hfirst : ∀ before behind, before ++ (needle ++ behind) = piece ++ (needle ++ rest) →
        piece.length ≤ before.length)
      (hrest : Cut needle rest pieces) : Cut needle (piece ++ (needle ++ rest)) (piece :: pieces)

namespace Cut

theorem ne_nil (h : Cut needle text pieces) : pieces ≠ [] := by
  cases h <;> exact List.cons_ne_nil _ _

/-- **The pieces are those of the text**: with the needle between them they give it back. -/
theorem eq_intercalate (h : Cut needle text pieces) : text = needle.intercalate pieces := by
  induction h with
  | last hno => rw [List.intercalate_singleton]
  | next hfirst hrest ih =>
    rw [List.intercalate_cons_of_ne_nil hrest.ne_nil, ← ih, List.append_assoc]

/-- What the needle has nothing of is in the pieces, in its order. -/
theorem filter_sublist {keep : α → Bool} (h : Cut needle text pieces)
    (hnone : needle.filter keep = []) (replacement : List α) :
    (text.filter keep).Sublist (replacement.intercalate pieces) := by
  induction h with
  | last hno =>
    rw [List.intercalate_singleton]
    exact List.filter_sublist
  | next hfirst hrest ih =>
    rw [List.intercalate_cons_of_ne_nil hrest.ne_nil, List.filter_append, List.filter_append, hnone,
      List.nil_append, List.append_assoc]
    exact List.filter_sublist.append (ih.trans (List.sublist_append_right _ _))

/-- Two ways to cut a text are the same. -/
theorem unique {others : List (List α)} (h : Cut needle text pieces)
    (h' : Cut needle text others) : others = pieces := by
  induction h generalizing others with
  | last hno =>
    cases h' with
    | last _ => rfl
    | next hfirst hrest => exact absurd ⟨_, _, List.append_assoc _ _ _⟩ hno
  | @next piece rest pieces hfirst hrest ih =>
    generalize htext : piece ++ (needle ++ rest) = text at h'
    cases h' with
    | last hno => exact absurd ⟨piece, rest, by rw [← htext, List.append_assoc]⟩ hno
    | @next piece' rest' pieces' hfirst' hrest' =>
      -- each piece ends no later than the other
      have hlen : piece.length = piece'.length :=
        Nat.le_antisymm (hfirst piece' rest' htext.symm) (hfirst' piece rest htext)
      obtain ⟨rfl, hbehind⟩ := List.append_inj htext hlen
      obtain rfl := List.append_cancel_left hbehind
      rw [ih hrest']

end Cut

/-- **A needle cuts each text.** -/
theorem exists_cut (hne : needle ≠ []) (text : List α) : ∃ pieces, Cut needle text pieces := by
  classical
  -- induction on the length, since the search goes on behind an occurrence
  induction hlen : text.length using Nat.strong_induction_on generalizing text with
  | _ k ih =>
    by_cases hin : needle <:+: text
    · have hoccurs : ∃ n before behind, before ++ (needle ++ behind) = text ∧
          before.length = n := by
        obtain ⟨before, behind, htext⟩ := hin
        exact ⟨_, before, behind, by rw [← htext, List.append_assoc], rfl⟩
      obtain ⟨piece, rest, htext, hn⟩ := Nat.find_spec hoccurs
      have hshorter : rest.length < k := by
        have hpos : 0 < needle.length := List.length_pos_of_ne_nil hne
        rw [← hlen, ← htext, List.length_append, List.length_append]
        omega
      obtain ⟨pieces, hrest⟩ := ih _ hshorter rest rfl
      refine ⟨piece :: pieces, htext ▸ Cut.next (fun before behind heq => ?_) hrest⟩
      rw [hn]
      exact Nat.find_min' hoccurs ⟨before, behind, heq.trans htext, rfl⟩
    · exact ⟨[text], .last hin⟩

section Replace

variable [BEq α] [LawfulBEq α]

/-- A text without the needle stays as it is. -/
theorem replaceAll_eq_self (h : ¬needle <:+: text) (replacement : List α) :
    replaceAll needle replacement text = text := by
  induction text with
  | nil => exact replaceAll_nil
  | cons a rest ih =>
    rw [List.infix_cons_iff, not_or] at h
    have hkept : replaceAll needle replacement (a :: rest) =
        a :: replaceAll needle replacement rest := replaceAll_cons_of_not_prefix h.1
    rw [hkept, ih h.2]

/-- The text before the first occurrence is kept. -/
theorem replaceAll_append_of_first {piece rest : List α} (hne : needle ≠ [])
    (hfirst : ∀ before behind, before ++ (needle ++ behind) = piece ++ (needle ++ rest) →
      piece.length ≤ before.length) (replacement : List α) :
    replaceAll needle replacement (piece ++ (needle ++ rest)) =
      piece ++ (replacement ++ replaceAll needle replacement rest) := by
  induction piece with
  | nil => rw [List.nil_append, replaceAll_append hne, List.nil_append]
  | cons a piece ih =>
    have hpre : ¬needle <+: a :: (piece ++ (needle ++ rest)) := by
      rintro ⟨behind, htext⟩
      have := hfirst [] behind htext
      simp at this
    have hfirst' : ∀ before behind, before ++ (needle ++ behind) = piece ++ (needle ++ rest) →
        piece.length ≤ before.length := by
      intro before behind htext
      have := hfirst (a :: before) behind (by rw [List.cons_append, htext, List.cons_append])
      simpa using this
    rw [List.cons_append, replaceAll_cons_of_not_prefix hpre, ih hfirst', List.cons_append]

/-- **Replacing keeps the pieces**, with the replacement in place of the needle. -/
theorem Cut.replaceAll_eq (hne : needle ≠ []) (h : Cut needle text pieces)
    (replacement : List α) :
    replaceAll needle replacement text = replacement.intercalate pieces := by
  induction h with
  | last hno => rw [replaceAll_eq_self hno, List.intercalate_singleton]
  | next hfirst hrest ih =>
    rw [replaceAll_append_of_first hne hfirst, ih,
      List.intercalate_cons_of_ne_nil hrest.ne_nil, List.append_assoc]

/-- **Replacing is leftmost.** A needle that is not empty, also one that overlaps itself, cuts each
text in exactly one way into pieces that end where it occurs first. The text is these pieces with
the needle between them, and the result is the same pieces with the replacement between them. So
the needle in place of itself gives the text back, and a text without it stays as it is. -/
theorem replaceAll_leftmost (hne : needle ≠ []) (text : List α) :
    (∃ pieces, Cut needle text pieces ∧ (∀ others, Cut needle text others → others = pieces) ∧
      text = needle.intercalate pieces ∧
        ∀ replacement, replaceAll needle replacement text = replacement.intercalate pieces) ∧
    replaceAll needle needle text = text ∧
    (¬needle <:+: text → ∀ replacement, replaceAll needle replacement text = text) := by
  obtain ⟨pieces, hcut⟩ := exists_cut hne text
  refine ⟨⟨pieces, hcut, fun others hothers => hcut.unique hothers, hcut.eq_intercalate,
    hcut.replaceAll_eq hne⟩, ?_, replaceAll_eq_self⟩
  rw [hcut.replaceAll_eq hne, ← hcut.eq_intercalate]

/-- The octets `aa` in `aaa`: the first two are replaced, and the third is a piece of its own. -/
theorem replaceAll_leftmost_overlapping :
    ([0x61, 0x61] : Bytes) ≠ [] ∧ Cut [0x61, 0x61] ([0x61, 0x61, 0x61] : Bytes) [[], [0x61]] ∧
      replaceAll [0x61, 0x61] [0x62] ([0x61, 0x61, 0x61] : Bytes) = [0x62, 0x61] ∧
      replaceAll [0x61, 0x61] [0x61, 0x61] ([0x61, 0x61, 0x61] : Bytes) = [0x61, 0x61, 0x61] := by
  have hne : ([0x61, 0x61] : Bytes) ≠ [] := by simp
  have hcut : Cut [0x61, 0x61] ([0x61, 0x61, 0x61] : Bytes) [[], [0x61]] := by
    have hlast : Cut ([0x61, 0x61] : Bytes) [0x61] [[0x61]] :=
      .last fun hin => absurd hin.length_le (by simp)
    have hfirst : ∀ before behind : Bytes, before ++ ([0x61, 0x61] ++ behind) =
        [] ++ ([0x61, 0x61] ++ [0x61]) → ([] : Bytes).length ≤ before.length :=
      fun _ _ _ => Nat.zero_le _
    exact .next hfirst hlast
  obtain ⟨⟨pieces, -, honly, -, hreplace⟩, hself, -⟩ := replaceAll_leftmost hne [0x61, 0x61, 0x61]
  obtain rfl := honly _ hcut
  exact ⟨hne, hcut, hreplace [0x62], hself⟩

end Replace

end SiteSnapshot
