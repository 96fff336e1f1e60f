import Mathlib.Data.List.TakeWhile
import SiteSnapshot.Catalog.Entries
import SiteSnapshot.Proofs.Layout.Names

/-!
# Files of entries

A file of catalog entries is read line by line, and a line gives the same entry however it ends:
`parseEntries_eq_filterMap_lines` reads the lines of the text with their rule for carriage returns.

What a line can give is said without reading one (`IsEntry`). Each entry that is read is of this
kind, and a line that is an entry of this kind gives itself. So files that are put one behind the
other give their entries one behind the other, and the entries of a file, written with one on a
line, are read again.
-/

namespace SiteSnapshot

/-! ### Trimming -/

section Trim

variable {α : Type} {p : α → Bool}

theorem trimBoth_subset (p : α → Bool) (l : List α) : trimBoth p l ⊆ l := by
  intro a ha
  rw [trimBoth, List.mem_reverse] at ha
  have hfront := (List.dropWhile_suffix p).subset ha
  rw [List.mem_reverse] at hfront
  exact (List.dropWhile_suffix p).subset hfront

/-- Behind what was dropped stands an element without the property. -/
theorem eq_false_of_head?_dropWhile {l : List α} {a : α} (h : (l.dropWhile p).head? = some a) :
    p a = false := by
  have hnot := List.head?_dropWhile_not p l
  rwa [h] at hnot

/-- Dropping elements in front leaves the last one, unless it leaves none. -/
theorem getLast?_of_getLast?_dropWhile {l : List α} {a : α}
    (h : (l.dropWhile p).getLast? = some a) : l.getLast? = some a := by
  obtain ⟨dropped, hl⟩ : l.dropWhile p <:+ l := List.dropWhile_suffix p
  have hne : l.dropWhile p ≠ [] := by
    intro hnil
    rw [hnil] at h
    cases h
  rw [← hl, List.getLast?_append_of_ne_nil _ hne, h]

/-- A trimmed list starts with an element without the property. -/
theorem eq_false_of_head?_trimBoth {l : List α} {a : α} (h : (trimBoth p l).head? = some a) :
    p a = false := by
  rw [trimBoth, List.head?_reverse] at h
  have hlast := getLast?_of_getLast?_dropWhile h
  rw [List.getLast?_reverse] at hlast
  exact eq_false_of_head?_dropWhile hlast

/-- A trimmed list ends with an element without the property. -/
theorem eq_false_of_getLast?_trimBoth {l : List α} {a : α}
    (h : (trimBoth p l).getLast? = some a) : p a = false := by
  rw [trimBoth, List.getLast?_reverse] at h
  exact eq_false_of_head?_dropWhile h

theorem dropWhile_eq_self_of_head? {l : List α} (h : ∀ a, l.head? = some a → p a = false) :
    l.dropWhile p = l := by
  cases l with
  | nil => rfl
  | cons a rest => rw [List.dropWhile_cons_of_neg (by simp [h a rfl])]

/-- A list without the property at its ends is trimmed. -/
theorem trimBoth_eq_self {l : List α} (hhead : ∀ a, l.head? = some a → p a = false)
    (hlast : ∀ a, l.getLast? = some a → p a = false) : trimBoth p l = l := by
  have hreverse : ∀ a, l.reverse.head? = some a → p a = false := by
    intro a ha
    rw [List.head?_reverse] at ha
    exact hlast a ha
  rw [trimBoth, dropWhile_eq_self_of_head? hhead, dropWhile_eq_self_of_head? hreverse,
    List.reverse_reverse]

/-- An element with the property at the end does not count. -/
theorem trimBoth_append_singleton {a : α} (ha : p a = true) (l : List α) :
    trimBoth p (l ++ [a]) = trimBoth p l := by
  rw [trimBoth, trimBoth, List.dropWhile_append]
  split_ifs with hempty
  · rw [List.isEmpty_iff.mp hempty, List.dropWhile_cons_of_pos ha, List.dropWhile_nil]
  · rw [List.reverse_append, List.reverse_singleton, List.singleton_append,
      List.dropWhile_cons_of_pos ha]

end Trim

namespace Catalog

/-! ### The entry of a line -/

/-- What can be the entry of a line: a text without comments and blanks around it. -/
structure IsEntry (entry : String) : Prop where
  ne_empty : entry ≠ ""
  no_comment : '#' ∉ entry.toList
  no_lineFeed : '\n' ∉ entry.toList
  head_not_blank : ∀ c, entry.toList.head? = some c → isBlank c = false
  last_not_blank : ∀ c, entry.toList.getLast? = some c → isBlank c = false

/-- What a line gives is an entry. -/
theorem isEntry_of_entryOfLine {line : List Char} {entry : String} (hline : '\n' ∉ line)
    (h : entryOfLine line = some entry) : IsEntry entry := by
  rw [entryOfLine] at h
  split_ifs at h with hempty
  obtain rfl := Option.some.inj h
  have hsubset := trimBoth_subset isBlank (line.takeWhile (· != '#'))
  refine ⟨?_, ?_, ?_, ?_, ?_⟩
  · intro hnil
    exact hempty (by simpa using hnil)
  all_goals rw [String.toList_ofList]
  · intro hmem
    have hkept := List.mem_takeWhile_imp (hsubset hmem)
    simp at hkept
  · exact fun hmem => hline ((List.takeWhile_prefix _).subset (hsubset hmem))
  · exact fun c hc => eq_false_of_head?_trimBoth hc
  · exact fun c hc => eq_false_of_getLast?_trimBoth hc

/-- A line that is an entry gives itself. -/
theorem entryOfLine_of_isEntry {entry : String} (h : IsEntry entry) :
    entryOfLine entry.toList = some entry := by
  have hcomment : ∀ c ∈ entry.toList, (c != '#') = true := by
    intro c hc
    rw [bne_iff_ne]
    rintro rfl
    exact h.no_comment hc
  have hne : entry.toList.isEmpty = false := by simpa using h.ne_empty
  rw [entryOfLine, List.takeWhile_eq_self_iff.mpr hcomment, trimBlanks,
    trimBoth_eq_self h.head_not_blank h.last_not_blank, hne, if_neg Bool.false_ne_true,
    String.ofList_toList]

/-- A blank at the end of a line does not count, be it in a comment or not. -/
theorem entryOfLine_append_singleton {c : Char} (hc : isBlank c = true) (line : List Char) :
    entryOfLine (line ++ [c]) = entryOfLine line := by
  have hhash : (c != '#') = true := by
    rw [bne_iff_ne]
    rintro rfl
    cases hc
  have htrim : trimBlanks ((line ++ [c]).takeWhile (· != '#')) =
      trimBlanks (line.takeWhile (· != '#')) := by
    rw [List.takeWhile_append]
    split_ifs with hall
    · have hkept : [c].takeWhile (· != '#') = [c] := List.takeWhile_cons_of_pos hhash
      rw [hkept, (List.takeWhile_prefix _).eq_of_length hall]
      exact trimBoth_append_singleton hc line
    · rfl
  rw [entryOfLine, entryOfLine, htrim]

/-! ### The lines of a text -/

/-- A line without a carriage return at its end. -/
def withoutReturn (line : List Char) : List Char :=
  if line.getLast? = some '\r' then line.dropLast else line

/-- The lines of a text. A line ends at a line feed, or at a carriage return and a line feed; what
stands behind the last line feed is a line unless it is empty. -/
def lines (text : List Char) : List (List Char) :=
  let parts := text.splitOn '\n'
  parts.dropLast.map withoutReturn ++ parts.getLast?.toList.filter (!·.isEmpty)

theorem entryOfLine_withoutReturn (line : List Char) :
    entryOfLine (withoutReturn line) = entryOfLine line := by
  rw [withoutReturn]
  split_ifs with hreturn
  · obtain ⟨init, rfl⟩ := List.getLast?_eq_some_iff.mp hreturn
    rw [List.dropLast_concat, entryOfLine_append_singleton (by decide)]
  · rfl

/-- **Entries are read line by line**, and it makes no difference how a line ends. -/
theorem parseEntries_eq_filterMap_lines (text : String) :
    parseEntries text = (lines text.toList).filterMap entryOfLine := by
  obtain ⟨init, last, hparts⟩ :=
    (List.eq_nil_or_concat' (text.toList.splitOn '\n')).resolve_left (List.splitOn_ne_nil _ _)
  have hlast :
      ([last].filter (!·.isEmpty)).filterMap entryOfLine = [last].filterMap entryOfLine := by
    cases last with
    | nil => rfl
    | cons c rest => rfl
  have hinit : (init.map withoutReturn).filterMap entryOfLine = init.filterMap entryOfLine := by
    rw [List.filterMap_map]
    exact List.filterMap_congr fun line _ => entryOfLine_withoutReturn line
  rw [parseEntries, lines, hparts]
  simp only [List.dropLast_concat, List.getLast?_concat, Option.toList_some]
  rw [List.filterMap_append, List.filterMap_append, hinit, hlast]

/-! ### The entries of a text -/

/-- Files one behind the other give their entries one behind the other. -/
theorem parseEntries_append (a b : String) :
    parseEntries (a ++ "\n" ++ b) = parseEntries a ++ parseEntries b := by
  have htext : (a ++ "\n" ++ b).toList = a.toList ++ '\n' :: b.toList := by simp
  rw [parseEntries, htext, List.splitOn_append_cons_self, List.filterMap_append]
  rfl

theorem isEntry_of_mem_parseEntries {text entry : String} (h : entry ∈ parseEntries text) :
    IsEntry entry := by
  obtain ⟨line, hline, hentry⟩ := List.mem_filterMap.mp h
  exact isEntry_of_entryOfLine (notMem_of_mem_splitOn hline) hentry

/-- Entries that are written with one on a line are read again. -/
theorem parseEntries_intercalate {entries : List String} (h : ∀ entry ∈ entries, IsEntry entry) :
    parseEntries ("\n".intercalate entries) = entries := by
  induction entries with
  | nil => rfl
  | cons entry rest ih =>
    obtain ⟨hentry, hrest⟩ := List.forall_mem_cons.mp h
    have hsingle : parseEntries entry = [entry] := by
      rw [parseEntries, List.splitOn_eq_singleton hentry.no_lineFeed, List.filterMap_cons,
        entryOfLine_of_isEntry hentry, List.filterMap_nil]
    by_cases hnil : rest = []
    · rw [hnil, String.intercalate_singleton, hsingle]
    · rw [String.intercalate_cons_of_ne_nil hnil, parseEntries_append, hsingle, ih hrest,
        List.singleton_append]

/-- **Files of entries concatenate and are read again.** A text behind a line feed adds its entries
to those of the text before it. Every entry is of its kind, with no comment, no line feed and no
blank at an end, and the entries of a text with one on a line give themselves, in their order. -/
theorem parseEntries_concatenates (a b text : String) :
    parseEntries (a ++ "\n" ++ b) = parseEntries a ++ parseEntries b ∧
    (∀ entry ∈ parseEntries text, IsEntry entry) ∧
    parseEntries ("\n".intercalate (parseEntries text)) = parseEntries text :=
  ⟨parseEntries_append a b, fun _ => isEntry_of_mem_parseEntries,
    parseEntries_intercalate fun _ => isEntry_of_mem_parseEntries⟩

end Catalog

end SiteSnapshot
