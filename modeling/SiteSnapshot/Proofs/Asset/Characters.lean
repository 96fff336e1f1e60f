import SiteSnapshot.Proofs.Asset.Occurrences
import SiteSnapshot.Proofs.Asset.Substitution
import SiteSnapshot.Proofs.Text.Decoding

/-!
# Replacing characters

`Roots.relativizeScript` works on the octets of a script. Since a character begins with an octet
that stands inside no other character, a text occurs in the octets of another only where it occurs
in the text itself, and replacing its octets is replacing its characters (`replaceAll_encode`). So
the octets of a relativized script are those of a text again, whatever the way to the root is
(`Roots.encode_relativizeScript`), and the passes may be read as passes over characters
(`Roots.relativizeScript_eq_foldl`). Each pass keeps the pieces between the occurrences that it
replaces (`Roots.relativizeScript_replaces_characters`).
-/

namespace SiteSnapshot

namespace Utf8

/-- The octet at the start of a character stands inside no character. -/
theorem notMem_tail_encodeChar {c d : Char} {b : UInt8} {w : Bytes}
    (h : String.utf8EncodeChar c = b :: w) : b ∉ (String.utf8EncodeChar d).tail := by
  have hfirst : b.IsUTF8FirstByte := by
    have hzero := UInt8.isUTF8FirstByte_getElem_zero_utf8EncodeChar (c := c)
    simpa [h] using hzero
  intro hmem
  obtain ⟨i, hi, hget⟩ := List.mem_iff_getElem.mp hmem
  rw [List.getElem_tail] at hget
  rw [← hget, UInt8.isUTF8FirstByte_getElem_utf8EncodeChar] at hfirst
  exact absurd hfirst i.succ_ne_zero

end Utf8

/-- **Replacing octets is replacing characters.** -/
theorem replaceAll_encode {needle : List Char} (hne : needle ≠ []) (replacement text : List Char) :
    replaceAll (needle.flatMap String.utf8EncodeChar) (replacement.flatMap String.utf8EncodeChar)
        (text.flatMap String.utf8EncodeChar) =
      (replaceAll needle replacement text).flatMap String.utf8EncodeChar := by
  obtain ⟨n, needle, rfl⟩ := List.exists_cons_of_ne_nil hne
  obtain ⟨b, w, hb⟩ := List.exists_cons_of_ne_nil (String.utf8EncodeChar_ne_nil (c := n))
  have hoctets : (n :: needle).flatMap String.utf8EncodeChar =
      b :: (w ++ needle.flatMap String.utf8EncodeChar) := by
    rw [List.flatMap_cons, hb, List.cons_append]
  -- induction on the length, since the search goes on behind an occurrence
  induction hlen : text.length using Nat.strong_induction_on generalizing text with
  | _ k ih =>
    by_cases hpre : n :: needle <+: text
    · obtain ⟨rest, rfl⟩ := hpre
      have hshorter : rest.length < k := by
        rw [← hlen, List.length_append, List.length_cons]
        omega
      rw [List.flatMap_append, replaceAll_append (by simp [hoctets]), replaceAll_append hne,
        List.flatMap_append, ih _ hshorter rest rfl]
    · cases text with
      | nil => rw [List.flatMap_nil, replaceAll_nil, replaceAll_nil, List.flatMap_nil]
      | cons c rest =>
        obtain ⟨d, v, hd⟩ := List.exists_cons_of_ne_nil (String.utf8EncodeChar_ne_nil (c := c))
        have hsplit : ∀ more : List Char, (c :: more).flatMap String.utf8EncodeChar =
            d :: (v ++ more.flatMap String.utf8EncodeChar) := fun more => by
          rw [List.flatMap_cons, hd, List.cons_append]
        have hpre' : ¬(n :: needle).flatMap String.utf8EncodeChar <+:
            d :: (v ++ rest.flatMap String.utf8EncodeChar) := by
          rw [← hsplit, Utf8.encode_prefix_iff]
          exact hpre
        have hv : b ∉ v := by
          have := Utf8.notMem_tail_encodeChar (d := c) hb
          rwa [hd] at this
        rw [hsplit, replaceAll_cons_of_not_prefix hpre, hsplit,
          replaceAll_cons_of_not_prefix hpre', ← ih _ (by simp [← hlen]) rest rfl, hoctets,
          replaceAll_append_of_notMem hv]

namespace Roots

/-- A pass over the characters of a text. -/
def passText (toRoot : String) (text : String) (p : Char × String) : String :=
  String.ofList (replaceAll (p.1 :: p.2.toList) (p.1 :: (toRoot.toList ++ p.2.toList.drop 1))
    text.toList)

/-- A pass over the octets of a text. -/
theorem pass_encode (toRoot text : String) (p : Char × String) :
    pass toRoot (Utf8.encode text) p = Utf8.encode (passText toRoot text p) := by
  have h := replaceAll_encode (List.cons_ne_nil p.1 p.2.toList)
    (p.1 :: (toRoot.toList ++ p.2.toList.drop 1)) text.toList
  simpa [pass, passText, Utf8.encode] using h

/-- The passes over the octets of a text. -/
theorem foldl_pass_encode (toRoot : String) (ps : List (Char × String)) (text : String) :
    ps.foldl (pass toRoot) (Utf8.encode text) =
      Utf8.encode (ps.foldl (passText toRoot) text) := by
  induction ps generalizing text with
  | nil => rfl
  | cons p ps ih => rw [List.foldl_cons, List.foldl_cons, pass_encode, ih]

/-- **A script is relativized by passes over its characters.** -/
theorem relativizeScript_eq_foldl (script toRoot : String) :
    relativizeScript script toRoot = (passes quotes).foldl (passText toRoot) script := by
  simp only [relativizeScript, relativize, foldl_pass_encode, Utf8.decode?_encode, Option.getD_some]

/-- The octets of a relativized script. -/
theorem encode_relativizeScript (script toRoot : String) :
    Utf8.encode (relativizeScript script toRoot) =
      relativize quotes toRoot (Utf8.encode script) := by
  rw [relativizeScript_eq_foldl, relativize, foldl_pass_encode]

/-! ### What a script keeps -/

/-- Octets written for characters are text. -/
theorem isValidUTF8_encode (text : String) : (Utf8.encode text).toByteArray.IsValidUTF8 :=
  ⟨text.toList, rfl⟩

/-- A pass replaces the occurrences of a quoted root, and keeps the pieces between them. -/
theorem existsUnique_cut_passText (toRoot text : String) (p : Char × String) :
    ∃! pieces, Cut (p.1 :: p.2.toList) text.toList pieces ∧ (passText toRoot text p).toList =
      (p.1 :: (toRoot.toList ++ p.2.toList.drop 1)).intercalate pieces := by
  have hne : p.1 :: p.2.toList ≠ [] := List.cons_ne_nil p.1 _
  obtain ⟨pieces, hcut⟩ := exists_cut hne text.toList
  refine ⟨pieces, ⟨hcut, ?_⟩, fun _ h => hcut.unique h.1⟩
  rw [passText, String.toList_ofList, hcut.replaceAll_eq hne]

/-- The passes keep the characters of which no quoted root has any, in their order. -/
theorem filter_sublist_foldl_passText {keep : Char → Bool} {ps : List (Char × String)}
    (h : ∀ p ∈ ps, (p.1 :: p.2.toList).filter keep = []) (toRoot text : String) :
    (text.toList.filter keep).Sublist (ps.foldl (passText toRoot) text).toList := by
  induction ps generalizing text with
  | nil => exact List.filter_sublist
  | cons p ps ih =>
    obtain ⟨pieces, ⟨hcut, hpass⟩, -⟩ := existsUnique_cut_passText toRoot text p
    have hkept := (hcut.filter_sublist (h p List.mem_cons_self)
      (p.1 :: (toRoot.toList ++ p.2.toList.drop 1))).filter keep
    rw [List.filter_filter, ← hpass] at hkept
    simp only [Bool.and_self] at hkept
    exact hkept.trans (ih (fun q hq => h q (List.mem_cons_of_mem p hq)) _)

/-- **A relativized script is text.** The octets that the passes leave are those of a text, and the
script is this text, so no character is put in place of an octet. It is what passes over the
characters give, one for each root and quote; such a pass cuts the text where the quoted root
occurs, searched from the left, and keeps the pieces, with the way to the root put between them.
Characters outside ASCII occur in no quoted root and are all kept, in their order. -/
theorem relativizeScript_replaces_characters (script toRoot : String) :
    (relativize quotes toRoot (Utf8.encode script)).toByteArray.IsValidUTF8 ∧
    Utf8.decode? (relativize quotes toRoot (Utf8.encode script)) =
      some (relativizeScript script toRoot) ∧
    relativizeScript script toRoot = (passes quotes).foldl (passText toRoot) script ∧
    (∀ text : String, ∀ p ∈ passes quotes, ∃! pieces,
      Cut (p.1 :: p.2.toList) text.toList pieces ∧ (passText toRoot text p).toList =
        (p.1 :: (toRoot.toList ++ p.2.toList.drop 1)).intercalate pieces) ∧
    (script.toList.filter (0x80 ≤ ·.toNat)).Sublist (relativizeScript script toRoot).toList := by
  have hascii : ∀ p ∈ passes quotes, (p.1 :: p.2.toList).filter (0x80 ≤ ·.toNat) = [] := by
    decide
  refine ⟨?_, ?_, relativizeScript_eq_foldl script toRoot,
    fun text p _ => existsUnique_cut_passText toRoot text p, ?_⟩
  · rw [← encode_relativizeScript]
    exact isValidUTF8_encode _
  · rw [← encode_relativizeScript, Utf8.decode?_encode]
  · rw [relativizeScript_eq_foldl]
    exact filter_sublist_foldl_passText hascii toRoot script

/-! ### What a script quotes -/

/-- True for a script in which a quote stands directly before the root of a bundle. -/
def QuotesRoot (script : String) : Prop :=
  ∃ quote ∈ quotes, ∃ root ∈ bundleRoots, quote :: root.toList <:+: script.toList

/-- **A relativized script quotes no root.** -/
theorem not_quotesRoot_relativizeScript {toRoot : String} (hway : IsWay toRoot)
    (script : String) : ¬QuotesRoot (relativizeScript script toRoot) := by
  rintro ⟨quote, hquote, root, hroot, before, behind, htext⟩
  refine not_infix_relativize (Or.inl rfl) hway (Utf8.encode script) hquote hroot ?_
  rw [← encode_relativizeScript]
  refine ⟨before.flatMap String.utf8EncodeChar, behind.flatMap String.utf8EncodeChar, ?_⟩
  rw [Utf8.encode, Utf8.encode, ← htext, List.flatMap_append, List.flatMap_append]
  simp

/-- A script that quotes no root stays as it is, whatever the way to the root. -/
theorem relativizeScript_eq_self {script : String} (h : ¬QuotesRoot script) (toRoot : String) :
    relativizeScript script toRoot = script := by
  have hpass : ∀ p ∈ passes quotes, passText toRoot script p = script := by
    intro p hp
    obtain ⟨root, hroot, hp⟩ := List.mem_flatMap.mp hp
    obtain ⟨quote, hquote, rfl⟩ := List.mem_map.mp hp
    have hnot : ¬quote :: root.toList <:+: script.toList :=
      fun hin => h ⟨quote, hquote, root, hroot, hin⟩
    rw [passText, replaceAll_eq_self hnot, String.ofList_toList]
  rw [relativizeScript_eq_foldl]
  generalize passes quotes = ps at hpass
  induction ps with
  | nil => rfl
  | cons p ps ih =>
    rw [List.foldl_cons, hpass p List.mem_cons_self,
      ih fun q hq => hpass q (List.mem_cons_of_mem p hq)]

end Roots

end SiteSnapshot
