import Mathlib.Data.List.Basic
import SiteSnapshot.Url.Percent

/-!
# Texts that percent encoding leaves alone

A character is **plain** for a part of a URL if it stands there as it is. A text of plain
characters is its own encoding (`Percent.encode_of_isPlain`), and an encoding has only plain
characters (`Percent.isPlain_of_mem_encode`), as no part encodes percent signs or digits.
Reading ASCII without percent signs as octets gives the text itself
(`Percent.read_of_ascii`).
-/

namespace SiteSnapshot

namespace Percent

variable {set : Char → Bool} {text : List Char} {c : Char}

/-! ### Plain characters -/

/-- True for a character that stands as it is in a part with this set. -/
def isPlain (set : Char → Bool) (c : Char) : Bool :=
  c.toNat < 0x80 && !set c

theorem isPlain_iff : isPlain set c = true ↔ c.toNat < 0x80 ∧ set c = false := by
  simp [isPlain]

theorem encodeChar_of_isPlain (h : isPlain set c = true) : encodeChar set c = [c] := by
  rw [encodeChar, if_pos (isPlain_iff.mp h)]

/-- A text of plain characters is its own encoding. -/
theorem encode_of_isPlain (h : ∀ c ∈ text, isPlain set c = true) : encode set text = text := by
  induction text with
  | nil => rfl
  | cons c text ih =>
    simp only [List.forall_mem_cons] at h
    have hc : encodeChar set c = [c] := encodeChar_of_isPlain h.1
    rw [encode, List.flatMap_cons, ← encode, hc, ih h.2, List.singleton_append]

/-- The characters of an encoded octet. -/
def escapes : List Char :=
  ['%', '0', '1', '2', '3', '4', '5', '6', '7', '8', '9', 'A', 'B', 'C', 'D', 'E', 'F']

theorem hexDigit_mem_escapes {n : Nat} (h : n < 16) : hexDigit n ∈ escapes := by
  decide +revert

theorem mem_escapes_of_mem_encodeOctet {b : UInt8} (h : c ∈ encodeOctet b) : c ∈ escapes := by
  have hb : b.toNat < 256 := b.toNat_lt
  simp only [encodeOctet, List.mem_cons, List.not_mem_nil, or_false] at h
  obtain rfl | rfl | rfl := h
  · decide
  · exact hexDigit_mem_escapes (by omega)
  · exact hexDigit_mem_escapes (by omega)

/-- A character of an encoding is one of the text or belongs to an escape. -/
theorem mem_or_mem_escapes_of_mem_encode (h : c ∈ encode set text) :
    (c ∈ text ∧ isPlain set c = true) ∨ c ∈ escapes := by
  obtain ⟨a, ha, hc⟩ := List.mem_flatMap.mp h
  rw [encodeChar] at hc
  split at hc
  · next hplain =>
    obtain rfl := List.mem_singleton.mp hc
    exact .inl ⟨ha, isPlain_iff.mpr hplain⟩
  · obtain ⟨b, -, hb⟩ := List.mem_flatMap.mp hc
    exact .inr (mem_escapes_of_mem_encodeOctet hb)

/-- An encoding has only plain characters if its escapes are plain. -/
theorem isPlain_of_mem_encode (hset : escapes.all (isPlain set) = true)
    (h : c ∈ encode set text) : isPlain set c = true :=
  (mem_or_mem_escapes_of_mem_encode h).elim (·.2) (List.all_eq_true.mp hset c)

theorem isPlain_inPath_of_mem_encode (h : c ∈ encode inPath text) : isPlain inPath c = true :=
  isPlain_of_mem_encode (by decide) h

theorem isPlain_isControl_of_mem_encode (h : c ∈ encode isControl text) :
    isPlain isControl c = true :=
  isPlain_of_mem_encode (by decide) h

theorem isPlain_inQuery_of_mem_encode (h : c ∈ encode inQuery text) : isPlain inQuery c = true :=
  isPlain_of_mem_encode (by decide) h

theorem isPlain_inSpecialQuery_of_mem_encode (h : c ∈ encode inSpecialQuery text) :
    isPlain inSpecialQuery c = true :=
  isPlain_of_mem_encode (by decide) h

theorem isPlain_inUserInfo_of_mem_encode (h : c ∈ encode inUserInfo text) :
    isPlain inUserInfo c = true :=
  isPlain_of_mem_encode (by decide) h

theorem isPlain_inFragment_of_mem_encode (h : c ∈ encode inFragment text) :
    isPlain inFragment c = true :=
  isPlain_of_mem_encode (by decide) h

/-! ### ASCII -/

theorem utf8EncodeChar_of_ascii (h : c.toNat < 0x80) :
    String.utf8EncodeChar c = [UInt8.ofNat c.toNat] := by
  have hsize : c.utf8Size = 1 := by
    rw [Char.utf8Size, if_pos]
    rw [UInt32.le_iff_toNat_le]
    exact Nat.le_of_lt_succ h
  rw [String.utf8EncodeChar_eq_singleton hsize]
  rfl

/-- Octets that are no percent sign stand for themselves. -/
theorem decode_of_notMem {octets : Bytes} (h : 0x25 ∉ octets) : decode octets = octets := by
  fun_induction decode octets with
  | case1 => rfl
  | case2 => rfl
  | case3 => rfl
  | case4 => simp at h
  | case5 b c d rest _ _ _ _ _ ih => rw [ih fun hmem => h (.tail _ hmem)]
  | case6 b c d rest _ ih => rw [ih fun hmem => h (.tail _ hmem)]

end Percent

namespace Utf8

variable {text : List Char}

theorem foldl_step_of_ascii (h : ∀ c ∈ text, c.toNat < 0x80) (read : List Part) :
    (text.map fun c => UInt8.ofNat c.toNat).foldl Scan.step ⟨read, none⟩ =
      ⟨(text.map Part.char).reverse ++ read, none⟩ := by
  induction text generalizing read with
  | nil => rfl
  | cons c text ih =>
    simp only [List.forall_mem_cons] at h
    have hbyte : (UInt8.ofNat c.toNat).toNat = c.toNat := by
      simp [Nat.mod_eq_of_lt (show c.toNat < 256 by omega)]
    have hlead : lead (UInt8.ofNat c.toNat) = .whole c := by
      have hlt : UInt8.ofNat c.toNat < 0x80 := by
        rw [UInt8.lt_iff_toNat_lt, hbyte]
        exact h.1
      rw [lead, if_pos hlt, hbyte, Char.ofNat_toNat]
    simp only [List.map_cons, List.foldl_cons, Scan.step, Scan.start, hlead, ih h.2,
      List.reverse_cons, List.append_assoc, List.singleton_append]

/-- The octets of ASCII. -/
theorem encode_ofList_of_ascii (h : ∀ c ∈ text, c.toNat < 0x80) :
    encode (String.ofList text) = text.map fun c => UInt8.ofNat c.toNat := by
  rw [encode, String.toList_ofList, List.map_eq_flatMap]
  exact List.flatMap_congr fun c hc => Percent.utf8EncodeChar_of_ascii (h c hc)

theorem decode?_of_ascii (h : ∀ c ∈ text, c.toNat < 0x80) :
    decode? (text.map fun c => UInt8.ofNat c.toNat) = some (String.ofList text) := by
  have hread : (text.map Part.char).mapM Part.char? = some text := by
    induction text with
    | nil => rfl
    | cons c text ih =>
      simp only [List.forall_mem_cons] at h
      simp [Part.char?, ih h.2]
  simp only [decode?, scan, foldl_step_of_ascii h, List.append_nil, List.reverse_reverse, hread,
    Option.map_some]

end Utf8

namespace Percent

/-- ASCII without percent signs stands for itself. -/
theorem read_of_ascii {text : List Char} (hascii : ∀ c ∈ text, c.toNat < 0x80)
    (hpercent : '%' ∉ text) :
    Utf8.decode? (decode (Utf8.encode (String.ofList text))) = some (String.ofList text) := by
  rw [Utf8.encode_ofList_of_ascii hascii, decode_of_notMem, Utf8.decode?_of_ascii hascii]
  intro hmem
  obtain ⟨c, hc, hbyte⟩ := List.mem_map.mp hmem
  have hnat : c.toNat = 0x25 := by
    have := congrArg UInt8.toNat hbyte
    have := hascii c hc
    simp at *
    omega
  have : c = '%' := Char.toNat_inj.mp (hnat.trans (by decide))
  exact hpercent (this ▸ hc)

end Percent

end SiteSnapshot
