import SiteSnapshot.Proofs.Text.Order

/-!
# Text read back from its octets

Reading the octets of a text gives the text again (`Utf8.decode?_encode`). A character is read from
its octets alone, whatever stands before and behind them (`Utf8.foldl_step_encodeChar`): its first
octet opens it, and each of the others is one that the character may go on with, which the bounds on
the second octet do not forbid.

So characters are the only parts that a text has in octets: one text starts with another exactly if
its octets do (`Utf8.encode_prefix_iff`).
-/

namespace SiteSnapshot.Utf8

/-! ### One character -/

section Step

variable {n : ℕ} {read : List Part}

private theorem toNat_ofNat_of_lt (hn : n < 256) : (UInt8.ofNat n).toNat = n := by
  rw [UInt8.toNat_ofNat', Nat.mod_eq_of_lt hn]

/-- What the octet of a number stands for at the start of a character. -/
private theorem lead_ofNat (hn : n < 256) : lead (UInt8.ofNat n) =
    if n < 0x80 then .whole (Char.ofNat n)
    else if n < 0xC2 then .bad
    else if n < 0xE0 then .opening ⟨n % 0x20, 1, 1, 0x80, 0xBF⟩
    else if n < 0xF0 then
      .opening ⟨n % 0x10, 1, 2, if n = 0xE0 then 0xA0 else 0x80, if n = 0xED then 0x9F else 0xBF⟩
    else if n < 0xF5 then
      .opening ⟨n % 0x08, 1, 3, if n = 0xF0 then 0x90 else 0x80, if n = 0xF4 then 0x8F else 0xBF⟩
    else .bad := by
  simp only [lead, UInt8.lt_iff_toNat_lt, ← UInt8.toNat_inj, toNat_ofNat_of_lt hn]
  rfl

/-- The bounds of an octet that is not the second one. -/
private theorem digit_le (d : ℕ) : d % 0x40 + 0x80 ≤ (0xBF : UInt8).toNat := by
  have : (0xBF : UInt8).toNat = 0xBF := rfl
  omega

/-- The octet of a digit to the base 64, within the bounds that a character has left. -/
private theorem step_digit {value taken missing d : ℕ} {low high : UInt8}
    (hlow : low.toNat ≤ d % 0x40 + 0x80) (hhigh : d % 0x40 + 0x80 ≤ high.toNat) :
    Scan.step ⟨read, some ⟨value, taken, missing, low, high⟩⟩ (UInt8.ofNat (d % 0x40 + 0x80)) =
      if missing = 1 then ⟨.char (Char.ofNat (value * 0x40 + d % 0x40)) :: read, none⟩
      else ⟨read, some ⟨value * 0x40 + d % 0x40, taken + 1, missing - 1, 0x80, 0xBF⟩⟩ := by
  have hnat : (UInt8.ofNat (d % 0x40 + 0x80)).toNat = d % 0x40 + 0x80 :=
    toNat_ofNat_of_lt (by omega)
  have hbounds : low ≤ UInt8.ofNat (d % 0x40 + 0x80) ∧ UInt8.ofNat (d % 0x40 + 0x80) ≤ high := by
    rw [UInt8.le_iff_toNat_le, UInt8.le_iff_toNat_le, hnat]
    exact ⟨hlow, hhigh⟩
  have hmod : (d % 0x40 + 0x80) % 0x40 = d % 0x40 := by omega
  simp only [Scan.step, if_pos hbounds, hnat, hmod]

/-- The last octet of a character. -/
private theorem step_last {value taken d : ℕ} :
    Scan.step ⟨read, some ⟨value, taken, 1, 0x80, 0xBF⟩⟩ (UInt8.ofNat (d % 0x40 + 0x80)) =
      ⟨.char (Char.ofNat (value * 0x40 + d % 0x40)) :: read, none⟩ := by
  exact (step_digit (Nat.le_add_left _ _) (digit_le d)).trans (if_pos rfl)

/-- An octet that is not the last one. -/
private theorem step_more {value taken missing d : ℕ} {low high : UInt8}
    (hlow : low.toNat ≤ d % 0x40 + 0x80) (hhigh : d % 0x40 + 0x80 ≤ high.toNat) :
    Scan.step ⟨read, some ⟨value, taken, missing + 2, low, high⟩⟩
        (UInt8.ofNat (d % 0x40 + 0x80)) =
      ⟨read, some ⟨value * 0x40 + d % 0x40, taken + 1, missing + 1, 0x80, 0xBF⟩⟩ :=
  (step_digit hlow hhigh).trans (if_neg (by omega))

end Step

/-- A character of which the first octet has been read. -/
private theorem foldl_step_of_opening {p : Pending} {b : UInt8} (h : lead b = .opening p)
    (read : List Part) (rest : Bytes) :
    (b :: rest).foldl Scan.step ⟨read, none⟩ = rest.foldl Scan.step ⟨read, some p⟩ := by
  simp only [List.foldl_cons, Scan.step, Scan.start, h]

/-- **A character is read from its octets.** -/
theorem foldl_step_encodeChar (c : Char) (read : List Part) :
    (String.utf8EncodeChar c).foldl Scan.step ⟨read, none⟩ = ⟨.char c :: read, none⟩ := by
  have hvalid : c.val.toNat < 0xd800 ∨ 0xdfff < c.val.toNat ∧ c.val.toNat < 0x110000 := c.valid
  have hchar : Char.ofNat c.val.toNat = c := Char.ofNat_toNat c
  generalize hv : c.val.toNat = v at hvalid hchar
  simp only [String.utf8EncodeChar, hv]
  split_ifs with h1 h2 h3
  · have hlead : lead (UInt8.ofNat v) = .whole c := by
      rw [lead_ofNat (by omega), if_pos (by omega), hchar]
    simp only [List.foldl_cons, List.foldl_nil, Scan.step, Scan.start, hlead]
  · have hlead : lead (UInt8.ofNat (v / 64 % 0x20 + 0xc0)) =
        .opening ⟨v / 64, 1, 1, 0x80, 0xBF⟩ := by
      rw [lead_ofNat (by omega), if_neg (by omega), if_neg (by omega), if_pos (by omega)]
      congr 2
      omega
    have hvalue : v / 64 * 0x40 + v % 0x40 = v := by omega
    rw [foldl_step_of_opening hlead, List.foldl_cons, step_last, hvalue, hchar, List.foldl_nil]
  · have hlead : lead (UInt8.ofNat (v / 4096 % 0x10 + 0xe0)) =
        .opening ⟨v / 4096, 1, 2, if v / 4096 = 0 then 0xA0 else 0x80,
          if v / 4096 = 13 then 0x9F else 0xBF⟩ := by
      rw [lead_ofNat (by omega), if_neg (by omega), if_neg (by omega), if_neg (by omega),
        if_pos (by omega)]
      have hvalue : (v / 4096 % 0x10 + 0xe0) % 0x10 = v / 4096 := by omega
      have hlow : v / 4096 % 0x10 + 0xe0 = 0xe0 ↔ v / 4096 = 0 := by omega
      have hhigh : v / 4096 % 0x10 + 0xe0 = 0xed ↔ v / 4096 = 13 := by omega
      simp only [hvalue, hlow, hhigh]
    -- the bounds of the second octet exclude overlong forms and surrogates
    have hlow : (if v / 4096 = 0 then 0xA0 else 0x80 : UInt8).toNat ≤ v / 64 % 0x40 + 0x80 := by
      split_ifs with h
      · have : (0xA0 : UInt8).toNat = 0xA0 := rfl
        omega
      · exact Nat.le_add_left _ _
    have hhigh : v / 64 % 0x40 + 0x80 ≤ (if v / 4096 = 13 then 0x9F else 0xBF : UInt8).toNat := by
      have : (0x9F : UInt8).toNat = 0x9F := rfl
      have : (0xBF : UInt8).toNat = 0xBF := rfl
      split_ifs with h <;> omega
    have hvalue : (v / 4096 * 0x40 + v / 64 % 0x40) * 0x40 + v % 0x40 = v := by
      omega
    rw [foldl_step_of_opening hlead, List.foldl_cons, step_more hlow hhigh, List.foldl_cons,
      step_last, hvalue, hchar, List.foldl_nil]
  · have hlead : lead (UInt8.ofNat (v / 262144 % 0x08 + 0xf0)) =
        .opening ⟨v / 262144, 1, 3, if v / 262144 = 0 then 0x90 else 0x80,
          if v / 262144 = 4 then 0x8F else 0xBF⟩ := by
      rw [lead_ofNat (by omega), if_neg (by omega), if_neg (by omega), if_neg (by omega),
        if_neg (by omega), if_pos (by omega)]
      have hvalue : (v / 262144 % 0x08 + 0xf0) % 0x08 = v / 262144 := by omega
      have hlow : v / 262144 % 0x08 + 0xf0 = 0xf0 ↔ v / 262144 = 0 := by omega
      have hhigh : v / 262144 % 0x08 + 0xf0 = 0xf4 ↔ v / 262144 = 4 := by omega
      simp only [hvalue, hlow, hhigh]
    -- the bounds of the second octet exclude overlong forms and numbers that are too large
    have hlow : (if v / 262144 = 0 then 0x90 else 0x80 : UInt8).toNat ≤
        v / 4096 % 0x40 + 0x80 := by
      split_ifs with h
      · have : (0x90 : UInt8).toNat = 0x90 := rfl
        omega
      · exact Nat.le_add_left _ _
    have hhigh : v / 4096 % 0x40 + 0x80 ≤
        (if v / 262144 = 4 then 0x8F else 0xBF : UInt8).toNat := by
      have : (0x8F : UInt8).toNat = 0x8F := rfl
      have : (0xBF : UInt8).toNat = 0xBF := rfl
      split_ifs with h <;> omega
    have hvalue : ((v / 262144 * 0x40 + v / 4096 % 0x40) * 0x40 + v / 64 % 0x40) * 0x40 +
        v % 0x40 = v := by
      omega
    rw [foldl_step_of_opening hlead, List.foldl_cons, step_more hlow hhigh, List.foldl_cons,
      step_more (Nat.le_add_left _ _) (digit_le _), List.foldl_cons, step_last, hvalue, hchar,
      List.foldl_nil]

/-! ### Texts -/

/-- The parts of a text are its characters. -/
theorem foldl_step_encode (text : List Char) (read : List Part) :
    (text.flatMap String.utf8EncodeChar).foldl Scan.step ⟨read, none⟩ =
      ⟨(text.map Part.char).reverse ++ read, none⟩ := by
  induction text generalizing read with
  | nil => rfl
  | cons c text ih =>
    rw [List.flatMap_cons, List.foldl_append, foldl_step_encodeChar, ih]
    simp

/-- **A text is read back from its octets.** -/
theorem decode?_encode (text : String) : decode? (encode text) = some text := by
  have hread : (text.toList.map Part.char).mapM Part.char? = some text.toList := by
    induction text.toList with
    | nil => rfl
    | cons c rest ih => simp [Part.char?, ih]
  simp only [decode?, scan, encode, foldl_step_encode, List.append_nil, List.reverse_reverse,
    hread, Option.map_some, String.ofList_toList]

/-- Two texts start with the same character if their octets do. -/
theorem encodeChar_append_inj {c d : Char} {l m : Bytes}
    (h : String.utf8EncodeChar c ++ l = String.utf8EncodeChar d ++ m) : c = d ∧ l = m := by
  rcases lt_trichotomy c d with hlt | rfl | hlt
  · exact absurd (h ▸ encodeChar_append_lt hlt l m) (List.lt_irrefl _)
  · exact ⟨rfl, List.append_cancel_left h⟩
  · exact absurd (h ▸ encodeChar_append_lt hlt m l) (List.lt_irrefl _)

/-- **A text starts with another exactly if its octets do.** -/
theorem encode_prefix_iff {w text : List Char} :
    w.flatMap String.utf8EncodeChar <+: text.flatMap String.utf8EncodeChar ↔ w <+: text := by
  refine ⟨fun h => ?_, fun ⟨rest, hrest⟩ => ⟨rest.flatMap String.utf8EncodeChar, ?_⟩⟩
  · induction w generalizing text with
    | nil => exact List.nil_prefix
    | cons c w ih =>
      obtain ⟨more, hmore⟩ := h
      cases text with
      | nil =>
        have hne := String.utf8EncodeChar_ne_nil (c := c)
        simp [hne] at hmore
      | cons d text =>
        rw [List.flatMap_cons, List.append_assoc, List.flatMap_cons] at hmore
        obtain ⟨rfl, hrest⟩ := encodeChar_append_inj hmore
        exact List.cons_prefix_cons.mpr ⟨rfl, ih ⟨more, hrest⟩⟩
  · rw [← hrest, List.flatMap_append]

end SiteSnapshot.Utf8
