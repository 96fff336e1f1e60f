import Mathlib.Data.String.Basic
import SiteSnapshot.Catalog.Sorted
import SiteSnapshot.Text.Utf8

/-!
# Texts in order

Texts are compared character by character, and this is the order of their octets
(`Utf8.encode_lt_encode_iff`). A character has one **lead** octet and then one octet for each of its
last digits to the base 64; the lead octet of a smaller character is smaller, or it is the same and
the digits decide.

A list in order and without repetitions is decided by its members (`eq_of_pairwise_lt`), and
`sortedSet` gives the one with the members of a list (`pairwise_sortedSet`, `mem_sortedSet`).
-/

namespace SiteSnapshot

/-! ### Octets -/

namespace Utf8

/-- The octets of the last digits of a number to the base 64. -/
private def digitOctets : ℕ → ℕ → Bytes
  | 0, _ => []
  | k + 1, v => digitOctets k (v / 64) ++ [UInt8.ofNat (v % 64 + 0x80)]

/-- A number without its last digits to the base 64. -/
private def leading : ℕ → ℕ → ℕ
  | 0, v => v
  | k + 1, v => leading k (v / 64)

/-- How many octets follow the lead octet of a character. -/
private def followers (v : ℕ) : ℕ :=
  if v ≤ 0x7f then 0 else if v ≤ 0x7ff then 1 else if v ≤ 0xffff then 2 else 3

/-- The lead octet of a character. -/
private def leadOctet (v : ℕ) : ℕ :=
  if v ≤ 0x7f then v
  else if v ≤ 0x7ff then leading 1 v + 0xc0
  else if v ≤ 0xffff then leading 2 v + 0xe0
  else leading 3 v + 0xf0

private theorem ofNat_lt_ofNat {a b : ℕ} (h : a < b) (hb : b < 256) :
    UInt8.ofNat a < UInt8.ofNat b := by
  rw [UInt8.lt_iff_toNat_lt, UInt8.toNat_ofNat', UInt8.toNat_ofNat']
  omega

/-- Numbers that differ in their last digits are in the order of these. -/
private theorem digitOctets_append_lt {k v w : ℕ} (h : v < w) (hleading : leading k v = leading k w)
    (l m : Bytes) : digitOctets k v ++ l < digitOctets k w ++ m := by
  induction k generalizing v w l m with
  | zero =>
    rw [leading, leading] at hleading
    omega
  | succ k ih =>
    rw [digitOctets, digitOctets, List.append_assoc, List.append_assoc]
    by_cases hdiv : v / 64 = w / 64
    · rw [hdiv]
      refine List.append_left_lt (List.cons_lt_cons_iff.mpr (Or.inl ?_))
      exact ofNat_lt_ofNat (by omega) (by omega)
    · exact ih (by omega) hleading _ _

private theorem utf8EncodeChar_eq (c : Char) : String.utf8EncodeChar c =
    UInt8.ofNat (leadOctet c.val.toNat) ::
      digitOctets (followers c.val.toNat) c.val.toNat := by
  have hmax : c.val.toNat < 0x110000 := by
    rcases c.valid with hc | hc
    · have hc : c.val.toNat < 0xd800 := hc
      omega
    · exact hc.2
  simp only [String.utf8EncodeChar, leadOctet, followers]
  generalize c.val.toNat = v at *
  have hfour : v / 64 / 64 = v / 4096 := Nat.div_div_eq_div_mul v 64 64
  have hsix : v / 4096 / 64 = v / 262144 := Nat.div_div_eq_div_mul v 4096 64
  split_ifs
  · rfl
  · simp only [leading, digitOctets, List.nil_append]
    rw [Nat.mod_eq_of_lt (by omega)]
  · simp only [leading, digitOctets, List.nil_append, List.cons_append, hfour]
    rw [Nat.mod_eq_of_lt (a := v / 4096) (by omega)]
  · simp only [leading, digitOctets, List.nil_append, List.cons_append, hfour, hsix]
    rw [Nat.mod_eq_of_lt (a := v / 262144) (by omega)]

private theorem leadOctet_lt {v : ℕ} (hmax : v < 0x110000) : leadOctet v < 256 := by
  simp only [leadOctet, leading]
  split_ifs <;> omega

/-- The lead octets of two characters are in their order, or they are the same, and then the
characters have as many octets. -/
private theorem leadOctet_lt_or {v w : ℕ} (h : v < w) (hmax : w < 0x110000) :
    leadOctet v < leadOctet w ∨ leadOctet v = leadOctet w ∧ followers v = followers w ∧
      leading (followers v) v = leading (followers w) w := by
  simp only [leadOctet, followers]
  split_ifs <;> simp only [leading, true_and] <;> omega

/-- **A smaller character has smaller octets**, whatever follows. -/
theorem encodeChar_append_lt {c d : Char} (h : c < d) (l m : Bytes) :
    String.utf8EncodeChar c ++ l < String.utf8EncodeChar d ++ m := by
  have hval : c.val.toNat < d.val.toNat := h
  have hmax : d.val.toNat < 0x110000 := by
    rcases d.valid with hd | hd
    · have hd : d.val.toNat < 0xd800 := hd
      omega
    · exact hd.2
  rw [utf8EncodeChar_eq, utf8EncodeChar_eq, List.cons_append, List.cons_append,
    List.cons_lt_cons_iff]
  rcases leadOctet_lt_or hval hmax with hlt | ⟨heq, hfollowers, hleading⟩
  · exact Or.inl (ofNat_lt_ofNat hlt (leadOctet_lt hmax))
  · rw [hfollowers] at hleading ⊢
    exact Or.inr ⟨by rw [heq], digitOctets_append_lt hval hleading l m⟩

/-- **Texts are in the order of their octets.** -/
theorem encode_lt_encode_iff {a b : String} : encode a < encode b ↔ a < b := by
  have hlt : ∀ {l m : List Char}, l < m →
      l.flatMap String.utf8EncodeChar < m.flatMap String.utf8EncodeChar := by
    intro l m h
    induction l generalizing m with
    | nil =>
      cases m with
      | nil => exact absurd h (List.lt_irrefl _)
      | cons d ds =>
        obtain ⟨x, xs, hx⟩ := List.exists_cons_of_ne_nil (String.utf8EncodeChar_ne_nil (c := d))
        rw [List.flatMap_nil, List.flatMap_cons, hx]
        exact List.nil_lt_cons _ _
    | cons c cs ih =>
      cases m with
      | nil => exact absurd h (List.not_lt_nil _)
      | cons d ds =>
        rw [List.flatMap_cons, List.flatMap_cons]
        rcases List.cons_lt_cons_iff.mp h with hchar | ⟨rfl, hrest⟩
        · exact encodeChar_append_lt hchar _ _
        · exact List.append_left_lt (ih hrest)
  refine ⟨fun h => ?_, fun h => hlt h⟩
  rcases lt_trichotomy a b with hab | rfl | hba
  · exact hab
  · exact absurd h (List.lt_irrefl _)
  · exact absurd (hlt hba) (List.lt_asymm h)

end Utf8

/-! ### Lists in order -/

variable {l m : List String} {a : String}

/-- Lists in order and without repetitions are the same if their members are. -/
theorem eq_of_pairwise_lt (hl : l.Pairwise (· < ·)) (hm : m.Pairwise (· < ·))
    (h : ∀ a, a ∈ l ↔ a ∈ m) : l = m :=
  ((List.perm_ext_iff_of_nodup (hl.imp ne_of_lt) (hm.imp ne_of_lt)).mpr h).eq_of_pairwise
    (fun _ _ _ _ hab hba => absurd hab (lt_asymm hba)) hl hm

theorem mem_dropRepeats : a ∈ sortedSet.dropRepeats l ↔ a ∈ l := by
  fun_induction sortedSet.dropRepeats l with
  | case1 => rfl
  | case2 => rfl
  | case3 b rest ih => simp [ih]
  | case4 b c rest hne ih => rw [List.mem_cons, ih, ← List.mem_cons]

theorem pairwise_dropRepeats (h : l.Pairwise (· ≤ ·)) :
    (sortedSet.dropRepeats l).Pairwise (· < ·) := by
  fun_induction sortedSet.dropRepeats l with
  | case1 => exact .nil
  | case2 a => exact List.pairwise_singleton _ _
  | case3 b rest ih => exact ih h.of_cons
  | case4 a b rest hne ih =>
    obtain ⟨hfirst, hrest⟩ := List.pairwise_cons.mp h
    refine List.pairwise_cons.mpr ⟨fun c hc => ?_, ih hrest⟩
    -- what follows is at least the next element, which is greater
    have hab : a < b := lt_of_le_of_ne (hfirst b List.mem_cons_self) hne
    rcases List.mem_cons.mp (mem_dropRepeats.mp hc) with rfl | hc
    · exact hab
    · exact hab.trans_le ((List.pairwise_cons.mp hrest).1 c hc)

theorem mem_sortedSet : a ∈ sortedSet l ↔ a ∈ l := by
  rw [sortedSet, mem_dropRepeats, List.mem_mergeSort]

theorem pairwise_sortedSet (l : List String) : (sortedSet l).Pairwise (· < ·) := by
  refine pairwise_dropRepeats ?_
  simpa using @List.pairwise_mergeSort _ (fun a b : String => decide (a ≤ b))
    (fun a b c => by simpa using le_trans) (fun a b => by simpa using le_total a b) l

end SiteSnapshot
