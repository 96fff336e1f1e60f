import Mathlib.Data.List.Basic
import SiteSnapshot.Proofs.Url.Encoding
import SiteSnapshot.Url.Host

/-!
# Names of hosts

A host is written with characters of ASCII that end no part of a URL
(`Domain.isNameChar_of_toAscii?`), and a name in ASCII is read as itself in small letters
(`Domain.toAscii?_of_ascii`, `Host.parseSpecial_eq_domain`).
-/

namespace SiteSnapshot

namespace Domain

variable {name label read written : List Char} {c : Char}

/-- True for the characters of a name in its ASCII form. -/
def isNameChar (c : Char) : Bool :=
  c.toNat < 0x80 && !isForbidden c

theorem toNat_lt_of_isNameChar (h : isNameChar c = true) : c.toNat < 0x80 := by
  simp only [isNameChar, Bool.and_eq_true, decide_eq_true_eq] at h
  exact h.1

/-! ### Labels written in ASCII -/

theorem isNameChar_digitChar {d : ℕ} (h : d < 36) : isNameChar (Punycode.digitChar d) = true := by
  decide +revert

theorem isNameChar_of_mem_writeNumber (bias k n : ℕ) :
    ∀ c ∈ Punycode.writeNumber bias k n, isNameChar c = true := by
  fun_induction Punycode.writeNumber bias k n with
  | case1 k n t h =>
    have ht : t ≤ 26 := Punycode.threshold_le k bias
    simpa using isNameChar_digitChar (show n < 36 by omega)
  | case2 k n t h ih =>
    have ht : t ≤ 26 := Punycode.threshold_le k bias
    have hdigit : (n - t) % (36 - t) < 36 - t := Nat.mod_lt _ (by omega)
    rw [List.forall_mem_cons]
    exact ⟨isNameChar_digitChar (by omega), ih⟩

theorem isNameChar_of_mem_pass (basic point : ℕ) (w : Punycode.Writing) (c : Char)
    (h : ∀ d ∈ w.output, isNameChar d = true) :
    ∀ d ∈ (w.pass basic point c).output, isNameChar d = true := by
  unfold Punycode.Writing.pass
  split
  · exact h
  · split
    · exact fun d hd => (List.mem_append.mp hd).elim (h d) (isNameChar_of_mem_writeNumber _ _ _ d)
    · exact h

theorem isNameChar_of_mem_foldl_pass (basic point : ℕ) (label : List Char)
    (w : Punycode.Writing) (h : ∀ d ∈ w.output, isNameChar d = true) :
    ∀ d ∈ (label.foldl (Punycode.Writing.pass basic point) w).output, isNameChar d = true := by
  induction label generalizing w with
  | nil => exact h
  | cons c label ih => exact ih _ (isNameChar_of_mem_pass basic point w c h)

theorem isNameChar_of_mem_writePoints (label : List Char) (basic : ℕ) (points : List ℕ) (next : ℕ)
    (w : Punycode.Writing) (h : ∀ d ∈ w.output, isNameChar d = true) :
    ∀ d ∈ (Punycode.writePoints label basic points next w).output, isNameChar d = true := by
  induction points generalizing next w with
  | nil => exact h
  | cons point points ih => exact ih _ _ (isNameChar_of_mem_foldl_pass basic point label _ h)

/-- What a label is written as has only characters of names. -/
theorem isNameChar_of_mem_encode (h : ∀ c ∈ label, isForbidden c = false) :
    ∀ c ∈ Punycode.encode label, isNameChar c = true := by
  intro c hc
  simp only [Punycode.encode, List.mem_append] at hc
  obtain (hc | hc) | hc := hc
  · obtain ⟨hmem, hascii⟩ := List.mem_filter.mp hc
    simpa [isNameChar, h c hmem] using hascii
  · split at hc
    · cases hc
    · obtain rfl := List.mem_singleton.mp hc
      decide
  · exact isNameChar_of_mem_writePoints _ _ _ _ _ (by simp) c hc

theorem isNameChar_of_mem_mark : ∀ c ∈ mark, isNameChar c = true :=
  List.all_eq_true.mp (by decide)

/-- A label is written as it is if it is in ASCII, and else behind the mark. -/
theorem readLabel?_eq_some (h : readLabel? label = some (read, written)) :
    (isAscii label = true ∧ written = label) ∨
      (isAscii label = false ∧ written = mark ++ Punycode.encode label) := by
  unfold readLabel? at h
  split at h
  · next hmark =>
    refine .inl ?_
    split at h
    · next hdecode =>
      split at h
      · cases h
      · simp only [Option.some.injEq, Prod.mk.injEq] at h
        obtain ⟨rfl, rfl⟩ := h
        refine ⟨?_, rfl⟩
        obtain ⟨rest, rfl⟩ := List.isPrefixOf_iff_prefix.mp hmark
        have hrest : isAscii rest = true := by
          unfold Punycode.decode? at hdecode
          rw [List.drop_left] at hdecode
          dsimp only at hdecode
          split at hdecode
          · cases hdecode
          · next hascii =>
            simp only [not_or] at hascii
            simpa [isAscii] using hascii.2
        simp only [isAscii, List.all_append, Bool.and_eq_true]
        exact ⟨by decide, hrest⟩
    · cases h
  · split at h
    · next hascii =>
      simp only [Option.some.injEq, Prod.mk.injEq] at h
      exact .inl ⟨hascii, h.2.symm⟩
    · next hascii =>
      refine .inr ⟨by simpa using hascii, ?_⟩
      split at h
      · obtain ⟨written, hencode, h⟩ := Option.map_eq_some_iff.mp h
        simp only [Prod.mk.injEq] at h
        unfold Punycode.encode? at hencode
        split at hencode
        · cases hencode
        · cases hencode
          exact h.2.symm
      · cases h

/-! ### Names in ASCII -/

theorem mem_intercalate {α : Type} {sep : List α} {parts : List (List α)} {a : α}
    (h : a ∈ sep.intercalate parts) : a ∈ sep ∨ ∃ part ∈ parts, a ∈ part := by
  induction parts with
  | nil => simp at h
  | cons part parts ih =>
    match parts with
    | [] => exact .inr ⟨part, .head _, by simpa using h⟩
    | next :: parts =>
      rw [List.intercalate_cons_cons, List.mem_append, List.mem_append] at h
      obtain (h | h) | h := h
      · exact .inr ⟨part, .head _, h⟩
      · exact .inl h
      · obtain h | ⟨other, hother, h⟩ := ih h
        · exact .inl h
        · exact .inr ⟨other, .tail _ hother, h⟩

/-- What the labels of a name are read from. -/
theorem labels?_eq_some {labels : List (List Char × List Char)} (h : labels? name = some labels) :
    ∃ mapped, name.mapM mapChar? = some mapped ∧
      (∀ c ∈ compose mapped.flatten, isForbidden c = false) ∧
      ((compose mapped.flatten).splitOn '.').mapM readLabel? = some labels := by
  unfold labels? at h
  obtain ⟨mapped, hmapped, h⟩ := Option.bind_eq_some_iff.mp h
  dsimp only at h
  split at h
  · cases h
  · next hforbidden =>
    obtain ⟨labels', hlabels, h⟩ := Option.bind_eq_some_iff.mp h
    refine ⟨mapped, hmapped, by simpa using hforbidden, ?_⟩
    split at h
    · cases h
    · cases h
      exact hlabels

theorem forall_mapM_readLabel? {P : List Char → Prop} {parts : List (List Char)}
    {labels : List (List Char × List Char)} (h : parts.mapM readLabel? = some labels)
    (hP : ∀ part ∈ parts, ∀ read written, readLabel? part = some (read, written) → P written) :
    ∀ l ∈ labels, P l.2 := by
  induction parts generalizing labels with
  | nil =>
    simp only [List.mapM_nil, Option.pure_def, Option.some.injEq] at h
    subst h
    simp
  | cons part parts ih =>
    rw [List.mapM_cons] at h
    obtain ⟨l, hl, h⟩ := Option.bind_eq_some_iff.mp h
    obtain ⟨rest, hrest, h⟩ := Option.bind_eq_some_iff.mp h
    cases h
    rw [List.forall_mem_cons]
    exact ⟨hP part (.head _) l.1 l.2 hl, ih hrest fun p hp => hP p (.tail _ hp)⟩

theorem mem_intercalate_of_mem {α : Type} {sep part : List α} {parts : List (List α)} {a : α}
    (hpart : part ∈ parts) (ha : a ∈ part) : a ∈ sep.intercalate parts := by
  induction parts with
  | nil => cases hpart
  | cons first parts ih =>
    match parts, hpart with
    | [], .head _ => simpa using ha
    | next :: parts, .head _ =>
      rw [List.intercalate_cons_cons]
      simp [ha]
    | next :: parts, .tail _ hpart =>
      rw [List.intercalate_cons_cons]
      simp [ih hpart]

theorem mem_of_mem_splitOn {l part : List Char} {c : Char} (hpart : part ∈ l.splitOn '.')
    (hc : c ∈ part) : c ∈ l := by
  have hmem : c ∈ ['.'].intercalate (l.splitOn '.') := mem_intercalate_of_mem hpart hc
  rwa [List.intercalate_splitOn] at hmem

/-- A name is written with the characters of names. -/
theorem isNameChar_of_toAscii? {name result : String} (h : toAscii? name = some result) :
    ∀ c ∈ result.toList, isNameChar c = true := by
  obtain ⟨labels, hlabels, rfl⟩ := Option.map_eq_some_iff.mp h
  obtain ⟨mapped, -, hforbidden, hread⟩ := labels?_eq_some hlabels
  have hwritten : ∀ l ∈ labels, ∀ c ∈ l.2, isNameChar c = true := by
    refine forall_mapM_readLabel? (P := fun w => ∀ c ∈ w, isNameChar c = true) hread ?_
    intro part hpart read written hlabel
    have hplain : ∀ c ∈ part, isForbidden c = false := fun c hc =>
      hforbidden c (mem_of_mem_splitOn hpart hc)
    obtain ⟨hascii, rfl⟩ | ⟨-, rfl⟩ := readLabel?_eq_some hlabel
    · intro c hc
      have : c.toNat < 0x80 := by simpa using List.all_eq_true.mp hascii c hc
      simp [isNameChar, hplain c hc, this]
    · intro c hc
      obtain hc | hc := List.mem_append.mp hc
      · exact isNameChar_of_mem_mark c hc
      · exact isNameChar_of_mem_encode hplain c hc
  intro c hc
  rw [String.toList_ofList] at hc
  obtain hc | ⟨part, hpart, hc⟩ := mem_intercalate hc
  · obtain rfl := List.mem_singleton.mp hc
    decide
  · obtain ⟨l, hl, rfl⟩ := List.mem_map.mp hpart
    exact hwritten l hl c hc

theorem toNat_toLower_lt (h : c.toNat < 0x80) : c.toLower.toNat < 0x80 := by
  have hall : ∀ n < 0x80, (Char.ofNat n).toLower.toNat < 0x80 := by decide
  simpa using hall c.toNat h

theorem toLower_eq_of_isUpper_eq_false (h : c.toNat < 0x80) (hupper : c.isUpper = false) :
    c.toLower = c := by
  have hall : ∀ n < 0x80, (Char.ofNat n).isUpper = false →
      (Char.ofNat n).toLower = Char.ofNat n := by
    decide
  have := hall c.toNat h
  rw [Char.ofNat_toNat] at this
  exact this hupper

/-- A name in ASCII is composed already, and stands for itself in small letters. -/
theorem mapM_mapChar?_of_ascii (h : ∀ c ∈ name, c.toNat < 0x80) :
    name.mapM mapChar? = some (name.map fun c => [c.toLower]) := by
  induction name with
  | nil => rfl
  | cons c name ih =>
    rw [List.forall_mem_cons] at h
    simp [mapChar?, h.1, ih h.2]

theorem compose_of_ascii (h : ∀ c ∈ name, c.toNat < 0x80) :
    compose ((name.map fun c => [c.toLower]).flatten) = name.map Char.toLower := by
  have hflatten : (name.map fun c => [c.toLower]).flatten = name.map Char.toLower := by
    rw [← List.flatMap_def, List.map_eq_flatMap]
  rw [hflatten, compose, if_pos]
  rw [List.all_eq_true]
  intro d hd
  obtain ⟨c, hc, rfl⟩ := List.mem_map.mp hd
  have := toNat_toLower_lt (h c hc)
  rw [decide_eq_true_eq]
  omega

/-- Labels in ASCII are written as they are. -/
theorem map_written_of_ascii {parts : List (List Char)} {labels : List (List Char × List Char)}
    (hascii : ∀ part ∈ parts, isAscii part = true) (h : parts.mapM readLabel? = some labels) :
    labels.map (·.2) = parts := by
  induction parts generalizing labels with
  | nil =>
    simp only [List.mapM_nil, Option.pure_def, Option.some.injEq] at h
    simp [← h]
  | cons part parts ih =>
    rw [List.mapM_cons] at h
    obtain ⟨⟨read, written⟩, hlabel, h⟩ := Option.bind_eq_some_iff.mp h
    obtain ⟨rest, hrest, h⟩ := Option.bind_eq_some_iff.mp h
    cases h
    obtain ⟨-, rfl⟩ | ⟨hnot, -⟩ := readLabel?_eq_some hlabel
    · rw [List.map_cons, ih (fun p hp => hascii p (.tail _ hp)) hrest]
    · rw [hascii part (.head _)] at hnot
      cases hnot

/-- A name in ASCII that is accepted is read as itself in small letters. -/
theorem toAscii?_of_ascii {name result : String} (hascii : ∀ c ∈ name.toList, c.toNat < 0x80)
    (h : toAscii? name = some result) : result.toList = name.toList.map Char.toLower := by
  obtain ⟨labels, hlabels, rfl⟩ := Option.map_eq_some_iff.mp h
  obtain ⟨mapped, hmapped, -, hread⟩ := labels?_eq_some hlabels
  rw [mapM_mapChar?_of_ascii hascii, Option.some.injEq] at hmapped
  subst hmapped
  rw [compose_of_ascii hascii] at hread
  have hlower : ∀ c ∈ name.toList.map Char.toLower, c.toNat < 0x80 := by
    intro d hd
    obtain ⟨c, hc, rfl⟩ := List.mem_map.mp hd
    exact toNat_toLower_lt (hascii c hc)
  rw [map_written_of_ascii (fun part hpart => ?_) hread, String.toList_ofList,
    List.intercalate_splitOn]
  rw [isAscii, List.all_eq_true]
  intro c hc
  simpa using hlower c (mem_of_mem_splitOn hpart hc)

theorem mapM_readLabel?_of_ascii {parts : List (List Char)}
    (h : ∀ part ∈ parts, isAscii part = true ∧ mark.isPrefixOf part = false) :
    parts.mapM readLabel? = some (parts.map fun part => (part, part)) := by
  induction parts with
  | nil => rfl
  | cons part parts ih =>
    rw [List.forall_mem_cons] at h
    have hlabel : readLabel? part = some (part, part) := by
      rw [readLabel?, if_neg (by simp [h.1.2]), if_pos h.1.1]
    simp [hlabel, ih h.2]

/-- A name in small letters and other characters of names is read as it is, if no label
stands for another. -/
theorem toAscii?_of_isNameChar (hname : ∀ c ∈ name, isNameChar c = true ∧ c.isUpper = false)
    (hmark : ∀ part ∈ name.splitOn '.', mark.isPrefixOf part = false) :
    toAscii? (String.ofList name) = some (String.ofList name) := by
  have hascii : ∀ c ∈ name, c.toNat < 0x80 := fun c hc => toNat_lt_of_isNameChar (hname c hc).1
  have hforbidden : name.any isForbidden = false := by
    rw [List.any_eq_false]
    intro c hc
    have := (hname c hc).1
    simp only [isNameChar, Bool.and_eq_true, Bool.not_eq_true'] at this
    simp [this.2]
  have hlower : name.map Char.toLower = name := by
    conv_rhs => rw [← List.map_id name]
    refine List.map_congr_left fun c hc => ?_
    exact toLower_eq_of_isUpper_eq_false (hascii c hc) (hname c hc).2
  have hparts : ∀ part ∈ name.splitOn '.', isAscii part = true := by
    intro part hpart
    rw [isAscii, List.all_eq_true]
    intro c hc
    simpa using hascii c (mem_of_mem_splitOn hpart hc)
  -- no character of ASCII is written from right to left
  have hdirection : (name.splitOn '.').any isRightToLeft = false := by
    rw [List.any_eq_false]
    intro part hpart
    rw [isRightToLeft, Bool.not_eq_true, List.any_eq_false]
    intro c hc
    have := hascii c (mem_of_mem_splitOn hpart hc)
    simp only [Bool.and_eq_true, decide_eq_true_eq]
    omega
  have hlabels : labels? name = some ((name.splitOn '.').map fun part => (part, part)) := by
    rw [labels?, mapM_mapChar?_of_ascii hascii]
    simp only [bind, Option.bind_some, compose_of_ascii hascii, hlower, hforbidden]
    rw [mapM_readLabel?_of_ascii fun part hpart => ⟨hparts part hpart, hmark part hpart⟩]
    simp [hdirection, List.any_map, Function.comp_def]
  rw [toAscii?, String.toList_ofList, hlabels, Option.map_some, List.map_map]
  simp [Function.comp_def, List.intercalate_splitOn]

end Domain

namespace Host

variable {text : List Char} {host : Host} {name : String}

/-! ### Hosts of the web -/

/-- A host in ASCII that is read as a name is that name in small letters. -/
theorem parseSpecial_eq_domain (hascii : ∀ c ∈ text, c.toNat < 0x80) (hpercent : '%' ∉ text)
    (h : parseSpecial text = .ok (.domain name)) : name.toList = text.map Char.toLower := by
  unfold parseSpecial at h
  split at h
  · unfold bracketed? at h
    split at h
    · cases h
    · split at h <;> cases h
  · rw [Percent.read_of_ascii hascii hpercent, Option.bind_some] at h
    split at h
    · cases h
    · next name' hname =>
      have hlower := Domain.toAscii?_of_ascii (by simpa using hascii) hname
      rw [String.toList_ofList] at hlower
      split at h
      · cases h
      · split at h
        · split at h <;> cases h
        · cases h
          exact hlower

/-- A name in small letters that is no number is read as it is. -/
theorem parseSpecial_of_isNameChar
    (hname : ∀ c ∈ text, Domain.isNameChar c = true ∧ c.isUpper = false)
    (hmark : ∀ part ∈ text.splitOn '.', Domain.mark.isPrefixOf part = false)
    (hne : text ≠ []) (hnumber : endsInNumber text = false) :
    parseSpecial text = .ok (.domain (String.ofList text)) := by
  have hplain : ∀ d : Char, Domain.isNameChar d = false → d ∉ text := by
    intro d hd hmem
    rw [(hname d hmem).1] at hd
    cases hd
  have hhead : text.head? ≠ some '[' := fun h =>
    hplain '[' (by decide) (List.mem_of_mem_head? h)
  rw [parseSpecial, if_neg hhead,
    Percent.read_of_ascii (fun c hc => Domain.toNat_lt_of_isNameChar (hname c hc).1)
      (hplain '%' (by decide)),
    Option.bind_some, Domain.toAscii?_of_isNameChar hname hmark]
  simp only [String.toList_ofList, hnumber]
  rw [if_neg (by simpa using hne), if_neg (by simp)]
  rfl

/-- True for the characters of a host, those of addresses included. -/
def isAddressChar (c : Char) : Bool :=
  Domain.isNameChar c || c == ':'

theorem isNameChar_natDigitChar {n : ℕ} (h : n < 16) : Domain.isNameChar n.digitChar = true := by
  decide +revert

theorem isNameChar_of_mem_toDigits {base : ℕ} (hbase : 1 < base) (hle : base ≤ 16) (n : ℕ) :
    ∀ c ∈ Nat.toDigits base n, Domain.isNameChar c = true := by
  induction n using Nat.strongRecOn with
  | ind n ih =>
    rw [Nat.toDigits_eq_if hbase]
    split
    · next h => simpa using isNameChar_natDigitChar (show n < 16 by omega)
    · next h =>
      have hlt : n / base < n := Nat.div_lt_self (by omega) hbase
      have hdigit : n % base < base := Nat.mod_lt _ (by omega)
      intro c hc
      obtain hc | hc := List.mem_append.mp hc
      · exact ih _ hlt c hc
      · obtain rfl := List.mem_singleton.mp hc
        exact isNameChar_natDigitChar (by omega)

theorem isNameChar_of_mem_ipv4 (a : ℕ) :
    ∀ c ∈ (Host.ipv4 a).text.toList, Domain.isNameChar c = true := by
  intro c hc
  rw [Host.text, String.toList_intercalate] at hc
  obtain hc | ⟨part, hpart, hc⟩ := Domain.mem_intercalate hc
  · obtain rfl := List.mem_singleton.mp hc
    decide
  · obtain ⟨s, hs, rfl⟩ := List.mem_map.mp hpart
    obtain ⟨n, -, rfl⟩ := List.mem_map.mp hs
    rw [Nat.toString_eq_ofList_toDigits, String.toList_ofList] at hc
    exact isNameChar_of_mem_toDigits (by decide) (by decide) n c hc

theorem isAddressChar_of_mem_ipv6Text (pieces : List ℕ) :
    ∀ c ∈ (ipv6Text pieces).toList, isAddressChar c = true := by
  have hjoin : ∀ l : List ℕ, ∀ c ∈ (":".intercalate (l.map hexText)).toList,
      isAddressChar c = true := by
    intro l c hc
    rw [String.toList_intercalate] at hc
    obtain hc | ⟨part, hpart, hc⟩ := Domain.mem_intercalate hc
    · obtain rfl := List.mem_singleton.mp hc
      decide
    · obtain ⟨s, hs, rfl⟩ := List.mem_map.mp hpart
      obtain ⟨n, -, rfl⟩ := List.mem_map.mp hs
      rw [hexText, String.toList_ofList] at hc
      simp [isAddressChar, isNameChar_of_mem_toDigits (by decide) (by decide) n c hc]
  intro c hc
  unfold ipv6Text at hc
  dsimp only at hc
  split at hc
  · rw [String.toList_append, String.toList_append, List.mem_append, List.mem_append] at hc
    obtain (hc | hc) | hc := hc
    · exact hjoin _ c hc
    · have hcolons : ∀ c ∈ "::".toList, isAddressChar c = true :=
        List.all_eq_true.mp (by decide)
      exact hcolons c hc
    · exact hjoin _ c hc
  · exact hjoin _ c hc

/-- A host of the web is written with characters of names, or it is an address in
brackets. -/
theorem text_of_parseSpecial (h : parseSpecial text = .ok host) :
    host.text.toList ≠ [] ∧
      ((∀ c ∈ host.text.toList, Domain.isNameChar c = true) ∨
        ∃ inner, host.text.toList = '[' :: (inner ++ [']']) ∧
          ∀ c ∈ inner, isAddressChar c = true) := by
  unfold parseSpecial at h
  split at h
  · unfold bracketed? at h
    split at h
    · cases h
    · split at h
      · next pieces _ =>
        cases h
        have htext : (Host.ipv6 pieces).text.toList =
            '[' :: ((ipv6Text pieces).toList ++ [']']) := by
          simp [Host.text]
        exact ⟨by simp [htext], .inr ⟨_, htext, isAddressChar_of_mem_ipv6Text pieces⟩⟩
      · cases h
  · split at h
    · cases h
    · next name hname =>
      obtain ⟨octets, -, hascii⟩ := Option.bind_eq_some_iff.mp hname
      have hchars := Domain.isNameChar_of_toAscii? hascii
      split at h
      · cases h
      · next hne =>
        split at h
        · split at h
          · next address _ =>
            cases h
            refine ⟨?_, .inl (isNameChar_of_mem_ipv4 address)⟩
            rw [Host.text, String.toList_intercalate, List.map_cons, List.map_cons, List.map_cons,
              List.map_cons, List.intercalate_cons_cons]
            simp
          · cases h
        · cases h
          exact ⟨by simpa [Host.text] using hne, .inl hchars⟩

end Host

end SiteSnapshot
