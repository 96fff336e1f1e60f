import Mathlib.Data.List.DropRight
import SiteSnapshot.Proofs.Json.Grammar

/-!
# The reader takes the grammar

Every text of a value is read. Within the limits of the reader the answer is the value itself
(`read_of_readable`); a value that exceeds them is cut off where it does (`Cut`), so that the answer
is the value up to there (`read_of_isText`).

The readers of strings, numbers and blanks are described first, then one step of the readers of
values, items and members. What a part of a text is read as (`Reads`) follows from these steps by
induction on the text (`reads_of_partText`).
-/

namespace SiteSnapshot.Json

variable {bound nesting : ℕ} {done text rest : List Char}

/-! ### Strings -/

/-- A character is at least one octet. -/
theorem length_le_utf8ByteSize (chars : List Char) :
    chars.length ≤ (String.ofList chars).utf8ByteSize := by
  induction chars with
  | nil => simp
  | cons c chars ih =>
    have hsplit : String.ofList (c :: chars) = String.singleton c ++ String.ofList chars := by
      rw [← String.toList_inj]
      simp
    have hc := c.utf8Size_pos
    rw [hsplit, String.utf8ByteSize_append, String.utf8ByteSize_singleton, List.length_cons]
    omega

/-- Four digits are read whatever stands behind them. -/
theorem readUnit_append {n : ℕ} {digits : List Char} (hlen : digits.length = 4)
    (hn : Digit.number? 16 digits = some n) (rest : List Char) :
    readUnit (digits ++ rest) = .ok (n, rest) := by
  have htake : (digits ++ rest).take 4 = digits := List.take_left' hlen
  have hdrop : (digits ++ rest).drop 4 = rest := List.drop_left' hlen
  have hsize : ¬(String.ofList digits).utf8ByteSize < 4 := by
    have hle := length_le_utf8ByteSize digits
    omega
  rw [readUnit, htake, if_neg hsize, hn, hdrop]

theorem readUnicode_append {n : ℕ} {digits : List Char} (hlen : digits.length = 4)
    (hn : Digit.number? 16 digits = some n) (hplain : n < 0xD800 ∨ 0xDFFF < n)
    (rest : List Char) : readUnicode (digits ++ rest) = .ok (Char.ofNat n, rest) := by
  have hlow : ¬(0xDC00 ≤ n ∧ n ≤ 0xDFFF) := by omega
  have hhigh : ¬(0xD800 ≤ n ∧ n ≤ 0xDBFF) := by omega
  rw [readUnicode, readUnit_append hlen hn]
  simp only [bind, Except.bind, if_neg hlow, if_neg hhigh]
  rfl

theorem readUnicode_surrogates {n m : ℕ} {high low : List Char} (hhigh : high.length = 4)
    (hlow : low.length = 4) (hn : Digit.number? 16 high = some n)
    (hm : Digit.number? 16 low = some m) (hn' : 0xD800 ≤ n ∧ n ≤ 0xDBFF)
    (hm' : 0xDC00 ≤ m ∧ m ≤ 0xDFFF) (rest : List Char) :
    readUnicode (high ++ '\\' :: 'u' :: (low ++ rest)) =
      .ok (Char.ofNat (0x10000 + (n - 0xD800) * 0x400 + (m - 0xDC00)), rest) := by
  have hnot : ¬(0xDC00 ≤ n ∧ n ≤ 0xDFFF) := by omega
  rw [readUnicode, readUnit_append hhigh hn]
  simp only [bind, Except.bind, if_neg hnot, if_pos hn', readUnit_append hlow hm, if_pos hm']
  rfl

theorem readString_quote :
    readString (bound + 1) done ('"' :: rest) = .ok (String.ofList done.reverse, rest) := by
  rw [readString.eq_def]
  simp only [if_true]

theorem readString_plain {c : Char} (hquote : c ≠ '"') (hescape : c ≠ '\\')
    (hcontrol : 0x20 ≤ c.toNat) :
    readString (bound + 1) done (c :: rest) = readString bound (c :: done) rest := by
  rw [readString.eq_def]
  simp only [if_neg hquote, if_neg hescape, if_neg (Nat.not_lt.mpr hcontrol)]

theorem readString_escaped {e c : Char} (he : escaped? e = some c) :
    readString (bound + 1) done ('\\' :: e :: rest) = readString bound (c :: done) rest := by
  have hu : e ≠ 'u' := by
    rintro rfl
    simp [escaped?] at he
  rw [readString.eq_def]
  simp [he]

theorem readString_unicode {c : Char} {rest' : List Char}
    (h : readUnicode rest = .ok (c, rest')) :
    readString (bound + 1) done ('\\' :: 'u' :: rest) = readString bound (c :: done) rest' := by
  rw [readString.eq_def]
  simp [h]

/-- **A string is read** up to its closing quote. -/
theorem readString_append {chars : List Char} (h : StringText chars text)
    (hbound : text.length < bound) (done rest : List Char) :
    readString bound done (text ++ '"' :: rest) =
      .ok (String.ofList (done.reverse ++ chars), rest) := by
  induction h generalizing bound done with
  | nil =>
    obtain ⟨bound, rfl⟩ : ∃ b, bound = b + 1 := ⟨bound - 1, by omega⟩
    rw [List.nil_append, readString_quote, List.append_nil]
  | plain hquote hescape hcontrol _ ih =>
    rw [List.length_cons] at hbound
    obtain ⟨bound, rfl⟩ : ∃ b, bound = b + 1 := ⟨bound - 1, by omega⟩
    rw [List.cons_append, readString_plain hquote hescape hcontrol, ih (by omega)]
    simp
  | escaped he _ ih =>
    simp only [List.length_cons] at hbound
    obtain ⟨bound, rfl⟩ : ∃ b, bound = b + 1 := ⟨bound - 1, by omega⟩
    rw [List.cons_append, List.cons_append, readString_escaped he, ih (by omega)]
    simp
  | unicode hlen hn hplain _ ih =>
    simp only [List.length_cons, List.length_append] at hbound
    obtain ⟨bound, rfl⟩ : ∃ b, bound = b + 1 := ⟨bound - 1, by omega⟩
    rw [List.cons_append, List.cons_append, List.append_assoc,
      readString_unicode (readUnicode_append hlen hn hplain _), ih (by omega)]
    simp
  | surrogates hhigh hlow hn hm hn' hm' _ ih =>
    simp only [List.length_cons, List.length_append] at hbound
    obtain ⟨bound, rfl⟩ : ∃ b, bound = b + 1 := ⟨bound - 1, by omega⟩
    rw [List.cons_append, List.cons_append, List.append_assoc, List.cons_append, List.cons_append,
      List.append_assoc, readString_unicode (readUnicode_surrogates hhigh hlow hn hm hn' hm' _),
      ih (by omega)]
    simp

/-! ### Numbers -/

/-- No number goes on behind it. -/
def Ends (rest : List Char) : Prop :=
  ∀ c, rest.head? = some c → c.isDigit = false ∧ c ≠ '.' ∧ c ≠ 'e' ∧ c ≠ 'E'

/-- A text that starts with digits starts with a digit. -/
theorem IsDigits.isDigit_of_append_eq {digits more : List Char} {c : Char} (h : IsDigits digits)
    (heq : digits ++ rest = c :: more) : c.isDigit = true := by
  cases digits with
  | nil => exact absurd rfl h.ne_nil
  | cons d digits =>
    obtain ⟨rfl, -⟩ := List.cons.inj heq
    exact h.isDigit d List.mem_cons_self

theorem readDigits_append {digits : List Char} (h : IsDigits digits)
    (hrest : ∀ c, rest.head? = some c → c.isDigit = false) :
    readDigits (digits ++ rest) = .ok (digits, rest) := by
  have htake : (digits ++ rest).takeWhile Char.isDigit = digits := by
    rw [List.takeWhile_append_of_pos h.isDigit]
    cases rest with
    | nil => simp
    | cons c rest => simp [hrest c rfl]
  have hempty : digits.isEmpty = false := List.isEmpty_eq_false_iff.mpr h.ne_nil
  simp only [readDigits, htake, List.drop_left, hempty, Bool.false_eq_true, if_false]

theorem readFraction_append {fraction : Option (List Char)} (h : FractionText fraction text)
    (hrest : ∀ c, rest.head? = some c → c.isDigit = false ∧ c ≠ '.') :
    readFraction (text ++ rest) = .ok (fraction, rest) := by
  cases h with
  | none =>
    rw [List.nil_append, readFraction.eq_def]
    split
    · exact absurd rfl (hrest '.' rfl).2
    · rfl
  | some h =>
    rw [List.cons_append, readFraction, readDigits_append h fun c hc => (hrest c hc).1]
    rfl

theorem readExponent_append {exponent : Option (Bool × List Char)} (h : ExponentText exponent text)
    (hrest : Ends rest) : readExponent (text ++ rest) = .ok (exponent, rest) := by
  have hdigits : ∀ c, rest.head? = some c → c.isDigit = false := fun c hc => (hrest c hc).1
  cases h with
  | none =>
    rw [List.nil_append]
    cases rest with
    | nil => rfl
    | cons c rest =>
      have hc : ¬(c = 'e' ∨ c = 'E') := not_or.mpr (hrest c rfl).2.2
      rw [readExponent.eq_def]
      simp only [if_neg hc]
  | unsigned he h =>
    rw [List.cons_append, readExponent.eq_def]
    simp only [if_pos he]
    split
    · rename_i hsign
      exact absurd (h.isDigit_of_append_eq hsign) (by decide)
    · rename_i hsign
      exact absurd (h.isDigit_of_append_eq hsign) (by decide)
    · rw [readDigits_append h hdigits]
      rfl
  | plus he h =>
    rw [List.cons_append, List.cons_append, readExponent, if_pos he]
    simp only [readDigits_append h hdigits]
    rfl
  | minus he h =>
    rw [List.cons_append, List.cons_append, readExponent, if_pos he]
    simp only [readDigits_append h hdigits]
    rfl

/-- An exponent starts with its letter. -/
theorem head_exponent_append {exponent : Option (Bool × List Char)}
    (h : ExponentText exponent text) (hrest : Ends rest) {c : Char}
    (hc : (text ++ rest).head? = some c) : c.isDigit = false ∧ c ≠ '.' := by
  have hletter : ∀ e : Char, e = 'e' ∨ e = 'E' → e.isDigit = false ∧ e ≠ '.' := by
    rintro e (rfl | rfl) <;> decide
  cases h with
  | none => exact ⟨(hrest c hc).1, (hrest c hc).2.1⟩
  | unsigned he | plus he | minus he =>
    obtain rfl := Option.some.inj hc
    exact hletter _ he

/-- A fraction starts with its point. -/
theorem head_fraction_append {fraction : Option (List Char)} {exponent : Option (Bool × List Char)}
    {exponentText : List Char} (h : FractionText fraction text)
    (hexponent : ExponentText exponent exponentText) (hrest : Ends rest) {c : Char}
    (hc : (text ++ (exponentText ++ rest)).head? = some c) : c.isDigit = false := by
  cases h with
  | none => exact (head_exponent_append hexponent hrest hc).1
  | some h =>
    obtain rfl := Option.some.inj hc
    rfl

/-- The sign is read off the first character. -/
theorem sign_append (negative : Bool) {body : List Char} (hbody : body.head? ≠ some '-') :
    ((((if negative then ['-'] else []) ++ body).head? == some '-') = negative) ∧
      (if negative then ((if negative then ['-'] else []) ++ body).drop 1
        else (if negative then ['-'] else []) ++ body) = body := by
  cases negative <;> simp [hbody]

/-- **A number is read**, unless it is too large for a floating point number and no natural number
below the limit. -/
theorem readNumber_append {n : JsonNumber} (h : NumberText n text) (hrest : Ends rest) :
    readNumber (text ++ rest) =
      if n.natural?.isNone && n.isTooLarge then .error .malformed else .ok (n, rest) := by
  cases h with
  | @mk negative whole fractionText exponentText fraction exponent hwhole hzero hfraction
      hexponent =>
    have hbody : readDigits (whole ++ (fractionText ++ (exponentText ++ rest))) =
        .ok (whole, fractionText ++ (exponentText ++ rest)) :=
      readDigits_append hwhole fun c hc => head_fraction_append hfraction hexponent hrest hc
    have hfraction' : readFraction (fractionText ++ (exponentText ++ rest)) =
        .ok (fraction, exponentText ++ rest) :=
      readFraction_append hfraction fun c hc => head_exponent_append hexponent hrest hc
    have hexponent' := readExponent_append hexponent hrest
    have hzero' : ¬(whole.head? = some '0' ∧ whole.length > 1) := fun h =>
      absurd (hzero h.1) (Nat.ne_of_gt h.2)
    have hdigit : (whole ++ (fractionText ++ (exponentText ++ rest))).head? ≠ some '-' := by
      intro hhead
      obtain ⟨more, hmore⟩ := List.head?_eq_some_iff.mp hhead
      exact absurd (hwhole.isDigit_of_append_eq hmore) (by decide)
    obtain ⟨hsign, hdrop⟩ := sign_append negative hdigit
    simp only [readNumber, List.append_assoc, hsign, hdrop, hbody, hfraction', hexponent', bind,
      Except.bind, if_neg hzero']
    rfl

/-! ### What is read of a value -/

/-- What is read of a value that is not within the limits, as far as the reader gets: the value in
which it stops is broken, and nothing stands behind it. -/
inductive Cut : ℕ → Json → Json → Prop
  | tooLarge {nesting : ℕ} {n : JsonNumber} (hnatural : n.natural? = none)
      (hlarge : n.isTooLarge = true) : Cut nesting (.number n) (.broken .malformed)
  | deepArray {nesting : ℕ} {vs : List Json} (h : maxNesting ≤ nesting) :
      Cut nesting (.array vs none) (.broken .malformed)
  | deepObject {nesting : ℕ} {ms : List (String × Json)} (h : maxNesting ≤ nesting) :
      Cut nesting (.object ms none) (.broken .malformed)
  | item {nesting : ℕ} {before behind : List Json} {v v' : Json} (h : Cut (nesting + 1) v v') :
      Cut nesting (.array (before ++ v :: behind) none) (.array (before ++ [v']) none)
  | member {nesting : ℕ} {before behind : List (String × Json)} {key : String} {v v' : Json}
      (h : Cut (nesting + 1) v v') :
      Cut nesting (.object (before ++ (key, v) :: behind) none)
        (.object (before ++ [(key, v')]) none)

/-- Only a value that is not within the limits is cut off. -/
theorem Cut.not_readable {v v' : Json} (h : Cut nesting v v') : ¬Readable nesting v := by
  induction h with
  | tooLarge hnatural hlarge =>
    rintro (_ | _ | _ | h)
    simp [hnatural, hlarge] at h
  | deepArray h =>
    rintro (_ | _ | _ | _ | ⟨hnesting, -⟩)
    exact Nat.not_lt.mpr h hnesting
  | deepObject h =>
    rintro (_ | _ | _ | _ | _ | ⟨hnesting, -⟩)
    exact Nat.not_lt.mpr h hnesting
  | @item nesting before behind v v' h ih =>
    rintro (_ | _ | _ | _ | ⟨-, hitems⟩)
    exact ih (hitems v (by simp))
  | @member nesting before behind key v v' h ih =>
    rintro (_ | _ | _ | _ | _ | ⟨-, hmembers⟩)
    exact ih (hmembers (key, v) (by simp))

/-- What is cut off is not flat. -/
theorem Cut.not_flat {v v' : Json} (h : Cut nesting v v') : ¬Flat v' := by
  induction h with
  | tooLarge | deepArray | deepObject | member => rintro ⟨⟩
  | item h ih => exact fun hflat => ih (hflat.of_mem (by simp))

/-- What the reader answers to a text of a value with something behind it. -/
inductive Answers (nesting : ℕ) (v : Json) (rest : List Char) : Json × Option (List Char) → Prop
  | whole : Answers nesting v rest (v, some rest)
  | cut {v' : Json} (h : Cut nesting v v') : Answers nesting v rest (v', none)

/-! ### Blanks -/

theorem skipBlanks_append {blanks : List Char} (h : AllBlank blanks) (text : List Char) :
    skipBlanks (blanks ++ text) = skipBlanks text :=
  List.dropWhile_append_of_pos h

theorem skipBlanks_skipBlanks (text : List Char) :
    skipBlanks (skipBlanks text) = skipBlanks text :=
  List.dropWhile_idempotent _ _

theorem skipBlanks_cons {c : Char} (hc : isBlank c = false) (text : List Char) :
    skipBlanks (c :: text) = c :: text :=
  List.dropWhile_cons_of_neg (by simp [hc])

theorem isBlank_iff {c : Char} :
    isBlank c = true ↔ ((c = ' ' ∨ c = '\n') ∨ c = '\t') ∨ c = '\r' := by
  simp only [isBlank, Bool.or_eq_true, beq_iff_eq]

/-- Blanks behind a number end it. -/
theorem AllBlank.ends {blanks : List Char} (h : AllBlank blanks) : Ends blanks := by
  intro c hc
  have hblank := isBlank_iff.mp (h c (List.mem_of_head? hc))
  obtain ((rfl | rfl) | rfl) | rfl := hblank <;> decide

/-- A bracket or a comma behind a number ends it, also behind blanks. -/
theorem ends_append {blanks : List Char} {c : Char} (h : AllBlank blanks)
    (hc : c = ',' ∨ c = ']' ∨ c = '\x7d') : Ends (blanks ++ c :: rest) := by
  intro d hd
  cases blanks with
  | nil =>
    obtain rfl := Option.some.inj hd
    obtain rfl | rfl | rfl := hc <;> decide
  | cons b blanks => exact h.ends d hd

/-- Blanks before a value do not matter. -/
theorem readValue_skipBlanks (bound nesting : ℕ) (text : List Char) :
    readValue bound nesting (skipBlanks text) = readValue bound nesting text := by
  cases bound with
  | zero => rfl
  | succ bound => simp only [readValue, skipBlanks_skipBlanks]

theorem readValue_append {blanks : List Char} (h : AllBlank blanks) (bound nesting : ℕ)
    (text : List Char) :
    readValue bound nesting (blanks ++ text) = readValue bound nesting text := by
  rw [← readValue_skipBlanks, skipBlanks_append h, readValue_skipBlanks]

theorem readItems_skipBlanks (bound nesting : ℕ) (done : List Json) (text : List Char) :
    readItems bound nesting done (skipBlanks text) = readItems bound nesting done text := by
  cases bound with
  | zero => rfl
  | succ bound => simp only [readItems, readValue_skipBlanks]

theorem readMembers_skipBlanks (bound nesting : ℕ) (done : List (String × Json))
    (text : List Char) :
    readMembers bound nesting done (skipBlanks text) = readMembers bound nesting done text := by
  cases bound with
  | zero => rfl
  | succ bound => simp only [readMembers, skipBlanks_skipBlanks]

/-! ### The first character of a part -/

theorem isBlank_of_isDigit {c : Char} (hc : c.isDigit = true) : isBlank c = false := by
  by_contra hblank
  obtain ((rfl | rfl) | rfl) | rfl := isBlank_iff.mp (Bool.not_eq_false _ ▸ hblank) <;>
    exact absurd hc (by decide)

/-- A number starts with its sign or a digit. -/
theorem NumberText.exists_cons {n : JsonNumber} (h : NumberText n text) :
    ∃ c more, text = c :: more ∧ (c = '-' ∨ c.isDigit = true) := by
  cases h with
  | @mk negative whole _ _ _ _ hwhole =>
    cases negative with
    | true => exact ⟨'-', _, rfl, .inl rfl⟩
    | false =>
      cases whole with
      | nil => exact absurd rfl hwhole.ne_nil
      | cons d whole => exact ⟨d, _, rfl, .inr (hwhole.isDigit d List.mem_cons_self)⟩

/-- The first character of a value is no blank and closes no list. -/
theorem PartText.exists_cons {v : Json} (h : PartText (.value v) text) :
    ∃ c more, text = c :: more ∧ isBlank c = Bool.false ∧ c ≠ ']' := by
  cases h with
  | null | true | false | string | noItems | array | noMembers | object =>
    exact ⟨_, _, rfl, by decide, by decide⟩
  | number h =>
    obtain ⟨c, more, htext, rfl | hc⟩ := h.exists_cons
    · exact ⟨'-', more, htext, by decide, by decide⟩
    · refine ⟨c, more, htext, isBlank_of_isDigit hc, ?_⟩
      rintro rfl
      exact absurd hc (by decide)

/-- The first character of the items of a list closes no list. -/
theorem PartText.skipBlanks_items {vs : List Json} (h : PartText (.items vs) text)
    (rest : List Char) : ∃ c more, skipBlanks (text ++ rest) = c :: more ∧ c ≠ ']' := by
  cases h with
  | lastItem hbefore _ h | nextItem hbefore _ h =>
    obtain ⟨c, more, rfl, hblank, hc⟩ := h.exists_cons
    rw [List.append_assoc, skipBlanks_append hbefore, List.cons_append, List.cons_append,
      skipBlanks_cons hblank]
    exact ⟨c, _, rfl, hc⟩

/-- Members of an object start with a quote. -/
theorem PartText.skipBlanks_members {ms : List (String × Json)} (h : PartText (.members ms) text)
    (rest : List Char) : ∃ more, skipBlanks (text ++ rest) = '"' :: more := by
  cases h with
  | lastMember hbefore _ h | nextMember hbefore _ h =>
    cases h with
    | member =>
      rw [List.append_assoc, skipBlanks_append hbefore]
      exact ⟨_, rfl⟩

/-! ### One step -/

theorem readValue_number {c : Char} (hc : c = '-' ∨ c.isDigit = true) :
    readValue (bound + 1) nesting (c :: rest) = orBreak .number (readNumber (c :: rest)) := by
  have hne : ∀ d : Char, d.isDigit = false → d ≠ '-' → c ≠ d := by
    rintro d hdigit hminus rfl
    obtain rfl | hd := hc
    · exact hminus rfl
    · rw [hdigit] at hd
      cases hd
  have hblank : isBlank c = false := by
    obtain rfl | hd := hc
    · rfl
    · exact isBlank_of_isDigit hd
  simp only [readValue, skipBlanks_cons hblank, if_neg (hne 'n' (by decide) (by decide)),
    if_neg (hne 't' (by decide) (by decide)), if_neg (hne 'f' (by decide) (by decide)),
    if_neg (hne '"' (by decide) (by decide)), if_pos hc]

theorem readValue_string :
    readValue (bound + 1) nesting ('"' :: rest) =
      orBreak .string (readString (bound + 1) [] rest) := by
  rfl

theorem readValue_array (h : nesting < maxNesting) :
    readValue (bound + 1) nesting ('[' :: rest) =
      match skipBlanks rest with
      | ']' :: rest => (.array [] none, some rest)
      | [] => (.array [] (some .eof), none)
      | rest => readItems bound (nesting + 1) [] rest := by
  have hopen : ¬('[' ≠ '[' ∧ '[' ≠ '\x7b' ∨ nesting ≥ maxNesting) := by
    simpa using h
  rw [readValue, skipBlanks_cons (by decide)]
  simp only [if_neg hopen]
  rfl

theorem readValue_object (h : nesting < maxNesting) :
    readValue (bound + 1) nesting ('\x7b' :: rest) =
      match skipBlanks rest with
      | '\x7d' :: rest => (.object [] none, some rest)
      | rest => readMembers bound (nesting + 1) [] rest := by
  have hopen : ¬('\x7b' ≠ '[' ∧ '\x7b' ≠ '\x7b' ∨ nesting ≥ maxNesting) := by
    simpa using h
  rw [readValue, skipBlanks_cons (by decide)]
  simp only [if_neg hopen]
  rfl

theorem readValue_too_deep {c : Char} (hc : c = '[' ∨ c = '\x7b') (h : maxNesting ≤ nesting) :
    readValue (bound + 1) nesting (c :: rest) = (.broken .malformed, none) := by
  obtain rfl | rfl := hc
  · rw [readValue, skipBlanks_cons (by decide)]
    simp [h]
  · rw [readValue, skipBlanks_cons (by decide)]
    simp [h]

/-- How the items of a list go on behind one of them. -/
def moreItems (bound nesting : ℕ) (done : List Json) (rest : Option (List Char)) :
    Json × Option (List Char) :=
  match rest.map skipBlanks with
  | none => (.array done.reverse none, none)
  | some (',' :: rest) =>
    match skipBlanks rest with
    | ']' :: _ => (.array (Json.broken .malformed :: done).reverse none, none)
    | rest => readItems bound nesting done rest
  | some (']' :: rest) => (.array done.reverse none, some rest)
  | some [] => (.array done.reverse (some .eof), none)
  | some _ => (.array done.reverse (some .malformed), none)

/-- How the members of an object go on behind one of them. -/
def moreMembers (bound nesting : ℕ) (done : List (String × Json)) (rest : Option (List Char)) :
    Json × Option (List Char) :=
  match rest.map skipBlanks with
  | none => (.object done.reverse none, none)
  | some (',' :: rest) => readMembers bound nesting done rest
  | some ('\x7d' :: rest) => (.object done.reverse none, some rest)
  | some [] => (.object done.reverse (some .eof), none)
  | some _ => (.object done.reverse (some .malformed), none)

theorem readItems_eq (done : List Json) {v : Json} {behind : Option (List Char)}
    (h : readValue bound nesting text = (v, behind)) :
    readItems (bound + 1) nesting done text = moreItems bound nesting (v :: done) behind := by
  rw [readItems, h]
  rfl

theorem readMembers_eq (done : List (String × Json)) {key : String} {v : Json}
    {afterQuote afterKey afterColon : List Char} {behind : Option (List Char)}
    (hquote : skipBlanks text = '"' :: afterQuote)
    (hkey : readString (bound + 1) [] afterQuote = .ok (key, afterKey))
    (hcolon : skipBlanks afterKey = ':' :: afterColon)
    (h : readValue bound nesting afterColon = (v, behind)) :
    readMembers (bound + 1) nesting done text =
      moreMembers bound nesting ((key, v) :: done) behind := by
  rw [readMembers, hquote]
  simp only [hkey, hcolon, h]
  rfl

theorem moreItems_bracket (done : List Json) {tail : List Char}
    (h : skipBlanks tail = ']' :: rest) :
    moreItems bound nesting done (some tail) = (.array done.reverse none, some rest) := by
  simp only [moreItems, Option.map_some, h]

theorem moreItems_comma (done : List Json) {tail : List Char} {c : Char} {more : List Char}
    (h : skipBlanks tail = ',' :: rest) (hrest : skipBlanks rest = c :: more) (hc : c ≠ ']') :
    moreItems bound nesting done (some tail) = readItems bound nesting done rest := by
  simp only [moreItems, Option.map_some, h]
  split
  · rename_i heq
    rw [hrest] at heq
    exact absurd (List.cons.inj heq).1 hc
  · exact readItems_skipBlanks bound nesting done rest

theorem moreMembers_bracket (done : List (String × Json)) {tail : List Char}
    (h : skipBlanks tail = '\x7d' :: rest) :
    moreMembers bound nesting done (some tail) = (.object done.reverse none, some rest) := by
  simp only [moreMembers, Option.map_some, h]

theorem moreMembers_comma (done : List (String × Json)) {tail : List Char}
    (h : skipBlanks tail = ',' :: rest) :
    moreMembers bound nesting done (some tail) = readMembers bound nesting done rest := by
  simp only [moreMembers, Option.map_some, h]

/-! ### A whole text -/

/-- What the reader makes of a part with something behind it, if the bound exceeds its text. Items
and members stand behind those that are read already. -/
def Reads : Part → List Char → Prop
  | .value v, text => ∀ ⦃bound nesting : ℕ⦄ ⦃rest : List Char⦄, Ends rest →
      2 * text.length ≤ bound →
        Answers nesting v rest (readValue (bound + 1) nesting (text ++ rest))
  | .member key v, text => ∀ ⦃bound nesting : ℕ⦄ ⦃rest : List Char⦄, Ends rest →
      2 * text.length ≤ bound → ∃ v' behind, Answers nesting v rest (v', behind) ∧
        ∀ done blanks, AllBlank blanks →
          readMembers (bound + 2) nesting done (blanks ++ (text ++ rest)) =
            moreMembers (bound + 1) nesting ((key, v') :: done) behind
  | .items vs, text => ∀ ⦃bound nesting : ℕ⦄ (done : List Json) (rest : List Char),
      2 * text.length ≤ bound → Answers nesting (.array (done.reverse ++ vs) none) rest
        (readItems (bound + 1) (nesting + 1) done (text ++ rest))
  | .members ms, text => ∀ ⦃bound nesting : ℕ⦄ (done : List (String × Json)) (rest : List Char),
      2 * text.length ≤ bound → Answers nesting (.object (done.reverse ++ ms) none) rest
        (readMembers (bound + 1) (nesting + 1) done (text ++ rest))

theorem reads_number {n : JsonNumber} (h : NumberText n text) :
    Reads (.value (.number n)) text := by
  intro bound nesting rest hrest hbound
  obtain ⟨c, more, rfl, hc⟩ := h.exists_cons
  rw [List.cons_append, readValue_number hc, ← List.cons_append, readNumber_append h hrest]
  split
  · rename_i hlarge
    rw [Bool.and_eq_true, Option.isNone_iff_eq_none] at hlarge
    exact .cut (.tooLarge hlarge.1 hlarge.2)
  · exact .whole

theorem reads_string {chars : List Char} (h : StringText chars text) :
    Reads (.value (.string (String.ofList chars))) ('"' :: (text ++ ['"'])) := by
  intro bound nesting rest hrest hbound
  simp only [List.length_cons, List.length_append] at hbound
  have hread : readString (bound + 1) [] (text ++ '"' :: rest) = .ok (String.ofList chars, rest) :=
    readString_append h (by omega) [] rest
  rw [List.cons_append, List.append_assoc, readValue_string, List.singleton_append, hread]
  exact .whole

/-! #### Lists -/

theorem reads_noItems {blanks : List Char} (h : AllBlank blanks) :
    Reads (.value (.array [] none)) ('[' :: (blanks ++ [']'])) := by
  intro bound nesting rest hrest hbound
  rw [List.cons_append]
  obtain hnesting | hnesting := Nat.lt_or_ge nesting maxNesting
  · rw [readValue_array hnesting, List.append_assoc, skipBlanks_append h]
    exact .whole
  · rw [readValue_too_deep (.inl rfl) hnesting]
    exact .cut (.deepArray hnesting)

theorem reads_array {vs : List Json} (h : PartText (.items vs) text)
    (ih : Reads (.items vs) text) : Reads (.value (.array vs none)) ('[' :: text) := by
  intro bound nesting rest hrest hbound
  rw [List.cons_append]
  obtain hnesting | hnesting := Nat.lt_or_ge nesting maxNesting
  · rw [List.length_cons] at hbound
    obtain ⟨bound, rfl⟩ : ∃ b, bound = b + 1 := ⟨bound - 1, by omega⟩
    obtain ⟨c, more, hhead, hc⟩ := h.skipBlanks_items rest
    have hitems : readValue (bound + 2) nesting ('[' :: (text ++ rest)) =
        readItems (bound + 1) (nesting + 1) [] (text ++ rest) := by
      rw [readValue_array hnesting]
      split
      · rename_i heq
        rw [hhead] at heq
        exact absurd (List.cons.inj heq).1 hc
      · rename_i heq
        rw [hhead] at heq
        cases heq
      · exact readItems_skipBlanks _ _ _ _
    rw [hitems]
    exact ih [] rest (by omega)
  · rw [readValue_too_deep (.inl rfl) hnesting]
    exact .cut (.deepArray hnesting)

/-- An item with a comma or bracket behind it: either it is cut off, and so is the list, or the list
goes on behind it. -/
theorem readItems_append {v : Json} {before behind : List Char} {c : Char} (done vs : List Json)
    (hbefore : AllBlank before) (hbehind : AllBlank behind) (hc : c = ',' ∨ c = ']')
    (ih : Reads (.value v) text) (hbound : 2 * text.length ≤ bound) (rest rest' : List Char) :
    Answers nesting (.array (done.reverse ++ v :: vs) none) rest'
        (readItems (bound + 2) (nesting + 1) done (before ++ (text ++ (behind ++ c :: rest)))) ∨
      readItems (bound + 2) (nesting + 1) done (before ++ (text ++ (behind ++ c :: rest))) =
        moreItems (bound + 1) (nesting + 1) (v :: done) (some (behind ++ c :: rest)) := by
  have hends : Ends (behind ++ c :: rest) := ends_append hbehind (hc.imp_right .inl)
  have hanswer : Answers (nesting + 1) v (behind ++ c :: rest)
      (readValue (bound + 1) (nesting + 1) (text ++ (behind ++ c :: rest))) := ih hends hbound
  generalize hread : readValue (bound + 1) (nesting + 1) (text ++ (behind ++ c :: rest)) = answer
    at hanswer
  rw [← readValue_append hbefore] at hread
  rw [readItems_eq done hread]
  cases hanswer with
  | whole => exact .inr rfl
  | cut hcut =>
    refine .inl (.cut ?_)
    rw [List.reverse_cons]
    exact .item hcut

theorem reads_lastItem {v : Json} {before behind : List Char} (hbefore : AllBlank before)
    (hbehind : AllBlank behind) (ih : Reads (.value v) text) :
    Reads (.items [v]) (before ++ (text ++ (behind ++ [']']))) := by
  intro bound nesting done rest hbound
  simp only [List.length_append, List.length_cons] at hbound
  obtain ⟨bound, rfl⟩ : ∃ b, bound = b + 1 := ⟨bound - 1, by omega⟩
  have hclose : skipBlanks (behind ++ ']' :: rest) = ']' :: rest := skipBlanks_append hbehind _
  have hfit : 2 * text.length ≤ bound := by omega
  simp only [List.append_assoc, List.singleton_append]
  obtain h | h := readItems_append done [] hbefore hbehind (.inr rfl) ih hfit rest rest
  · exact h
  · rw [h, moreItems_bracket _ hclose, List.reverse_cons]
    exact .whole

theorem reads_nextItem {v : Json} {vs : List Json} {before behind more : List Char}
    (hbefore : AllBlank before) (hbehind : AllBlank behind) (hmore : PartText (.items vs) more)
    (ih : Reads (.value v) text) (ihmore : Reads (.items vs) more) :
    Reads (.items (v :: vs)) (before ++ (text ++ (behind ++ ',' :: more))) := by
  intro bound nesting done rest hbound
  simp only [List.length_append, List.length_cons] at hbound
  obtain ⟨bound, rfl⟩ : ∃ b, bound = b + 1 := ⟨bound - 1, by omega⟩
  have hcomma : skipBlanks (behind ++ ',' :: (more ++ rest)) = ',' :: (more ++ rest) :=
    skipBlanks_append hbehind _
  obtain ⟨c, tail, hhead, hc⟩ := hmore.skipBlanks_items rest
  have hfit : 2 * text.length ≤ bound := by omega
  simp only [List.append_assoc, List.cons_append]
  obtain h | h := readItems_append done vs hbefore hbehind (.inl rfl) ih hfit (more ++ rest) rest
  · exact h
  · rw [h, moreItems_comma _ hcomma hhead hc, List.append_cons, ← List.reverse_cons]
    exact ihmore (v :: done) rest (by omega)

/-! #### Objects -/

theorem reads_noMembers {blanks : List Char} (h : AllBlank blanks) :
    Reads (.value (.object [] none)) ('\x7b' :: (blanks ++ ['\x7d'])) := by
  intro bound nesting rest hrest hbound
  rw [List.cons_append]
  obtain hnesting | hnesting := Nat.lt_or_ge nesting maxNesting
  · rw [readValue_object hnesting, List.append_assoc, skipBlanks_append h]
    exact .whole
  · rw [readValue_too_deep (.inr rfl) hnesting]
    exact .cut (.deepObject hnesting)

theorem reads_object {ms : List (String × Json)} (h : PartText (.members ms) text)
    (ih : Reads (.members ms) text) : Reads (.value (.object ms none)) ('\x7b' :: text) := by
  intro bound nesting rest hrest hbound
  rw [List.cons_append]
  obtain hnesting | hnesting := Nat.lt_or_ge nesting maxNesting
  · rw [List.length_cons] at hbound
    obtain ⟨bound, rfl⟩ : ∃ b, bound = b + 1 := ⟨bound - 1, by omega⟩
    obtain ⟨more, hhead⟩ := h.skipBlanks_members rest
    have hmembers : readValue (bound + 2) nesting ('\x7b' :: (text ++ rest)) =
        readMembers (bound + 1) (nesting + 1) [] (text ++ rest) := by
      rw [readValue_object hnesting, ← readMembers_skipBlanks, hhead]
      rfl
    rw [hmembers]
    exact ih [] rest (by omega)
  · rw [readValue_too_deep (.inr rfl) hnesting]
    exact .cut (.deepObject hnesting)

theorem reads_member {v : Json} {chars key before behind : List Char} (hkey : StringText chars key)
    (hbefore : AllBlank before) (hbehind : AllBlank behind) (ih : Reads (.value v) text) :
    Reads (.member (String.ofList chars) v)
      ('"' :: (key ++ '"' :: (before ++ ':' :: (behind ++ text)))) := by
  intro bound nesting rest hrest hbound
  simp only [List.length_append, List.length_cons] at hbound
  have hfit : 2 * text.length ≤ bound := by omega
  have hanswer : Answers nesting v rest (readValue (bound + 1) nesting (text ++ rest)) :=
    ih hrest hfit
  rw [← readValue_append hbehind] at hanswer
  refine ⟨_, _, hanswer, fun done blanks hblanks => ?_⟩
  have hquote : skipBlanks (blanks ++
      ('"' :: (key ++ '"' :: (before ++ ':' :: (behind ++ text))) ++ rest)) =
      '"' :: (key ++ '"' :: (before ++ ':' :: (behind ++ (text ++ rest)))) := by
    rw [skipBlanks_append hblanks]
    simp [skipBlanks_cons (show isBlank '"' = false from rfl)]
  exact readMembers_eq done hquote (readString_append hkey (by omega) [] _)
    (skipBlanks_append hbefore _) rfl

/-- A member with a comma or bracket behind it: either it is cut off, and so is the object, or the
object goes on behind it. -/
theorem readMembers_append {key : String} {v : Json} {before behind : List Char} {c : Char}
    (done ms : List (String × Json)) (hbefore : AllBlank before) (hbehind : AllBlank behind)
    (hc : c = ',' ∨ c = '\x7d') (ih : Reads (.member key v) text)
    (hbound : 2 * text.length ≤ bound) (rest rest' : List Char) :
    Answers nesting (.object (done.reverse ++ (key, v) :: ms) none) rest'
        (readMembers (bound + 2) (nesting + 1) done (before ++ (text ++ (behind ++ c :: rest)))) ∨
      readMembers (bound + 2) (nesting + 1) done (before ++ (text ++ (behind ++ c :: rest))) =
        moreMembers (bound + 1) (nesting + 1) ((key, v) :: done) (some (behind ++ c :: rest)) := by
  have hends : Ends (behind ++ c :: rest) := ends_append hbehind (hc.imp_right .inr)
  obtain ⟨v', tail, hanswer, hread⟩ := ih hends hbound
  rw [hread done before hbefore]
  cases hanswer with
  | whole => exact .inr rfl
  | cut hcut =>
    refine .inl (.cut ?_)
    rw [List.reverse_cons]
    exact .member hcut

theorem reads_lastMember {key : String} {v : Json} {before behind : List Char}
    (hbefore : AllBlank before) (hbehind : AllBlank behind) (ih : Reads (.member key v) text) :
    Reads (.members [(key, v)]) (before ++ (text ++ (behind ++ ['\x7d']))) := by
  intro bound nesting done rest hbound
  simp only [List.length_append, List.length_cons] at hbound
  obtain ⟨bound, rfl⟩ : ∃ b, bound = b + 1 := ⟨bound - 1, by omega⟩
  have hclose : skipBlanks (behind ++ '\x7d' :: rest) = '\x7d' :: rest :=
    skipBlanks_append hbehind _
  have hfit : 2 * text.length ≤ bound := by omega
  simp only [List.append_assoc, List.singleton_append]
  obtain h | h := readMembers_append done [] hbefore hbehind (.inr rfl) ih hfit rest rest
  · exact h
  · rw [h, moreMembers_bracket _ hclose, List.reverse_cons]
    exact .whole

theorem reads_nextMember {key : String} {v : Json} {ms : List (String × Json)}
    {before behind more : List Char} (hbefore : AllBlank before) (hbehind : AllBlank behind)
    (ih : Reads (.member key v) text) (ihmore : Reads (.members ms) more) :
    Reads (.members ((key, v) :: ms)) (before ++ (text ++ (behind ++ ',' :: more))) := by
  intro bound nesting done rest hbound
  simp only [List.length_append, List.length_cons] at hbound
  obtain ⟨bound, rfl⟩ : ∃ b, bound = b + 1 := ⟨bound - 1, by omega⟩
  have hcomma : skipBlanks (behind ++ ',' :: (more ++ rest)) = ',' :: (more ++ rest) :=
    skipBlanks_append hbehind _
  have hfit : 2 * text.length ≤ bound := by omega
  simp only [List.append_assoc, List.cons_append]
  obtain h | h := readMembers_append done ms hbefore hbehind (.inl rfl) ih hfit (more ++ rest) rest
  · exact h
  · rw [h, moreMembers_comma _ hcomma, List.append_cons, ← List.reverse_cons]
    exact ihmore ((key, v) :: done) rest (by omega)

/-- **Every part is read**, by induction on its text. -/
theorem reads_of_partText {part : Part} (h : PartText part text) : Reads part text := by
  induction h with
  | null | true | false => exact fun _ _ _ _ _ => .whole
  | number h => exact reads_number h
  | string h => exact reads_string h
  | noItems hblanks => exact reads_noItems hblanks
  | array h ih => exact reads_array h ih
  | noMembers hblanks => exact reads_noMembers hblanks
  | object h ih => exact reads_object h ih
  | member hkey hbefore hbehind _ ih => exact reads_member hkey hbefore hbehind ih
  | lastItem hbefore hbehind _ ih => exact reads_lastItem hbefore hbehind ih
  | nextItem hbefore hbehind _ hmore ih ihmore =>
    exact reads_nextItem hbefore hbehind hmore ih ihmore
  | lastMember hbefore hbehind _ ih => exact reads_lastMember hbefore hbehind ih
  | nextMember hbefore hbehind _ _ ih ihmore => exact reads_nextMember hbefore hbehind ih ihmore

/-- **A text of a value is read** as this value, or as what is cut off of it. -/
theorem read_of_isText {v : Json} {text : String} (h : IsText v text) :
    read text = (v, none) ∨ ∃ v', Cut 0 v v' ∧ read text = (v', none) := by
  obtain ⟨before, inner, behind, hbefore, hinner, hbehind, htext⟩ := h
  have hfit : 2 * inner.length ≤ 2 * text.length := by
    rw [← String.length_toList, htext]
    simp only [List.length_append]
    omega
  have hanswer : Answers 0 v behind (readValue (2 * text.length + 1) 0 (inner ++ behind)) :=
    reads_of_partText hinner hbehind.ends hfit
  rw [← readValue_append hbefore, ← htext] at hanswer
  have hend : skipBlanks behind = [] := List.dropWhile_eq_nil_iff.mpr hbehind
  generalize hread : readValue (2 * text.length + 1) 0 text.toList = answer at hanswer
  cases hanswer with
  | whole =>
    left
    simp [read, hread, hend]
  | @cut v' hcut =>
    refine .inr ⟨v', hcut, ?_⟩
    simp [read, hread]

/-- **The reader takes the grammar**: a value within the limits is read from each of its texts. -/
theorem read_of_readable {v : Json} {text : String} (h : IsText v text) (hv : Readable 0 v) :
    read text = (v, none) := by
  obtain hread | ⟨v', hcut, -⟩ := read_of_isText h
  · exact hread
  · exact absurd hv hcut.not_readable

/-- An object is read member by member, up to a member that is not flat. -/
theorem read_of_isText_object {ms : List (String × Json)} {text : String}
    (h : IsText (.object ms none) text) :
    read text = (.object ms none, none) ∨
      ∃ before key v v' behind, ms = before ++ (key, v) :: behind ∧ ¬Flat v ∧ ¬Flat v' ∧
        read text = (.object (before ++ [(key, v')]) none, none) := by
  obtain hread | ⟨v', hcut, hread⟩ := read_of_isText h
  · exact .inl hread
  · right
    cases hcut with
    | deepObject h => exact absurd h (by decide)
    | @member _ before behind key v v' hcut =>
      refine ⟨before, key, v, v', behind, rfl, fun hflat => ?_, hcut.not_flat, hread⟩
      exact hcut.not_readable (hflat.readable (by decide))

end SiteSnapshot.Json
