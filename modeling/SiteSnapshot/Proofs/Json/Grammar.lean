import Mathlib.Data.List.TakeWhile
import SiteSnapshot.Json.Read

/-!
# The grammar of JSON

Which texts a JSON value has, said without reading one: blanks between any two parts, characters
of a string as they are or escaped, and the members of an object in their order, repeated keys
included (`PartText`, `IsText`). A number is kept as it is written, so its text is that of its parts
(`NumberText`).

The reader takes all these texts, up to two limits (`Readable`): lists and objects are nested at
most `maxNesting` deep, and a number is not too large for a floating point number.
-/

namespace SiteSnapshot.Json

/-! ### Parts of a text -/

/-- A text of blanks. -/
def AllBlank (text : List Char) : Prop :=
  ∀ c ∈ text, isBlank c = true

/-- The texts of a string between its quotes. A character stands for itself or is escaped, and one
beyond the first 2^16 may be written as a pair of surrogates. -/
inductive StringText : List Char → List Char → Prop
  | nil : StringText [] []
  | plain {c : Char} {chars text : List Char} (hquote : c ≠ '"') (hescape : c ≠ '\\')
      (hcontrol : 0x20 ≤ c.toNat) (h : StringText chars text) : StringText (c :: chars) (c :: text)
  | escaped {e c : Char} {chars text : List Char} (he : escaped? e = some c)
      (h : StringText chars text) : StringText (c :: chars) ('\\' :: e :: text)
  | unicode {n : ℕ} {digits chars text : List Char} (hlen : digits.length = 4)
      (hn : Digit.number? 16 digits = some n) (hplain : n < 0xD800 ∨ 0xDFFF < n)
      (h : StringText chars text) :
      StringText (Char.ofNat n :: chars) ('\\' :: 'u' :: (digits ++ text))
  | surrogates {n m : ℕ} {high low chars text : List Char} (hhigh : high.length = 4)
      (hlow : low.length = 4) (hn : Digit.number? 16 high = some n)
      (hm : Digit.number? 16 low = some m) (hn' : 0xD800 ≤ n ∧ n ≤ 0xDBFF)
      (hm' : 0xDC00 ≤ m ∧ m ≤ 0xDFFF) (h : StringText chars text) :
      StringText (Char.ofNat (0x10000 + (n - 0xD800) * 0x400 + (m - 0xDC00)) :: chars)
        ('\\' :: 'u' :: (high ++ '\\' :: 'u' :: (low ++ text)))

/-- Characters that need no escape stand for themselves. -/
theorem StringText.of_plain {chars : List Char}
    (h : ∀ c ∈ chars, c ≠ '"' ∧ c ≠ '\\' ∧ 0x20 ≤ c.toNat) : StringText chars chars := by
  induction chars with
  | nil => exact .nil
  | cons c chars ih =>
    obtain ⟨hquote, hescape, hcontrol⟩ := h c List.mem_cons_self
    exact .plain hquote hescape hcontrol (ih fun d hd => h d (List.mem_cons_of_mem c hd))

/-- A text of digits. -/
structure IsDigits (text : List Char) : Prop where
  ne_nil : text ≠ []
  isDigit : ∀ c ∈ text, c.isDigit = true

/-- The texts of a fraction. -/
inductive FractionText : Option (List Char) → List Char → Prop
  | none : FractionText none []
  | some {digits : List Char} (h : IsDigits digits) : FractionText (some digits) ('.' :: digits)

/-- The texts of an exponent. -/
inductive ExponentText : Option (Bool × List Char) → List Char → Prop
  | none : ExponentText none []
  | unsigned {e : Char} {digits : List Char} (he : e = 'e' ∨ e = 'E') (h : IsDigits digits) :
      ExponentText (some (false, digits)) (e :: digits)
  | plus {e : Char} {digits : List Char} (he : e = 'e' ∨ e = 'E') (h : IsDigits digits) :
      ExponentText (some (false, digits)) (e :: '+' :: digits)
  | minus {e : Char} {digits : List Char} (he : e = 'e' ∨ e = 'E') (h : IsDigits digits) :
      ExponentText (some (true, digits)) (e :: '-' :: digits)

/-- The texts of a number. Its first digit is zero only if it is the only one before the
fraction. -/
inductive NumberText : JsonNumber → List Char → Prop
  | mk {negative : Bool} {whole fractionText exponentText : List Char}
      {fraction : Option (List Char)} {exponent : Option (Bool × List Char)}
      (hwhole : IsDigits whole) (hzero : whole.head? = some '0' → whole.length = 1)
      (hfraction : FractionText fraction fractionText)
      (hexponent : ExponentText exponent exponentText) :
      NumberText { negative, whole, fraction, exponent }
        ((if negative then ['-'] else []) ++ (whole ++ (fractionText ++ exponentText)))

/-! ### Values -/

/-- What a part of a text stands for: a value, one member of an object, or the items or members of
a list or an object that has any, with the bracket behind them. -/
inductive Part where
  | value (v : Json)
  | member (key : String) (v : Json)
  | items (vs : List Json)
  | members (ms : List (String × Json))

/-- The texts of a part. -/
inductive PartText : Part → List Char → Prop
  | null : PartText (.value .null) ['n', 'u', 'l', 'l']
  | true : PartText (.value (.bool true)) ['t', 'r', 'u', 'e']
  | false : PartText (.value (.bool false)) ['f', 'a', 'l', 's', 'e']
  | number {n : JsonNumber} {text : List Char} (h : NumberText n text) :
      PartText (.value (.number n)) text
  | string {chars text : List Char} (h : StringText chars text) :
      PartText (.value (.string (String.ofList chars))) ('"' :: (text ++ ['"']))
  | noItems {blanks : List Char} (hblanks : AllBlank blanks) :
      PartText (.value (.array [] none)) ('[' :: (blanks ++ [']']))
  | array {vs : List Json} {text : List Char} (h : PartText (.items vs) text) :
      PartText (.value (.array vs none)) ('[' :: text)
  | noMembers {blanks : List Char} (hblanks : AllBlank blanks) :
      PartText (.value (.object [] none)) ('\x7b' :: (blanks ++ ['\x7d']))
  | object {ms : List (String × Json)} {text : List Char} (h : PartText (.members ms) text) :
      PartText (.value (.object ms none)) ('\x7b' :: text)
  | member {v : Json} {chars key before behind text : List Char} (hkey : StringText chars key)
      (hbefore : AllBlank before) (hbehind : AllBlank behind) (h : PartText (.value v) text) :
      PartText (.member (String.ofList chars) v)
        ('"' :: (key ++ '"' :: (before ++ ':' :: (behind ++ text))))
  | lastItem {v : Json} {before behind text : List Char} (hbefore : AllBlank before)
      (hbehind : AllBlank behind) (h : PartText (.value v) text) :
      PartText (.items [v]) (before ++ (text ++ (behind ++ [']'])))
  | nextItem {v : Json} {vs : List Json} {before behind text more : List Char}
      (hbefore : AllBlank before) (hbehind : AllBlank behind) (h : PartText (.value v) text)
      (hmore : PartText (.items vs) more) :
      PartText (.items (v :: vs)) (before ++ (text ++ (behind ++ ',' :: more)))
  | lastMember {key : String} {v : Json} {before behind text : List Char}
      (hbefore : AllBlank before) (hbehind : AllBlank behind) (h : PartText (.member key v) text) :
      PartText (.members [(key, v)]) (before ++ (text ++ (behind ++ ['\x7d'])))
  | nextMember {key : String} {v : Json} {ms : List (String × Json)}
      {before behind text more : List Char} (hbefore : AllBlank before) (hbehind : AllBlank behind)
      (h : PartText (.member key v) text) (hmore : PartText (.members ms) more) :
      PartText (.members ((key, v) :: ms)) (before ++ (text ++ (behind ++ ',' :: more)))

/-- A text of a value, with blanks around it. -/
def IsText (v : Json) (text : String) : Prop :=
  ∃ before inner behind, AllBlank before ∧ PartText (.value v) inner ∧ AllBlank behind ∧
    text.toList = before ++ (inner ++ behind)

/-! ### Limits -/

/-- The values that are read inside so many lists and objects. -/
inductive Readable : ℕ → Json → Prop
  | null {nesting : ℕ} : Readable nesting .null
  | bool {nesting : ℕ} (b : Bool) : Readable nesting (.bool b)
  | string {nesting : ℕ} (s : String) : Readable nesting (.string s)
  | number {nesting : ℕ} {n : JsonNumber} (h : n.natural? ≠ none ∨ n.isTooLarge = Bool.false) :
      Readable nesting (.number n)
  | array {nesting : ℕ} {vs : List Json} (hnesting : nesting < maxNesting)
      (h : ∀ v ∈ vs, Readable (nesting + 1) v) : Readable nesting (.array vs none)
  | object {nesting : ℕ} {ms : List (String × Json)} (hnesting : nesting < maxNesting)
      (h : ∀ m ∈ ms, Readable (nesting + 1) m.2) : Readable nesting (.object ms none)

/-- The values in which nothing is nested but strings in a list. -/
inductive Flat : Json → Prop
  | null : Flat .null
  | string (s : String) : Flat (.string s)
  | natural {n : JsonNumber} (h : n.natural? ≠ none) : Flat (.number n)
  | strings (ss : List String) : Flat (.array (ss.map .string) none)

/-- A flat value is within the limits, unless it is itself nested too deep. -/
theorem Flat.readable {nesting : ℕ} {v : Json} (h : Flat v) (hnesting : nesting < maxNesting) :
    Readable nesting v := by
  cases h with
  | null => exact .null
  | string s => exact .string s
  | natural h => exact .number (Or.inl h)
  | strings ss =>
    refine .array hnesting fun v hv => ?_
    obtain ⟨s, -, rfl⟩ := List.mem_map.mp hv
    exact .string s

/-- A flat list has flat items. -/
theorem Flat.of_mem {items : List Json} {ending : Option JsonProblem} {v : Json}
    (h : Flat (.array items ending)) (hv : v ∈ items) : Flat v := by
  cases h with
  | strings ss =>
    obtain ⟨s, -, rfl⟩ := List.mem_map.mp hv
    exact .string s

end SiteSnapshot.Json
