/-!
# Labels in ASCII

A label with other characters is written in ASCII as its ASCII characters, a hyphen, and the
other characters as a sequence of numbers. Each number says how many places and code points
further the next character is inserted, and it is written with digits of base 36 whose
thresholds adapt to the numbers so far.

Labels that are too long are neither written (`encode?`) nor read (`decode?`), and all
numbers of a reading stay below `bound`.
-/

namespace SiteSnapshot.Domain.Punycode

/-- A digit as a character: letters, then decimal digits. -/
def digitChar (d : Nat) : Char :=
  if d < 26 then Char.ofNat ('a'.toNat + d) else Char.ofNat ('0'.toNat + d - 26)

/-- The value of a digit. -/
def digitValue? (c : Char) : Option Nat :=
  if 'a' ≤ c ∧ c ≤ 'z' then some (c.toNat - 'a'.toNat)
  else if c.isDigit then some (c.toNat - '0'.toNat + 26)
  else none

/-- The threshold of a digit: a smaller digit is the last one. -/
def threshold (k bias : Nat) : Nat :=
  if k ≤ bias then 1 else if k ≥ bias + 26 then 26 else k - bias

/-- No threshold is zero. -/
theorem threshold_pos (k bias : Nat) : 0 < threshold k bias := by
  unfold threshold
  grind

/-- No threshold is above 26. -/
theorem threshold_le (k bias : Nat) : threshold k bias ≤ 26 := by
  unfold threshold
  grind

/-- Divides by 35 until the number is at most 455, and counts the divisions in steps of
36. -/
def scale (delta k : Nat) : Nat × Nat :=
  if 455 < delta then scale (delta / 35) (k + 36) else (delta, k)
termination_by delta
decreasing_by exact Nat.div_lt_self (by omega) (by omega)

/-- The bias after a number, for so many characters. -/
def adapt (delta count : Nat) (first : Bool) : Nat :=
  let delta := if first then delta / 700 else delta / 2
  let (delta, k) := scale (delta + delta / count) 0
  k + 36 * delta / (delta + 38)

/-! ### Writing -/

/-- The digits of a number. -/
def writeNumber (bias k n : Nat) : List Char :=
  let t := threshold k bias
  if n < t then [digitChar n]
  else digitChar (t + (n - t) % (36 - t)) :: writeNumber bias (k + 36) ((n - t) / (36 - t))
termination_by n
decreasing_by
  have := threshold_pos k bias
  have := Nat.div_le_self (n - threshold k bias) (36 - threshold k bias)
  omega

/-- A label that is being written: the output, the number for the next character, the bias,
and how many characters are written. -/
structure Writing where
  output : List Char
  delta : Nat
  bias : Nat
  count : Nat

/-- Passes one character while those with a code point are written. -/
def Writing.pass (basic point : Nat) (w : Writing) (c : Char) : Writing :=
  if c.toNat < point then { w with delta := w.delta + 1 }
  else if c.toNat = point then
    { output := w.output ++ writeNumber w.bias 36 w.delta
      delta := 0
      bias := adapt w.delta (w.count + 1) (w.count == basic)
      count := w.count + 1 }
  else w

/-- Writes the characters with the given code points, from a code point on. -/
def writePoints (label : List Char) (basic : Nat) : List Nat → Nat → Writing → Writing
  | [], _, w => w
  | point :: rest, next, w =>
    let w := { w with delta := w.delta + (point - next) * (w.count + 1) }
    let w := label.foldl (Writing.pass basic point) w
    writePoints label basic rest (point + 1) { w with delta := w.delta + 1 }

/-- A label of any length in ASCII. -/
def encode (label : List Char) : List Char :=
  let basic := label.filter (·.toNat < 0x80)
  let points := (label.filter (·.toNat ≥ 0x80)).map (·.toNat)
  let sorted := (points.mergeSort (· ≤ ·)).eraseDups
  let w := writePoints label basic.length sorted 0x80 ⟨[], 0, 72, basic.length⟩
  basic ++ (if basic.isEmpty then [] else ['-']) ++ w.output

/-- The most characters of a label that is written in ASCII. -/
def longestLabel : Nat := 1000

/-- A label in ASCII, unless it is too long. -/
def encode? (label : List Char) : Option (List Char) :=
  if label.length > longestLabel then none else some (encode label)

/-! ### Reading -/

/-- The numbers of a reading have 32 bits. -/
def bound : Nat := 0x100000000

/-- Reads a number that is added to `n`, from a digit with the given weight on. The sum and
the weights stay below `bound`. -/
def readNumber? (bias : Nat) : List Char → Nat → Nat → Nat → Option (Nat × List Char)
  | [], _, _, _ => none
  | c :: rest, k, weight, n =>
    match digitValue? c with
    | none => none
    | some d =>
      let n := n + d * weight
      let t := threshold k bias
      if n ≥ bound then none
      else if d < t then some (n, rest)
      else if weight * (36 - t) ≥ bound then none
      else readNumber? bias rest (k + 36) (weight * (36 - t)) n

/-- Reads the numbers of a label and inserts their characters: the label so far, the last
code point and the place behind it, the bias, and whether no number was read yet. The bound
is the length of the text. -/
def readPoints? : Nat → List Char → List Char → Nat → Nat → Nat → Bool → Option (List Char)
  | _, [], label, _, _, _, _ => some label
  | 0, _, _, _, _, _, _ => none
  | fuel + 1, text, label, point, place, bias, first =>
    match readNumber? bias text 36 1 place with
    | none => none
    | some (sum, rest) =>
      let size := label.length + 1
      let bias := adapt (sum - place) size first
      let point := point + sum / size
      let place := sum % size
      if point > 0x10FFFF ∨ (0xD800 ≤ point ∧ point < 0xE000) then none
      else
        readPoints? fuel rest (label.take place ++ Char.ofNat point :: label.drop place) point
          (place + 1) bias false

/-- The most characters of a text that is read as a label. -/
def longestText : Nat := 2000

/-- The label that a text in ASCII stands for, unless the text is too long. A hyphen at the
very start separates nothing, and as it is no digit such a text is refused. -/
def decode? (text : List Char) : Option (List Char) :=
  let extended := (text.reverse.takeWhile (· != '-')).reverse
  let basic := text.take (text.length - extended.length - 1)
  if text.length > longestText ∨ !text.all (·.toNat < 0x80) then none
  else if basic.isEmpty then readPoints? text.length text [] 0x80 0 72 true
  else readPoints? extended.length extended basic 0x80 0 72 true

end SiteSnapshot.Domain.Punycode
