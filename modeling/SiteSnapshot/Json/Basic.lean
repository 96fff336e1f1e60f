/-!
# JSON values

A configuration is refused for the first problem met from left to right, and what is no
problem for one reader is one for another. A `Json` therefore records how far its text goes:
where the text stops being JSON there is a **break**, either in the place of a value or as
the **ending** of a list or an object that is never closed. Whoever takes the value apart
from left to right meets a value of the wrong shape or the break, whichever comes first.
-/

namespace SiteSnapshot

/-- What is wrong with a JSON text: it ends too early, it is not JSON, or the value has the
wrong shape. -/
inductive JsonProblem where
  | eof
  | malformed
  | data
deriving DecidableEq, Repr, Inhabited

/-- The wording of a problem. -/
def JsonProblem.message : JsonProblem → String
  | .eof => "json eof"
  | .malformed => "json syntax"
  | .data => "json data"

/-- A number as it is written: a sign, digits, and possibly a fraction and an exponent. -/
structure JsonNumber where
  negative : Bool := false
  whole : List Char
  fraction : Option (List Char) := none
  exponent : Option (Bool × List Char) := none
deriving DecidableEq, Repr, Inhabited

/-- A JSON value. Members are kept in order, repeated keys too. The ending of a list or an
object says what is wrong behind the last item, if it is not closed. -/
inductive Json where
  | null
  | bool (b : Bool)
  | number (n : JsonNumber)
  | string (s : String)
  | array (items : List Json) (ending : Option JsonProblem)
  | object (members : List (String × Json)) (ending : Option JsonProblem)
  | broken (p : JsonProblem)
deriving Repr, Inhabited

namespace JsonNumber

/-- The number that digits denote. -/
def decimal (digits : List Char) : Nat :=
  digits.foldl (fun n c => n * 10 + (c.toNat - '0'.toNat)) 0

/-- Natural numbers are read below 2^64. -/
def limit : Nat := 0x10000000000000000

/-- The natural number below the limit that is written without sign, fraction and exponent. -/
def natural? (n : JsonNumber) : Option Nat :=
  if n.negative = false ∧ n.fraction = none ∧ n.exponent = none ∧ decimal n.whole < limit then
    some (decimal n.whole)
  else none

/-- A natural number as it is written. -/
def ofNat (n : Nat) : JsonNumber :=
  { whole := Nat.toDigits 10 n }

/-- Takes in digits as long as the number stays below the limit; the number and how many digits
that were. -/
def significand (n : Nat) (digits : List Char) : Nat × Nat :=
  go n 0 digits
where
  /-- Goes on after so many digits. -/
  go (n count : Nat) : List Char → Nat × Nat
    | [] => (n, count)
    | c :: rest =>
      let next := n * 10 + (c.toNat - '0'.toNat)
      if next < limit then go next (count + 1) rest else (n, count)

/-- The nearest number with at most 53 binary digits before its zeros, the even one of two:
what a floating point number keeps of a natural number. -/
def roundDouble (n : Nat) : Nat :=
  if n < 0x20000000000000 then n
  else
    let unit := Nat.pow 2 (n.log2 - 52)
    let down := n / unit
    let up := 2 * (n % unit) > unit ∨ (2 * (n % unit) = unit ∧ down % 2 = 1)
    (if up then down + 1 else down) * unit

/-- The least natural number that rounds to infinity. -/
def infinite : Nat := Nat.pow 2 1024 - Nat.pow 2 970

/-- True for a number too large for a floating point number: the product of its digits and
its power of ten, both rounded, is infinite. -/
def isTooLarge (n : JsonNumber) : Bool :=
  let (whole, wholeDigits) := significand 0 n.whole
  let (value, fractionDigits) := significand whole (n.fraction.getD [])
  let power : Int :=
    match n.exponent with
    | none => 0
    | some (true, digits) => -decimal digits
    | some (false, digits) => decimal digits
  let scale : Int := power + (n.whole.length - wholeDigits : Nat) - fractionDigits
  value != 0 && scale > 0 &&
    (scale > 308 || roundDouble value * roundDouble (Nat.pow 10 scale.toNat) ≥ infinite)

end JsonNumber

end SiteSnapshot
