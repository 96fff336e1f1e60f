/-!
# Digits

Numbers in text, in any base up to sixteen. Letters count from ten on, in either case.
-/

namespace SiteSnapshot.Digit

/-- The value of a digit in a base. -/
def value? (base : Nat) (c : Char) : Option Nat :=
  let v :=
    if c.isDigit then c.toNat - '0'.toNat
    else if 'a' ≤ c ∧ c ≤ 'f' then c.toNat - 'a'.toNat + 10
    else if 'A' ≤ c ∧ c ≤ 'F' then c.toNat - 'A'.toNat + 10
    else base
  if v < base then some v else none

/-- The number that a list of digits stands for, none if one is no digit of the base. -/
def number? (base : Nat) (digits : List Char) : Option Nat :=
  digits.foldlM (fun n c => (value? base c).map (n * base + ·)) 0

end SiteSnapshot.Digit
