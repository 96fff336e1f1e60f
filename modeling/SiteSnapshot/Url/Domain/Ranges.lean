import SiteSnapshot.Text.Digit

/-!
# Listings of characters

Properties of characters are listed as words: code points in hexadecimal, alone or as a
range of two, possibly behind the name of a class.
-/

namespace SiteSnapshot.Domain

/-- The words of a listing. -/
def words (listing : String) : List (List Char) :=
  (listing.toList.splitOnP fun c => c == ' ' || c == '\n').filter (!·.isEmpty)

/-- A number in hexadecimal. -/
def readHex (digits : List Char) : Nat :=
  (Digit.number? 16 digits).getD 0

/-- The first and the last code point of a range. -/
def readRange (word : List Char) : Nat × Nat :=
  let first := word.takeWhile (· != '-')
  match word.drop first.length with
  | [] => (readHex first, readHex first)
  | _ :: last => (readHex first, readHex last)

/-- The ranges of a listing. -/
def readRanges (listing : String) : List (Nat × Nat) :=
  (words listing).map readRange

/-- True for a character in one of the ranges. -/
def inRanges (ranges : List (Nat × Nat)) (c : Char) : Bool :=
  ranges.any fun r => r.1 ≤ c.toNat && c.toNat ≤ r.2

/-- The ranges of a listing with the names of their classes. -/
def readClasses (listing : String) : List (List Char × Nat × Nat) :=
  (words listing).map fun word =>
    let name := word.takeWhile (· != ':')
    (name, readRange (word.drop (name.length + 1)))

/-- The class of a character. -/
def classOf? (classes : List (List Char × Nat × Nat)) (c : Char) : Option (List Char) :=
  (classes.find? fun r => r.2.1 ≤ c.toNat && c.toNat ≤ r.2.2).map (·.1)

end SiteSnapshot.Domain
