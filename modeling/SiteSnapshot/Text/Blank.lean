/-!
# Blanks

The characters with the Unicode property `White_Space`, and texts without them at either
end.
-/

namespace SiteSnapshot

/-- True for a white space character. -/
def isBlank (c : Char) : Bool :=
  let n := c.toNat
  (0x09 ≤ n && n ≤ 0x0D) || n == 0x20 || n == 0x85 || n == 0xA0 || n == 0x1680 ||
    (0x2000 ≤ n && n ≤ 0x200A) || n == 0x2028 || n == 0x2029 || n == 0x202F || n == 0x205F ||
    n == 0x3000

/-- A list without the elements at both ends that have a property. -/
def trimBoth {α : Type} (p : α → Bool) (l : List α) : List α :=
  ((l.dropWhile p).reverse.dropWhile p).reverse

/-- A text without blanks at its ends. -/
def trimBlanks (text : List Char) : List Char :=
  trimBoth isBlank text

/-- A text without slashes at its ends. -/
def trimSlashes (text : String) : String :=
  String.ofList (trimBoth (· == '/') text.toList)

end SiteSnapshot
