import SiteSnapshot.Text.Digit
import SiteSnapshot.Text.Utf8

/-!
# Percent encoding

Parts of a URL are written in ASCII: every octet of a character outside ASCII, and every
ASCII character of a set that depends on the part, becomes a percent sign and two
hexadecimal digits. A percent sign itself is never encoded, so encoding twice changes
nothing.
-/

namespace SiteSnapshot.Percent

/-- True for the control characters of ASCII. -/
def isControl (c : Char) : Bool :=
  c.toNat < 0x20 || c.toNat = 0x7F

/-- The characters encoded in a fragment. -/
def inFragment (c : Char) : Bool :=
  isControl c || [' ', '"', '<', '>', '\x60'].contains c

/-- The characters encoded in a path. -/
def inPath (c : Char) : Bool :=
  inFragment c || ['#', '?', '\x7b', '\x7d'].contains c

/-- The characters encoded in a user name or password. -/
def inUserInfo (c : Char) : Bool :=
  inPath c || ['/', ':', ';', '=', '@', '[', '\\', ']', '^', '|'].contains c

/-- The characters encoded in a query. -/
def inQuery (c : Char) : Bool :=
  isControl c || [' ', '"', '#', '<', '>'].contains c

/-- The characters encoded in the query of a URL with a special scheme. -/
def inSpecialQuery (c : Char) : Bool :=
  inQuery c || c == '\''

/-- A hexadecimal digit. -/
def hexDigit (n : Nat) : Char :=
  if n < 10 then Char.ofNat ('0'.toNat + n) else Char.ofNat ('A'.toNat + n - 10)

/-- An octet as a percent sign and two digits. -/
def encodeOctet (b : UInt8) : List Char :=
  ['%', hexDigit (b.toNat / 16), hexDigit (b.toNat % 16)]

/-- A character as it is written in a part with this set. -/
def encodeChar (set : Char → Bool) (c : Char) : List Char :=
  if c.toNat < 0x80 ∧ set c = false then [c]
  else (String.utf8EncodeChar c).flatMap encodeOctet

/-- A text as it is written in a part with this set. -/
def encode (set : Char → Bool) (text : List Char) : List Char :=
  text.flatMap (encodeChar set)

/-- The value of an octet that is a hexadecimal digit. -/
def hexValue? (b : UInt8) : Option Nat :=
  Digit.value? 16 (Char.ofNat b.toNat)

/-- The octets that a text stands for: a percent sign with two digits is an octet, and
anything else is itself. -/
def decode : Bytes → Bytes
  | [] => []
  | [b] => [b]
  | [b, c] => [b, c]
  | b :: c :: d :: rest =>
    match hexValue? c, hexValue? d with
    | some h, some l =>
      if b = 0x25 then UInt8.ofNat (h * 16 + l) :: decode rest
      else b :: decode (c :: d :: rest)
    | _, _ => b :: decode (c :: d :: rest)

end SiteSnapshot.Percent
