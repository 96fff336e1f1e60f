import SiteSnapshot.Json.Basic

/-!
# Writing JSON

Reports are written with one member or item on a line and two blanks for each level. An
empty list or object stands on one line. Strings escape the quote, the backslash and the
control characters, and nothing else.
-/

namespace SiteSnapshot.Json

/-- A hexadecimal digit. -/
def hexDigit (n : Nat) : Char :=
  if n < 10 then Char.ofNat ('0'.toNat + n) else Char.ofNat ('a'.toNat + n - 10)

/-- A character of a string. -/
def escape (c : Char) : List Char :=
  if c = '"' then ['\\', '"']
  else if c = '\\' then ['\\', '\\']
  else if c = '\x08' then ['\\', 'b']
  else if c = '\x0c' then ['\\', 'f']
  else if c = '\n' then ['\\', 'n']
  else if c = '\r' then ['\\', 'r']
  else if c = '\t' then ['\\', 't']
  else if c.toNat < 0x20 then
    ['\\', 'u', '0', '0', hexDigit (c.toNat / 16), hexDigit (c.toNat % 16)]
  else [c]

/-- A string between quotes. -/
def quote (s : String) : String :=
  "\"" ++ String.ofList (s.toList.flatMap escape) ++ "\""

/-- A number as it is written. -/
def numberText (n : JsonNumber) : String :=
  (if n.negative then "-" else "") ++ String.ofList n.whole ++
    n.fraction.elim "" (fun f => "." ++ String.ofList f) ++
    n.exponent.elim "" fun (negative, e) => (if negative then "e-" else "e") ++ String.ofList e

/-- The line end and the blanks before an item at some level. -/
def lineAt (level : Nat) : String :=
  "\n" ++ String.ofList (List.replicate (2 * level) ' ')

/-- Items at some level, between two brackets. -/
def block (level : Nat) (first last : String) (items : List String) : String :=
  if items.isEmpty then first ++ last
  else first ++ lineAt (level + 1) ++ (("," ++ lineAt (level + 1)).intercalate items) ++
    lineAt level ++ last

mutual

/-- A value at some level. A break writes nothing. -/
def writeAt (level : Nat) : Json → String
  | .null => "null"
  | .bool b => if b then "true" else "false"
  | .number n => numberText n
  | .string s => quote s
  | .array items _ => block level "[" "]" (writeItems (level + 1) items)
  | .object members _ => block level "\x7b" "\x7d" (writeMembers (level + 1) members)
  | .broken _ => ""

/-- The items of a list. -/
def writeItems (level : Nat) : List Json → List String
  | [] => []
  | item :: rest => writeAt level item :: writeItems level rest

/-- The members of an object. -/
def writeMembers (level : Nat) : List (String × Json) → List String
  | [] => []
  | (key, value) :: rest =>
    (quote key ++ ": " ++ writeAt level value) :: writeMembers level rest

end

/-- A value as text. -/
def write (value : Json) : String :=
  writeAt 0 value

end SiteSnapshot.Json
