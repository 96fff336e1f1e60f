import SiteSnapshot.Json.Basic
import SiteSnapshot.Text.Digit

/-!
# Reading JSON

`Json.read` reads a text as far as it is JSON and leaves a break where it stops being that.
Every reader of a part answers with the value and the text behind it; behind a break there
is no text.
-/

namespace SiteSnapshot.Json

/-- The blanks between values. -/
def isBlank (c : Char) : Bool :=
  c == ' ' || c == '\n' || c == '\t' || c == '\r'

/-- A text without its leading blanks. -/
def skipBlanks (text : List Char) : List Char :=
  text.dropWhile isBlank

/-! ### Strings -/

/-- Reads four hexadecimal digits. The text ends too early if it has fewer than four
octets. -/
def readUnit (text : List Char) : Except JsonProblem (Nat × List Char) :=
  if (String.ofList (text.take 4)).utf8ByteSize < 4 then .error .eof
  else
    match Digit.number? 16 (text.take 4) with
    | some n => .ok (n, text.drop 4)
    | none => .error .malformed

/-- The character that a letter after a backslash stands for. -/
def escaped? : Char → Option Char
  | '"' => some '"'
  | '\\' => some '\\'
  | '/' => some '/'
  | 'b' => some '\x08'
  | 'f' => some '\x0c'
  | 'n' => some '\n'
  | 'r' => some '\r'
  | 't' => some '\t'
  | _ => none

/-- Reads the rest of an escape that starts with `u`: one unit, or a pair of surrogates. -/
def readUnicode (text : List Char) : Except JsonProblem (Char × List Char) := do
  let (n, rest) ← readUnit text
  if 0xDC00 ≤ n ∧ n ≤ 0xDFFF then throw .malformed
  else if 0xD800 ≤ n ∧ n ≤ 0xDBFF then
    match rest with
    | [] => throw .eof
    | '\\' :: [] => throw .eof
    | '\\' :: 'u' :: rest =>
      let (m, rest) ← readUnit rest
      if 0xDC00 ≤ m ∧ m ≤ 0xDFFF then
        return (Char.ofNat (0x10000 + (n - 0xD800) * 0x400 + (m - 0xDC00)), rest)
      else throw .malformed
    | _ => throw .malformed
  else return (Char.ofNat n, rest)

/-- Reads a string behind its opening quote and the given characters, latest first. The
bound exceeds the length of the text. -/
def readString : Nat → List Char → List Char → Except JsonProblem (String × List Char)
  | 0, _, _ => .error .eof
  | _ + 1, _, [] => .error .eof
  | bound + 1, done, c :: rest =>
    if c = '"' then .ok (String.ofList done.reverse, rest)
    else if c.toNat < 0x20 then .error .malformed
    else if c = '\\' then
      match rest with
      | [] => .error .eof
      | 'u' :: rest =>
        match readUnicode rest with
        | .ok (c, rest) => readString bound (c :: done) rest
        | .error p => .error p
      | e :: rest =>
        match escaped? e with
        | some c => readString bound (c :: done) rest
        | none => .error .malformed
    else readString bound (c :: done) rest

/-! ### Words and numbers -/

/-- Reads the given characters. -/
def readWord : List Char → List Char → Except JsonProblem (List Char)
  | [], text => .ok text
  | _ :: _, [] => .error .eof
  | w :: word, c :: text => if w = c then readWord word text else .error .malformed

/-- The digits at the start of a text, of which there is at least one, and the rest. -/
def readDigits (text : List Char) : Except JsonProblem (List Char × List Char) :=
  let digits := text.takeWhile Char.isDigit
  let rest := text.drop digits.length
  if digits.isEmpty then .error (if rest.isEmpty then .eof else .malformed) else .ok (digits, rest)

/-- Reads a fraction, if there is one. -/
def readFraction : List Char → Except JsonProblem (Option (List Char) × List Char)
  | '.' :: rest => (readDigits rest).map fun (digits, rest) => (some digits, rest)
  | rest => .ok (none, rest)

/-- Reads an exponent, if there is one: whether it is negative, and its digits. -/
def readExponent : List Char → Except JsonProblem (Option (Bool × List Char) × List Char)
  | [] => .ok (none, [])
  | e :: rest =>
    if e = 'e' ∨ e = 'E' then
      let (negative, rest) :=
        match rest with
        | '+' :: rest => (false, rest)
        | '-' :: rest => (true, rest)
        | rest => (false, rest)
      (readDigits rest).map fun (digits, rest) => (some (negative, digits), rest)
    else .ok (none, e :: rest)

/-- Reads a number. Its first digit is zero only if it is the only one before the
fraction. -/
def readNumber (text : List Char) : Except JsonProblem (JsonNumber × List Char) := do
  let negative := text.head? == some '-'
  let (whole, rest) ← readDigits (if negative then text.drop 1 else text)
  if whole.head? = some '0' ∧ whole.length > 1 then throw .malformed
  let (fraction, rest) ← readFraction rest
  let (exponent, rest) ← readExponent rest
  let n : JsonNumber := { negative, whole, fraction, exponent }
  if n.natural?.isNone && n.isTooLarge then throw .malformed
  return (n, rest)

/-! ### Values -/

/-- How many lists and objects may be nested. -/
def maxNesting : Nat := 127

/-- The value of a part and the text behind it, or a break. -/
def orBreak {α : Type} (value : α → Json) :
    Except JsonProblem (α × List Char) → Json × Option (List Char)
  | .ok (a, rest) => (value a, some rest)
  | .error p => (.broken p, none)

mutual

/-- Reads a value inside so many lists and objects. Every character may cost the bound two
steps, one for a list and one for its first item: the bound exceeds twice the length of the
text. -/
def readValue : Nat → Nat → List Char → Json × Option (List Char)
  | 0, _, _ => (.broken .eof, none)
  | bound + 1, nesting, text =>
    match skipBlanks text with
    | [] => (.broken .eof, none)
    | c :: rest =>
      if c = 'n' then orBreak (fun _ => .null) ((readWord ['u', 'l', 'l'] rest).map ((), ·))
      else if c = 't' then
        orBreak (fun _ => .bool true) ((readWord ['r', 'u', 'e'] rest).map ((), ·))
      else if c = 'f' then
        orBreak (fun _ => .bool false) ((readWord ['a', 'l', 's', 'e'] rest).map ((), ·))
      else if c = '"' then orBreak .string (readString (bound + 1) [] rest)
      else if c = '-' ∨ c.isDigit then orBreak .number (readNumber (c :: rest))
      else if c ≠ '[' ∧ c ≠ '\x7b' ∨ nesting ≥ maxNesting then (.broken .malformed, none)
      else if c = '[' then
        match skipBlanks rest with
        | ']' :: rest => (.array [] none, some rest)
        | [] => (.array [] (some .eof), none)
        | rest => readItems bound (nesting + 1) [] rest
      else
        match skipBlanks rest with
        | '\x7d' :: rest => (.object [] none, some rest)
        | rest => readMembers bound (nesting + 1) [] rest

/-- Reads the items of a list behind those given, latest first. -/
def readItems : Nat → Nat → List Json → List Char → Json × Option (List Char)
  | 0, _, done, _ => (.array done.reverse (some .eof), none)
  | bound + 1, nesting, done, text =>
    let (item, rest) := readValue bound nesting text
    let done := item :: done
    match rest.map skipBlanks with
    | none => (.array done.reverse none, none)
    | some (',' :: rest) =>
      match skipBlanks rest with
      | ']' :: _ => (.array (Json.broken .malformed :: done).reverse none, none)
      | rest => readItems bound nesting done rest
    | some (']' :: rest) => (.array done.reverse none, some rest)
    | some [] => (.array done.reverse (some .eof), none)
    | some _ => (.array done.reverse (some .malformed), none)

/-- Reads the members of an object behind those given, latest first. -/
def readMembers : Nat → Nat → List (String × Json) → List Char → Json × Option (List Char)
  | 0, _, done, _ => (.object done.reverse (some .eof), none)
  | bound + 1, nesting, done, text =>
    let stop (p : JsonProblem) : Json × Option (List Char) := (.object done.reverse (some p), none)
    match skipBlanks text with
    | [] => stop .eof
    | '"' :: rest =>
      match readString (bound + 1) [] rest with
      | .error p => stop p
      | .ok (key, rest) =>
        let (value, rest) :=
          match skipBlanks rest with
          | [] => (Json.broken .eof, none)
          | ':' :: rest => readValue bound nesting rest
          | _ => (Json.broken .malformed, none)
        let done := (key, value) :: done
        match rest.map skipBlanks with
        | none => (.object done.reverse none, none)
        | some (',' :: rest) => readMembers bound nesting done rest
        | some ('\x7d' :: rest) => (.object done.reverse none, some rest)
        | some [] => (.object done.reverse (some .eof), none)
        | some _ => (.object done.reverse (some .malformed), none)
    | _ => stop .malformed

end

/-- Reads a whole text: its value, and what is wrong with the text behind it. -/
def read (text : String) : Json × Option JsonProblem :=
  let (value, rest) := readValue (2 * text.length + 1) 0 text.toList
  (value, if (rest.map skipBlanks).getD [] = [] then none else some .malformed)

/-- Reads a text as a value of some type, for its first problem from left to right. -/
def readAs {α : Type} (text : String) (value? : Json → Except JsonProblem α) :
    Except JsonProblem α := do
  let (value, behind) := read text
  let a ← value? value
  match behind with
  | none => return a
  | some p => throw p

/-! ### Taking values apart -/

/-- A string. -/
def string? : Json → Except JsonProblem String
  | .string s => .ok s
  | .broken p => .error p
  | _ => .error .data

/-- A natural number below 2^64. -/
def natural? : Json → Except JsonProblem Nat
  | .number n =>
    match n.natural? with
    | some n => .ok n
    | none => .error .data
  | .broken p => .error p
  | _ => .error .data

/-- Null, or a value of some type. -/
def optional? {α : Type} (value? : Json → Except JsonProblem α) :
    Json → Except JsonProblem (Option α)
  | .null => .ok none
  | v => (value? v).map some

/-- What stands behind the last item of a list or object. -/
def closed? : Option JsonProblem → Except JsonProblem Unit
  | none => .ok ()
  | some p => .error p

/-- A list of values of one type. -/
def list? {α : Type} (value? : Json → Except JsonProblem α) : Json → Except JsonProblem (List α)
  | .array items ending => do
    let values ← items.mapM value?
    closed? ending
    return values
  | .broken p => .error p
  | _ => .error .data

end SiteSnapshot.Json
