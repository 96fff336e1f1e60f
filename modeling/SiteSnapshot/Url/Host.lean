import SiteSnapshot.Url.Domain
import SiteSnapshot.Url.Percent

/-!
# Hosts

The host of a URL with a special scheme is a domain name in ASCII, an IPv4 address or an
IPv6 address; a name whose last label is a number has to be an IPv4 address. Other schemes
take any text without a few forbidden characters.
-/

namespace SiteSnapshot

/-- Why a text is no URL. -/
inductive UrlError where
  | emptyHost
  | idna
  | port
  | ipv4
  | ipv6
  | domainCharacter
  | noBase
  | baseWithoutPath
deriving DecidableEq, Repr, Inhabited

/-- The wording of an error. -/
def UrlError.message : UrlError → String
  | .emptyHost => "empty host"
  | .idna => "invalid international domain name"
  | .port => "invalid port number"
  | .ipv4 => "invalid IPv4 address"
  | .ipv6 => "invalid IPv6 address"
  | .domainCharacter => "invalid domain character"
  | .noBase => "relative URL without a base"
  | .baseWithoutPath => "relative URL with a cannot-be-a-base base"

/-- The host of a URL. -/
inductive Host where
  | domain (name : String)
  | ipv4 (address : Nat)
  | ipv6 (pieces : List Nat)
deriving DecidableEq, Repr, Inhabited

namespace Host

/-! ### IPv4 -/

/-- A number of an IPv4 address: decimal, octal after `0` or hexadecimal after `0x`. -/
def ipv4Number? (text : List Char) : Option Nat :=
  match text with
  | [] => none
  | '0' :: 'x' :: digits => Digit.number? 16 digits
  | '0' :: 'X' :: digits => Digit.number? 16 digits
  | '0' :: d :: digits => Digit.number? 8 (d :: digits)
  | digits => Digit.number? 10 digits

/-- True for a name whose last label is a number. An empty last label does not count. -/
def endsInNumber (name : List Char) : Bool :=
  let labels := (name.splitOn '.').reverse
  let last :=
    match labels with
    | [] :: [] => none
    | [] :: l :: _ => some l
    | l :: _ => some l
    | [] => none
  match last with
  | none => false
  | some l => (!l.isEmpty && l.all Char.isDigit) || (ipv4Number? l).isSome

/-- Reads an IPv4 address of up to four numbers; the last fills the remaining octets. -/
def ipv4? (name : List Char) : Option Nat := do
  let labels := name.splitOn '.'
  let labels := if labels.getLast? = some [] then labels.dropLast else labels
  if labels.length > 4 then none
  let numbers ← labels.mapM ipv4Number?
  let last ← numbers.getLast?
  let firsts := numbers.dropLast
  let unit := Nat.pow 256 (4 - firsts.length)
  if last ≥ unit ∨ firsts.any (· > 255) then none
  some (firsts.foldl (· * 256 + ·) 0 * unit + last)

/-! ### IPv6 -/

/-- Up to four hexadecimal digits at the start of a text: their value and number. -/
def hexGroup (text : List Char) : Nat × Nat :=
  let digits := (text.take 4).takeWhile fun c => (Digit.value? 16 c).isSome
  ((Digit.number? 16 digits).getD 0, digits.length)

/-- Reads the dotted end of an IPv6 address as two pieces. -/
def dottedEnd? (text : List Char) : Option (List Nat) := do
  let parts := text.splitOn '.'
  let octets ← parts.mapM fun p =>
    if p.isEmpty ∨ (p.length > 1 ∧ p.head? = some '0') then none
    else (Digit.number? 10 p).filter (· ≤ 255)
  match octets with
  | [a, b, c, d] => some [a * 256 + b, c * 256 + d]
  | _ => none

/-- Reads the pieces of an IPv6 address. `pieces` are those so far, latest first, and
`gap` says how many there were when two colons stood for the missing ones. -/
def ipv6Pieces? : Nat → List Nat → Option Nat → List Char → Option (List Nat × Option Nat)
  | 0, _, _, _ => none
  | _ + 1, pieces, gap, [] => some (pieces, gap)
  | fuel + 1, pieces, gap, text =>
    if pieces.length = 8 then none
    else
      match text with
      | ':' :: rest =>
        if gap.isSome then none
        else ipv6Pieces? fuel pieces (some pieces.length) rest
      | _ =>
        let (value, digits) := hexGroup text
        match text.drop digits with
        | [] => if digits = 0 then none else some (value :: pieces, gap)
        | '.' :: _ =>
          if digits = 0 ∨ pieces.length > 6 then none
          else (dottedEnd? text).map fun l => (l.reverse ++ pieces, gap)
        | ':' :: [] => none
        | ':' :: rest =>
          if digits = 0 then none else ipv6Pieces? fuel (value :: pieces) gap rest
        | _ => none

/-- Reads an IPv6 address as eight pieces of sixteen bits. -/
def ipv6? (text : List Char) : Option (List Nat) := do
  let (pieces, gap) ←
    match text with
    | ':' :: ':' :: rest => ipv6Pieces? (rest.length + 2) [] (some 0) rest
    | ':' :: _ => none
    | text => ipv6Pieces? (text.length + 2) [] none text
  let pieces := pieces.reverse
  match gap with
  | none => if pieces.length = 8 then some pieces else none
  | some before =>
    if pieces.length ≥ 8 then none
    else some (pieces.take before ++ List.replicate (8 - pieces.length) 0 ++ pieces.drop before)

/-- The longest run of zero pieces, the first of equal ones, as start and length. -/
def longestZeros (pieces : List Nat) : Nat × Nat :=
  let runs := (List.range pieces.length).map fun i =>
    (i, ((pieces.drop i).takeWhile (· == 0)).length)
  runs.foldl (fun best run => if run.2 > best.2 then run else best) (0, 0)

/-- A number in hexadecimal. -/
def hexText (n : Nat) : String :=
  String.ofList (Nat.toDigits 16 n)

/-- An IPv6 address as text: two colons stand for the longest run of at least two zero
pieces. -/
def ipv6Text (pieces : List Nat) : String :=
  let (start, length) := longestZeros pieces
  let join (l : List Nat) : String := ":".intercalate (l.map hexText)
  if length ≥ 2 then join (pieces.take start) ++ "::" ++ join (pieces.drop (start + length))
  else join pieces

/-- A host as text. -/
def text : Host → String
  | .domain name => name
  | .ipv4 a =>
    ".".intercalate ([a / 0x1000000, a / 0x10000 % 256, a / 256 % 256, a % 256].map toString)
  | .ipv6 pieces => "[" ++ ipv6Text pieces ++ "]"

/-! ### Reading a host -/

/-- Reads what stands between brackets. -/
def bracketed? (text : List Char) : Except UrlError Host :=
  if text.getLast? ≠ some ']' then .error .ipv6
  else
    match ipv6? ((text.drop 1).dropLast) with
    | some pieces => .ok (.ipv6 pieces)
    | none => .error .ipv6

/-- Reads the host of a URL with a special scheme. -/
def parseSpecial (text : List Char) : Except UrlError Host := do
  if text.head? = some '[' then bracketed? text
  else
    match (Utf8.decode? (Percent.decode (Utf8.encode (String.ofList text)))).bind
        Domain.toAscii? with
    | none => throw .idna
    | some name =>
      if name.isEmpty then throw .emptyHost
      else if endsInNumber name.toList then
        match ipv4? name.toList with
        | some address => return .ipv4 address
        | none => throw .ipv4
      else return .domain name

/-- Characters that no host holds. -/
def isForbidden (c : Char) : Bool :=
  ['\x00', '\t', '\n', '\r', ' ', '#', '/', ':', '<', '>', '?', '@', '[', '\\', ']', '^',
    '|'].contains c

/-- Reads the host of a URL with any other scheme. -/
def parseOther (text : List Char) : Except UrlError Host :=
  if text.head? = some '[' then bracketed? text
  else if text.any isForbidden then .error .domainCharacter
  else .ok (.domain (String.ofList (Percent.encode Percent.isControl text)))

end Host

end SiteSnapshot
