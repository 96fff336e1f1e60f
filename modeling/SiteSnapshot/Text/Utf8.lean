/-!
# Text as octets

Files and response bodies are `Bytes`; markup, scripts and paths are text. This module
holds the two passages between them:

* `Utf8.encode` writes text as octets;
* `Utf8.scan` reads octets as a sequence of parts: characters, and **maximal ill-formed
  parts**. Such a part is the longest run of octets that starts like a character and cannot
  be continued to one, or a single octet that starts no character.

Strict reading (`Utf8.decode?`) refuses any ill-formed part, lenient reading
(`Utf8.decodeLossy`) shows each as the replacement character.
-/

namespace SiteSnapshot

/-- A sequence of octets, such as the contents of a file. -/
abbrev Bytes := List UInt8

namespace Utf8

/-- The octets of a text. -/
def encode (text : String) : Bytes :=
  text.toList.flatMap String.utf8EncodeChar

/-- A part of a reading: a character, or an ill-formed run of so many octets. -/
inductive Part where
  | char (c : Char)
  | illFormed (octets : Nat)
deriving DecidableEq, Repr

namespace Part

/-- The character of a well-formed part. -/
def char? : Part → Option Char
  | .char c => some c
  | .illFormed _ => none

/-- The character that a part shows: U+FFFD for an ill-formed one. -/
def shown (p : Part) : Char :=
  p.char?.getD '\ufffd'

end Part

/-- A character of which some octets have been read: the bits so far, how many octets have
been taken and how many are missing, and the range in which the next one has to lie. -/
structure Pending where
  value : Nat
  taken : Nat
  missing : Nat
  low : UInt8
  high : UInt8

/-- What an octet at the start of a character stands for. -/
inductive Lead where
  | whole (c : Char)
  | opening (p : Pending)
  | bad

/-- Reads the first octet of a character. The ranges of the second octet exclude overlong
forms, surrogates and numbers beyond the last code point. -/
def lead (b : UInt8) : Lead :=
  if b < 0x80 then .whole (Char.ofNat b.toNat)
  else if b < 0xC2 then .bad
  else if b < 0xE0 then .opening ⟨b.toNat % 0x20, 1, 1, 0x80, 0xBF⟩
  else if b < 0xF0 then
    .opening
      ⟨b.toNat % 0x10, 1, 2, if b = 0xE0 then 0xA0 else 0x80, if b = 0xED then 0x9F else 0xBF⟩
  else if b < 0xF5 then
    .opening
      ⟨b.toNat % 0x08, 1, 3, if b = 0xF0 then 0x90 else 0x80, if b = 0xF4 then 0x8F else 0xBF⟩
  else .bad

/-- The reading so far, latest part first, and the character that is still open. -/
structure Scan where
  read : List Part := []
  pending : Option Pending := none

/-- Takes one more octet, outside any open character. -/
def Scan.start (s : Scan) (b : UInt8) : Scan :=
  match lead b with
  | .whole c => ⟨.char c :: s.read, none⟩
  | .opening p => ⟨s.read, some p⟩
  | .bad => ⟨.illFormed 1 :: s.read, none⟩

/-- Takes one more octet. An octet that cannot continue the open character ends it as
ill-formed and is read again as a start. -/
def Scan.step (s : Scan) (b : UInt8) : Scan :=
  match s.pending with
  | none => s.start b
  | some p =>
    if p.low ≤ b ∧ b ≤ p.high then
      let value := p.value * 0x40 + b.toNat % 0x40
      if p.missing = 1 then ⟨.char (Char.ofNat value) :: s.read, none⟩
      else ⟨s.read, some ⟨value, p.taken + 1, p.missing - 1, 0x80, 0xBF⟩⟩
    else Scan.start ⟨.illFormed p.taken :: s.read, none⟩ b

/-- The parts of the octets in order. -/
def scan (bytes : Bytes) : List Part :=
  let s := bytes.foldl Scan.step {}
  match s.pending with
  | none => s.read.reverse
  | some p => (.illFormed p.taken :: s.read).reverse

/-- The text of well-formed octets. -/
def decode? (bytes : Bytes) : Option String :=
  ((scan bytes).mapM Part.char?).map String.ofList

/-- The text of any octets: each maximal ill-formed part reads as U+FFFD. -/
def decodeLossy (bytes : Bytes) : String :=
  String.ofList ((scan bytes).map Part.shown)

end Utf8

end SiteSnapshot
