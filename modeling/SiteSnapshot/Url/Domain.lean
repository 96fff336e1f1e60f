import SiteSnapshot.Url.Domain.Composition
import SiteSnapshot.Url.Domain.Direction
import SiteSnapshot.Url.Domain.Joining
import SiteSnapshot.Url.Domain.Mapping
import SiteSnapshot.Url.Domain.Punycode

/-!
# Domain names

Domain names are compared in one form: every character is replaced by what it stands for,
composed, and each label is written in ASCII. A name is refused if a character has no place
in it or if a label could be mistaken for another.
-/

namespace SiteSnapshot.Domain

/-- Characters of ASCII that no domain name holds. -/
def isForbidden (c : Char) : Bool :=
  c.toNat ≤ 0x20 || c.toNat == 0x7F ||
    ['%', '#', '/', ':', '<', '>', '?', '@', '[', '\\', ']', '^', '|'].contains c

/-- The start of a label that is written in ASCII but stands for other characters. -/
def mark : List Char := ['x', 'n', '-', '-']

/-- True for a text in ASCII. -/
def isAscii (text : List Char) : Bool :=
  text.all (·.toNat < 0x80)

/-- True for a label with other characters that can be part of a name. -/
def isLabel (label : List Char) : Bool :=
  label.all isValid && compose label == label && !(label.head?.map isMark).getD false &&
    acceptsJoiners [] label

/-- A label as it is read and as it is written. -/
def readLabel? (label : List Char) : Option (List Char × List Char) :=
  if mark.isPrefixOf label then
    match Punycode.decode? (label.drop mark.length) with
    | some read => if isAscii read || !isLabel read then none else some (read, label)
    | none => none
  else if isAscii label then some (label, label)
  else if isLabel label then
    (Punycode.encode? label).map fun written => (label, mark ++ written)
  else none

/-- The labels of a name, as they are read and as they are written. -/
def labels? (name : List Char) : Option (List (List Char × List Char)) := do
  let mapped ← name.mapM mapChar?
  let composed := compose mapped.flatten
  if composed.any isForbidden then none
  let labels ← (composed.splitOn '.').mapM readLabel?
  if labels.any (isRightToLeft ·.1) && !labels.all (keepsDirection ·.1) then none
  return labels

/-- A domain name in its ASCII form. -/
def toAscii? (name : String) : Option String :=
  (labels? name.toList).map fun labels =>
    String.ofList (['.'].intercalate (labels.map (·.2)))

end SiteSnapshot.Domain
