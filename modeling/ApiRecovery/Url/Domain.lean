import ApiRecovery.Text.Composition
import ApiRecovery.Text.Search
import ApiRecovery.Url.Domain.Labels
import ApiRecovery.Url.Domain.Mapping
import ApiRecovery.Url.Domain.Punycode

/-!
# Domain names

The ASCII form of a domain name in any script. The characters of the name are mapped and composed,
each label is checked, and a label that is not ASCII is written in its encoded form, which begins
with `xn--`. An encoded label has to decode to a label that would be encoded.
-/

namespace ApiRecovery.Domain

def isForbidden (c : Char) : Bool :=
  c.toNat ≤ 0x20 || c.toNat == 0x7F || "#/:<>?@[\\]^|%".toList.contains c

def encodedMark : List Char := "xn--".toList

def maxLabelLength : Nat := 1000

def maxEncodedLength : Nat := 2000

/-- The text in composed form with every character mapped, or none if one may not occur. -/
def normalized? (cs : List Char) : Option (List Char) :=
  (cs.mapM mapped?).map fun parts => Text.composed parts.flatten

def isAscii (cs : List Char) : Bool :=
  cs.all fun c => c.toNat < 128

/-- A label, as it is read and as it is written in ASCII. -/
structure Label where
  text : List Char
  ascii : List Char

def decodeLabel? (cs : List Char) : Option (List Char) :=
  if isAscii cs && !cs.isEmpty && cs.getLast? != some '-' && cs.length ≤ maxEncodedLength then
    (Punycode.decode? cs).filter fun label => normalized? label == some label
  else none

def Label.read? (cs : List Char) : Option Label :=
  if cs.any isForbidden then none
  else if encodedMark.isPrefixOf cs then
    (decodeLabel? (cs.drop encodedMark.length)).map fun text => ⟨text, cs⟩
  else if isAscii cs then some ⟨cs, cs⟩
  else if cs.length ≤ maxLabelLength then some ⟨cs, encodedMark ++ Punycode.encode cs⟩
  else none

def toAscii? (cs : List Char) : Option (List Char) := do
  let name ← normalized? cs
  let labels ← (Text.splitChars '.' name).mapM Label.read?
  let texts := labels.map (·.text)
  let isOrdered := texts.any (·.any turns) → texts.all keepsDirection
  if texts.all isLabel && isOrdered then
    return ['.'].intercalate (labels.map (·.ascii))
  else none

end ApiRecovery.Domain
