import Accounts.Hostname.Bidi
import Accounts.Hostname.Joining
import Accounts.Hostname.Mapping
import Accounts.Hostname.Punycode

/-!
# The ASCII form of host names

A name is mapped, composed and cut into labels at its dots. A label with other characters than
ASCII is written in Punycode; one that is in Punycode already must stand for such a label. Short
of what Punycode can take, the lengths of labels are not judged, and neither are hyphens and
symbols.
-/

namespace Accounts.Hostname

def isAscii (c : Char) : Bool :=
  c.toNat < 0x80

def allAscii (cs : List Char) : Bool :=
  cs.all isAscii

/-- The front of a label in Punycode. -/
def acePrefix : List Char := ['x', 'n', '-', '-']

/-- The label that an encoded label stands for, if it could have been encoded. -/
def decodeLabel? (payload : List Char) : Option (List Char) := do
  if payload.isEmpty ∨ payload.getLast? = some '-' then none
  let label ← Punycode.decode? payload
  if label.all (fun c => status c = .valid && c != '.') && compose label = label then
    return label
  none

/-- The text of a label, out of Punycode if it is in it. -/
def openLabel? (label : List Char) : Option (List Char) :=
  if label.take acePrefix.length = acePrefix then
    if allAscii label then decodeLabel? (label.drop acePrefix.length) else none
  else some label

/-- The longest label that Punycode is asked for, in characters. -/
def maxEncoded : Nat := 1000

/-- What is asked of every label by itself. -/
def labelOk (label : List Char) : Bool :=
  allAscii label ||
    (label.length ≤ maxEncoded && !label.head?.any marks.contains && joinersOk [] label)

def closeLabel (label : List Char) : List Char :=
  if allAscii label then label else acePrefix ++ Punycode.encode label

/-- The ASCII form of a name, if it has one. -/
def toAscii? (name : String) : Option String := do
  let mapped ← name.toList.mapM mapChar?
  let labels ← (Text.pieces '.' (compose mapped.flatten)).mapM openLabel?
  if labels.all labelOk && bidiOk labels then
    return String.ofList (['.'].intercalate (labels.map closeLabel))
  none

end Accounts.Hostname
