/-
Host names in the form that requests use: ASCII, in lower case.

A name is mapped and composed; a label that is not ASCII then is written in
Punycode behind `xn--`. Every label behind `xn--`, whether it was written so
or has become so, has to stand for characters that such a name may hold, and
for no more than a thousand of them. What has this form already is left as it
is.
-/
import CameraDriver.Text.Composed
import CameraDriver.Text.Mark
import CameraDriver.Text.Utf8
import CameraDriver.Url.Address
import CameraDriver.Url.Domain.Direction
import CameraDriver.Url.Domain.Joining
import CameraDriver.Url.Domain.Mapping
import CameraDriver.Url.Punycode

namespace CameraDriver.Url.Domain

/-- A character that no host name may hold. -/
def isForbidden (c : Char) : Bool :=
  c.toNat ≤ 32 || c.toNat = 127 || "%#/:<>?@[\\]^|".toList.contains c

/-- A character of ASCII. -/
def isAscii (c : Char) : Bool := c.toNat < 128

/-- What stands before an encoded label. -/
def encodedMark : List Char := ['x', 'n', '-', '-']

/-- How many characters an encoded label may stand for. -/
def meantLimit : Nat := 1000

/-- How many characters may stand behind the mark of an encoded label. -/
def encodedLimit : Nat := 2000

/-- A label in ASCII. One that is not ASCII may not look encoded, nor be too
long. -/
def encodeLabel? (label : List Char) : Option (List Char) :=
  if label.all isAscii then some label
  else if encodedMark.isPrefixOf label || meantLimit < label.length then none
  else some (encodedMark ++ Punycode.encode label)

/-- The characters that an encoded label may stand for: not too many, not
ASCII alone, mapped and composed already, beginning with no mark, and with
every joiner where it may be. -/
def isEncodable (label : List Char) : Bool :=
  label.length ≤ meantLimit && !label.all isAscii
    && label.all isStable && Text.Composed.ofChars label == label
    && !((label.head?.map fun c => Text.marks.contains c.toNat).getD false)
    && joinersFit [] label

/-- The characters that a label in ASCII stands for. -/
def decodeLabel? (label : List Char) : Option (List Char) :=
  if encodedMark.isPrefixOf label then
    let encoded := label.drop encodedMark.length
    if encoded.length ≤ encodedLimit then (Punycode.decode? encoded).filter isEncodable else none
  else some label

/-- The labels of a name with everything mapped and composed. -/
def mappedLabels? (name : List Char) : Option (List (List Char)) := do
  let mapped := (← name.mapM mapChar?).flatten
  return splitOn (· == '.') (if mapped.all isAscii then mapped else Text.Composed.ofChars mapped)

/-- The ASCII form of a host name, if it has one. -/
def toAscii? (bytes : Bytes) : Option (List Char) := do
  let name ← Text.Utf8.decode? bytes
  let labels ← (← mappedLabels? name.toList).mapM encodeLabel?
  if labels.any (·.any isForbidden) then none
  else
    let meant ← labels.mapM decodeLabel?
    if directionsFit meant then return ['.'].intercalate labels else none

end CameraDriver.Url.Domain
