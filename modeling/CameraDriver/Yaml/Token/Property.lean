/-
Directives, and what stands before a node: tags, and the names of anchors
and aliases. A fault in one is reported where it begins.
-/
import CameraDriver.Number.Numeral
import CameraDriver.Yaml.Token.Scalar

namespace CameraDriver.Yaml

-- ================================================================== names

/-- The name behind the mark of an anchor or an alias. -/
def nameBehind (c : Cursor) : Except Fault (String × Cursor) :=
  let name := c.next.rest.takeWhile isNameChar
  let behind := c.next.advance name.length
  let ended := match behind.rest with
    | [] => true
    | ch :: _ => isSpace ch || ['?', ':', ',', ']', '\x7d', '%', '@', '\x60'].contains ch
  if name.isEmpty || !ended then c.fail .noName else .ok (String.ofList name, behind)

-- =================================================================== tags

/-- A character of a tag, an escaped one apart. -/
def isTagChar (c : Char) : Bool :=
  isNameChar c || [';', '/', '?', ':', '@', '&', '=', '+', '$', ',', '.', '!', '~', '*', '\x27',
    '(', ')', '[', ']'].contains c

/-- How many octets a character takes that begins with an octet. -/
def octetCount? (octet : Nat) : Option Nat :=
  if octet < 0x80 then some 1
  else if 0xC0 ≤ octet ∧ octet < 0xE0 then some 2
  else if 0xE0 ≤ octet ∧ octet < 0xF0 then some 3
  else if 0xF0 ≤ octet ∧ octet < 0xF8 then some 4
  else none

/-- An octet written as `%` and two hexadecimal digits. -/
def tagOctet : List Char → Except Cause (Nat × List Char)
  | '%' :: a :: b :: rest =>
      match Text.Hex.number? [a, b] with
      | some octet => .ok (octet, rest)
      | none => .error .noTagOctet
  | _ => .error .noTagOctet

/-- The octets behind the first one of a character, each appended to the
code. -/
def tagOctets (code : Nat) : (count : Nat) → List Char → Except Cause (Nat × List Char)
  | 0, cs => .ok (code, cs)
  | count + 1, cs => do
      let (octet, rest) ← tagOctet cs
      if octet / 0x40 ≠ 2 then throw .oddTrailingOctet
      tagOctets (code * 256 + octet) count rest

/-- An escaped character of a tag. -/
def tagEscape (cs : List Char) : Except Cause (Char × List Char) := do
  let (octet, rest) ← tagOctet cs
  let some count := octetCount? octet | throw .oddLeadingOctet
  let (code, rest) ← tagOctets octet (count - 1) rest
  let some ch := charOf? code | throw .oddTagCharacter
  return (ch, rest)

/-- The text of a tag as far as it goes, and what follows. -/
def tagText : (fuel : Nat) → List Char → Except Cause (List Char × List Char)
  | 0, cs => .ok ([], cs)
  | fuel + 1, cs => do
      match cs with
      | [] => return ([], [])
      | c :: rest =>
          if c == '%' then
            let (ch, rest) ← tagEscape cs
            let (more, rest) ← tagText fuel rest
            return (ch :: more, rest)
          else if isTagChar c then
            let (more, rest) ← tagText fuel rest
            return (c :: more, rest)
          else return ([], cs)

/-- The text of a tag at a place; `begun` says that a part of it was read
before. -/
def readTagText (start : Mark) (begun : Bool) (c : Cursor) : Except Fault (String × Cursor) :=
  match tagText c.rest.length c.rest with
  | .error cause => .error ⟨cause, start⟩
  | .ok (text, rest) =>
      if text.isEmpty && !begun then .error ⟨.noTagText, start⟩
      else .ok (String.ofList text, c.advance (c.rest.length - rest.length))

/-- The handle of a tag: an exclamation mark, a name, and an exclamation mark
if there is one. -/
def tagHandle (start : Mark) (directive : Bool) (c : Cursor) : Except Fault (String × Cursor) := do
  if c.rest.head? ≠ some '!' then throw ⟨.noTagMark, start⟩
  let name := c.next.rest.takeWhile isNameChar
  let behind := c.next.advance name.length
  if behind.rest.head? = some '!' then
    return (String.ofList ('!' :: name ++ ['!']), behind.next)
  if directive && !name.isEmpty then throw ⟨.openTagHandle, start⟩
  return (String.ofList ('!' :: name), behind)

/-- A tag; of one that begins with `!!`, what follows. -/
def readTag (c : Cursor) : Except Fault (Option String × Cursor) := do
  let (core, behind) ←
    if c.next.rest.head? = some '<' then
      let (_, behind) ← readTagText c.mark false (c.advance 2)
      if behind.rest.head? ≠ some '>' then throw ⟨.openTag, c.mark⟩
      pure (none, behind.next)
    else
      let (handle, behind) ← tagHandle c.mark false c
      let whole := handle.length ≥ 2 && handle.toList.getLast? == some '!'
      let (suffix, behind) ← readTagText c.mark (!whole) behind
      pure (if handle == "!!" then some suffix else none, behind)
  if atGap behind.rest then return (core, behind) else throw ⟨.oddTagEnd, c.mark⟩

-- ============================================================= directives

/-- A number of a version. -/
def versionNumber (start : Mark) (c : Cursor) : Except Fault Cursor :=
  let digits := c.rest.takeWhile Number.isDigit
  if digits.isEmpty then .error ⟨.noVersion, start⟩
  else if 9 < digits.length then .error ⟨.longVersion, start⟩
  else .ok (c.advance digits.length)

/-- The place behind the version that a directive names. -/
def versionValue (start : Mark) (c : Cursor) : Except Fault Cursor := do
  let c ← versionNumber start c.skipBlanks
  if c.rest.head? ≠ some '.' then throw ⟨.noVersionPoint, start⟩
  versionNumber start c.next

/-- The place behind the handle and the text that a directive names. -/
def tagValue (start : Mark) (c : Cursor) : Except Fault Cursor := do
  let (_, c) ← tagHandle start true c.skipBlanks
  let (_, c) ← readTagText start false c.skipBlanks
  if atGap c.rest then return c else throw ⟨.oddTagPrefixEnd, start⟩

/-- A directive from its percent sign on, and the place of the line behind
it. Only the directives `YAML` and `TAG` are looked into. -/
def readDirective (c : Cursor) : Except Fault Cursor := do
  let name := c.next.rest.takeWhile isNameChar
  let behind := c.next.advance name.length
  if name.isEmpty then c.next.fail .noDirectiveName
  else if !atGap behind.rest then c.next.fail .oddDirectiveName
  else
    let behind ← match String.ofList name with
      | "YAML" => versionValue c.mark behind
      | "TAG" => tagValue c.mark behind
      | _ => pure behind.skipLine
    let behind := behind.skipRemark
    if atLineEnd behind.rest then return behind.skipBreak
    else throw ⟨.oddDirectiveEnd, c.mark⟩

end CameraDriver.Yaml
