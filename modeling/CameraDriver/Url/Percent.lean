/-
Percent encoding: each byte of a character that a part of a URL may not hold
is written as `%` and two hexadecimal digits. Each part has its own set of
characters that are encoded; controls and what is not ASCII always are.
-/
import CameraDriver.Text.Hex
import CameraDriver.Text.Utf8

namespace CameraDriver.Url

/-- The characters encoded in a part, besides controls and those beyond ASCII. -/
structure EncodeSet where
  chars : List Char

namespace EncodeSet

/-- In a host that is no name of the web, and in a path without segments. -/
def control : EncodeSet := ⟨[]⟩

/-- In a fragment. -/
def fragment : EncodeSet := ⟨[' ', '"', '<', '>', '\x60']⟩

/-- In a segment of the path. -/
def path : EncodeSet := ⟨fragment.chars ++ ['#', '?', '\x7b', '\x7d']⟩

/-- In a user name or a password. -/
def userinfo : EncodeSet := ⟨path.chars ++ ['/', ':', ';', '=', '@', '[', '\\', ']', '^', '|']⟩

/-- In a query. -/
def query : EncodeSet := ⟨[' ', '"', '#', '<', '>']⟩

/-- In a query of the web or of a file. -/
def webQuery : EncodeSet := ⟨query.chars ++ ['\x27']⟩

/-- Whether a character is encoded. -/
def contains (s : EncodeSet) (c : Char) : Bool :=
  c.toNat < 32 || 127 ≤ c.toNat || s.chars.contains c

end EncodeSet

/-- A byte behind its percent sign. -/
def percentByte (b : UInt8) : List Char :=
  ['%', Text.Hex.upper (b.toNat / 16), Text.Hex.upper (b.toNat % 16)]

/-- A text with the characters of a set encoded. -/
def percentEncode (s : EncodeSet) (cs : List Char) : List Char :=
  cs.flatMap fun c => if s.contains c then (Text.Utf8.encodeChar c).flatMap percentByte else [c]

/-- The bytes of a text, with encoded bytes decoded. A percent sign without
two digits behind it stands for itself. -/
def percentDecode : List Char → Bytes
  | [] => []
  | '%' :: a :: b :: rest =>
      match Text.Hex.digit? a, Text.Hex.digit? b with
      | some high, some low => UInt8.ofNat (high * 16 + low) :: percentDecode rest
      | _, _ => Text.Utf8.encodeChar '%' ++ percentDecode (a :: b :: rest)
  | c :: rest => Text.Utf8.encodeChar c ++ percentDecode rest

end CameraDriver.Url
