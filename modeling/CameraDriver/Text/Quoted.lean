/-
Quoted texts as they stand in messages: double quotes around, a backslash
before a quote or a backslash, short escapes for NUL, tab, line feed and
carriage return, `\u{…}` with the number for a character that would not
show, and every other character as it is.
-/
import CameraDriver.Text.Unshown

namespace CameraDriver.Text.Quoted

/-- A character as it stands between the quotes. -/
def encodeChar (c : Char) : List Char :=
  if c = '"' then ['\\', '"']
  else if c = '\\' then ['\\', '\\']
  else if c = '\n' then ['\\', 'n']
  else if c = '\r' then ['\\', 'r']
  else if c = '\t' then ['\\', 't']
  else if c.toNat = 0 then ['\\', '0']
  else if ' ' ≤ c ∧ c ≤ '~' then [c]
  else if unshown.contains c.toNat then
    ['\\', 'u', '\x7b'] ++ Hex.digits c.toNat ++ ['\x7d']
  else [c]

/-- The quoted text. -/
def encode (s : String) : String :=
  String.ofList ('"' :: s.toList.flatMap encodeChar ++ ['"'])

end CameraDriver.Text.Quoted
