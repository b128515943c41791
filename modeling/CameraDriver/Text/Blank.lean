/-
White space: the characters with the Unicode property White_Space, and the
removal of them from both ends of a text.
-/

namespace CameraDriver.Text

/-- The property White_Space. -/
def isBlank (c : Char) : Bool :=
  let n := c.toNat
  (0x09 ≤ n && n ≤ 0x0D) || n == 0x20 || n == 0x85 || n == 0xA0 || n == 0x1680
    || (0x2000 ≤ n && n ≤ 0x200A) || n == 0x2028 || n == 0x2029 || n == 0x202F
    || n == 0x205F || n == 0x3000

/-- Drops what `p` holds of from the right end. -/
def dropRight (p : Char → Bool) (cs : List Char) : List Char :=
  (cs.reverse.dropWhile p).reverse

/-- Drops what `p` holds of from both ends. -/
def stripChars (p : Char → Bool) (cs : List Char) : List Char :=
  dropRight p (cs.dropWhile p)

/-- A text without the white space at its ends. -/
def trim (s : String) : String := String.ofList (stripChars isBlank s.toList)

end CameraDriver.Text
