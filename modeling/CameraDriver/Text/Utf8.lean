/-
UTF-8: a text as the bytes that hold it, and bytes read back as text.

# Reading

A byte string is cut from the left into pieces: a character, or a maximal
invalid part (the longest run of bytes that begins some character but does
not finish it; one byte if none begins here). `decodeLossy` keeps the
characters and puts U+FFFD for each invalid part; `decode?` accepts only
strings without invalid parts and otherwise tells where the first one is.
-/

namespace CameraDriver

/-- A byte string. -/
abbrev Bytes := List UInt8

namespace Text.Utf8

/-- The bytes of one character. -/
def encodeChar (c : Char) : Bytes := String.utf8EncodeChar c

/-- The bytes of a text. -/
def encode (s : String) : Bytes := s.toList.flatMap encodeChar

/-- What stands at the front of a byte string, and how many bytes it takes. -/
inductive Piece where
  /-- A whole character. -/
  | char (c : Char) (size : Nat)
  /-- The beginning of no character, or of one that is not finished. -/
  | invalid (size : Nat)
deriving Repr, DecidableEq

/-- After lead byte `b`: how many tail bytes follow, the range of the first
of them, and the bits that `b` itself contributes. -/
def lead (b : UInt8) : Option (Nat × UInt8 × UInt8 × Nat) :=
  if b ≤ 0x7F then some (0, 0x80, 0xBF, b.toNat)
  else if b < 0xC2 then none
  else if b ≤ 0xDF then some (1, 0x80, 0xBF, b.toNat - 0xC0)
  else if b = 0xE0 then some (2, 0xA0, 0xBF, 0)
  else if b = 0xED then some (2, 0x80, 0x9F, 13)
  else if b ≤ 0xEF then some (2, 0x80, 0xBF, b.toNat - 0xE0)
  else if b = 0xF0 then some (3, 0x90, 0xBF, 0)
  else if b ≤ 0xF3 then some (3, 0x80, 0xBF, b.toNat - 0xF0)
  else if b = 0xF4 then some (3, 0x80, 0x8F, 4)
  else none

/-- Reads `need` tail bytes, the first of them within `low..high`; `acc` is
the code point so far and `size` the number of bytes already taken. -/
def tails : (need : Nat) → (low high : UInt8) → (acc size : Nat) → Bytes → Piece
  | 0, _, _, acc, size, _ => .char (Char.ofNat acc) size
  | _ + 1, _, _, _, size, [] => .invalid size
  | need + 1, low, high, acc, size, b :: rest =>
      if low ≤ b ∧ b ≤ high then
        tails need 0x80 0xBF (acc * 64 + (b.toNat - 0x80)) (size + 1) rest
      else .invalid size

/-- The piece at the front of `b :: rest`. -/
def piece (b : UInt8) (rest : Bytes) : Piece :=
  match lead b with
  | none => .invalid 1
  | some (need, low, high, bits) => tails need low high bits 1 rest

/-- The text of a byte string, with U+FFFD for each maximal invalid part. -/
def decodeChars : Bytes → List Char
  | [] => []
  | b :: rest =>
      match piece b rest with
      | .char c size => c :: decodeChars (rest.drop (size - 1))
      | .invalid size => '\uFFFD' :: decodeChars (rest.drop (size - 1))
termination_by bytes => bytes.length
decreasing_by all_goals simp only [List.length_cons, List.length_drop]; omega

/-- `decodeChars` as a text. -/
def decodeLossy (bytes : Bytes) : String := String.ofList (decodeChars bytes)

/-- The position of the first invalid part, counted from `start`. -/
def firstInvalid? (start : Nat) : Bytes → Option Nat
  | [] => none
  | b :: rest =>
      match piece b rest with
      | .char _ size => firstInvalid? (start + size) (rest.drop (size - 1))
      | .invalid _ => some start
termination_by bytes => bytes.length
decreasing_by simp only [List.length_cons, List.length_drop]; omega

/-- The text of a byte string without invalid parts. -/
def decode? (bytes : Bytes) : Option String :=
  match firstInvalid? 0 bytes with
  | some _ => none
  | none => some (decodeLossy bytes)

end Text.Utf8

end CameraDriver
