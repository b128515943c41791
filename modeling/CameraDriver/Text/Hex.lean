/-
Hexadecimal digits: reading one, and writing numbers with them.
-/

namespace CameraDriver.Text.Hex

/-- The value of a hexadecimal digit in either case. -/
def digit? (c : Char) : Option Nat :=
  if '0' ≤ c ∧ c ≤ '9' then some (c.toNat - '0'.toNat)
  else if 'a' ≤ c ∧ c ≤ 'f' then some (c.toNat - 'a'.toNat + 10)
  else if 'A' ≤ c ∧ c ≤ 'F' then some (c.toNat - 'A'.toNat + 10)
  else none

/-- The lower-case digit of a number below 16. -/
def lower (n : Nat) : Char :=
  if n < 10 then Char.ofNat ('0'.toNat + n) else Char.ofNat ('a'.toNat + (n - 10))

/-- The upper-case digit of a number below 16. -/
def upper (n : Nat) : Char :=
  if n < 10 then Char.ofNat ('0'.toNat + n) else Char.ofNat ('A'.toNat + (n - 10))

/-- The lower-case digits of a number, without leading zeros. -/
def digits (n : Nat) : List Char :=
  if n < 16 then [lower n] else digits (n / 16) ++ [lower (n % 16)]
termination_by n
decreasing_by omega

/-- Two lower-case digits of a byte. -/
def ofByte (b : UInt8) : List Char := [lower (b.toNat / 16), lower (b.toNat % 16)]

/-- A byte string, two lower-case digits a byte. -/
def ofBytes (bytes : List UInt8) : String := String.ofList (bytes.flatMap ofByte)

/-- The bytes of a text of digit pairs. -/
def toBytes? : List Char → Option (List UInt8)
  | [] => some []
  | [_] => none
  | a :: b :: rest => do
      let high ← digit? a
      let low ← digit? b
      let tail ← toBytes? rest
      return UInt8.ofNat (high * 16 + low) :: tail

/-- The number that a text of digits denotes; an empty text denotes none. -/
def number? (cs : List Char) : Option Nat :=
  if cs.isEmpty then none
  else cs.foldlM (fun acc c => (digit? c).map (acc * 16 + ·)) 0

end CameraDriver.Text.Hex
