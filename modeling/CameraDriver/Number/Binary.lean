/-
Binary floating-point numbers, kept as their interchange bit patterns.

A finite pattern stands for `m * 2 ^ q` with a sign. Everything is done on
`m` and `q` in exact arithmetic: rounding a ratio of natural numbers to the
nearest number of a format (a tie goes to the even significand), widening,
narrowing, and comparing.
-/

namespace CameraDriver.Number

/-- A binary interchange format: the significand's digits, the leading one
included, and the width of the exponent field. -/
structure Format where
  precision : Nat
  exponentBits : Nat

namespace Format

/-- 64 bits wide. -/
def double : Format := ⟨53, 11⟩

/-- 32 bits wide. -/
def single : Format := ⟨24, 8⟩

/-- The exponent field of infinities and NaNs. -/
def topField (f : Format) : Nat := Nat.pow 2 f.exponentBits - 1

/-- The exponent `q` of the smallest numbers. -/
def minExponent (f : Format) : Int := 3 - (Nat.pow 2 (f.exponentBits - 1) : Nat) - f.precision

/-- The position of the sign bit. -/
def signBit (f : Format) : Nat := f.precision - 1 + f.exponentBits

end Format

/-- What a bit pattern stands for. -/
inductive Unpacked where
  | nan
  | infinite (negative : Bool)
  /-- The number `m * 2 ^ q`, with its sign. -/
  | finite (negative : Bool) (m : Nat) (q : Int)
deriving Repr, DecidableEq

/-- The reading of a bit pattern. -/
def Format.unpack (f : Format) (bits : Nat) : Unpacked :=
  let negative := bits.testBit f.signBit
  let hidden := Nat.pow 2 (f.precision - 1)
  let fraction := bits % hidden
  let field := bits / hidden % Nat.pow 2 f.exponentBits
  if field = f.topField then
    if fraction = 0 then .infinite negative else .nan
  else if field = 0 then .finite negative fraction f.minExponent
  else .finite negative (hidden + fraction) (f.minExponent + (field - 1 : Nat))

/-- A quotient rounded to the nearest integer, a tie to the even one. -/
def divNearestEven (num den : Nat) : Nat :=
  let quot := num / den
  let rest := num % den
  if 2 * rest < den then quot
  else if den < 2 * rest then quot + 1
  else if quot % 2 = 0 then quot else quot + 1

/-- The greatest `e` with `2 ^ e ≤ num / den`, for positive numbers. -/
def floorLog2 (num den : Nat) : Int :=
  let guess : Int := (num.log2 : Int) - den.log2
  let reached : Bool :=
    if 0 ≤ guess then den * Nat.pow 2 guess.toNat ≤ num else den ≤ num * Nat.pow 2 (-guess).toNat
  if reached then guess else guess - 1

/-- The bit pattern nearest to `num / den`. -/
def Format.round (f : Format) (negative : Bool) (num den : Nat) : Nat :=
  let sign := if negative then Nat.pow 2 f.signBit else 0
  if num = 0 then sign
  else
    let q := max f.minExponent (floorLog2 num den - (f.precision - 1 : Nat))
    let m := if 0 ≤ q then divNearestEven num (den * Nat.pow 2 q.toNat)
      else divNearestEven (num * Nat.pow 2 (-q).toNat) den
    let packed := (q - f.minExponent).toNat * Nat.pow 2 (f.precision - 1) + m
    sign + min packed (f.topField * Nat.pow 2 (f.precision - 1))

/-- `m * 2 ^ q` as a ratio. -/
def ratio (m : Nat) (q : Int) : Nat × Nat :=
  if 0 ≤ q then (m * Nat.pow 2 q.toNat, 1) else (m, Nat.pow 2 (-q).toNat)

/-- The bit pattern of the infinity with a sign. -/
def Format.infinity (f : Format) (negative : Bool) : Nat :=
  (if negative then Nat.pow 2 f.signBit else 0) + f.topField * Nat.pow 2 (f.precision - 1)

/-- The bit pattern of the quiet NaN with a sign. -/
def Format.quietNan (f : Format) (negative : Bool) : Nat :=
  f.infinity negative + Nat.pow 2 (f.precision - 2)

/-- A 64-bit floating-point number. -/
structure Binary64 where
  bits : UInt64
deriving DecidableEq, Repr, Inhabited

/-- A 32-bit floating-point number. -/
structure Binary32 where
  bits : UInt32
deriving DecidableEq, Repr, Inhabited

namespace Binary64

/-- The reading of the pattern. -/
def unpack (x : Binary64) : Unpacked := Format.double.unpack x.bits.toNat

/-- The number with a bit pattern. -/
def ofPattern (n : Nat) : Binary64 := ⟨UInt64.ofNat n⟩

/-- The number nearest to a ratio. -/
def round (negative : Bool) (num den : Nat) : Binary64 :=
  ofPattern (Format.double.round negative num den)

/-- The number nearest to an integer. -/
def ofInt (n : Int) : Binary64 := round (n < 0) n.natAbs 1

/-- The number nearest to a natural number. -/
def ofNat (n : Nat) : Binary64 := round false n 1

/-- The number with the other sign. -/
def negate (x : Binary64) : Binary64 := ⟨x.bits ^^^ 0x8000000000000000⟩

/-- Neither an infinity nor a NaN. -/
def isFinite (x : Binary64) : Bool :=
  match x.unpack with
  | .finite .. => true
  | _ => false

/-- One of the two zeros. -/
def isZero (x : Binary64) : Bool :=
  match x.unpack with
  | .finite _ 0 _ => true
  | _ => false

/-- The product of two finite numbers, rounded. -/
def times (x y : Binary64) : Binary64 :=
  match x.unpack, y.unpack with
  | .finite s m q, .finite t n r =>
      let (num, den) := ratio (m * n) (q + r)
      round (s != t) num den
  | _, _ => ofPattern (Format.double.quietNan false)

/-- The quotient of two finite numbers, the second no zero, rounded. -/
def dividedBy (x y : Binary64) : Binary64 :=
  match x.unpack, y.unpack with
  | .finite s m q, .finite t n r =>
      let (num, den) := ratio m (q - r)
      round (s != t) num (den * n)
  | _, _ => ofPattern (Format.double.quietNan false)

/-- The greatest power of ten that is a finite number. -/
def maxTenPower : Nat := 308

/-- `timesTenTo?` in steps: a power that no number reaches is divided by the
greatest one until nothing is left of `x`. -/
def timesTenStep? : (fuel : Nat) → (x : Binary64) → (power : Int) → Option Binary64
  | 0, x, _ => some x
  | fuel + 1, x, power =>
      let ten := ofNat (Nat.pow 10 (min power.natAbs maxTenPower))
      if power.natAbs ≤ maxTenPower then
        if power < 0 then some (x.dividedBy ten) else some (x.times ten) |>.filter (·.isFinite)
      else if x.isZero then some x
      else if 0 < power then none
      else timesTenStep? fuel (x.dividedBy ten) (power + maxTenPower)

/-- A finite number multiplied with the power of ten nearest to
`10 ^ power`, or divided by it, and rounded; none if that is infinite. Three
divisions by the greatest power leave nothing of any number. -/
def timesTenTo? (x : Binary64) (power : Int) : Option Binary64 := timesTenStep? 4 x power

/-- Equality of numbers: the two zeros are equal, a NaN equals nothing. -/
def same (x y : Binary64) : Bool :=
  match x.unpack, y.unpack with
  | .nan, _ => false
  | _, .nan => false
  | .finite _ 0 _, .finite _ 0 _ => true
  | _, _ => x.bits == y.bits

end Binary64

namespace Binary32

/-- The reading of the pattern. -/
def unpack (x : Binary32) : Unpacked := Format.single.unpack x.bits.toNat

/-- The number with a bit pattern. -/
def ofPattern (n : Nat) : Binary32 := ⟨UInt32.ofNat n⟩

/-- Neither an infinity nor a NaN. -/
def isFinite (x : Binary32) : Bool :=
  match x.unpack with
  | .finite .. => true
  | _ => false

end Binary32

/-- The 32-bit number nearest to a 64-bit one. -/
def Binary64.narrow (x : Binary64) : Binary32 :=
  match x.unpack with
  | .nan => .ofPattern (Format.single.quietNan (x.bits.toNat.testBit 63))
  | .infinite negative => .ofPattern (Format.single.infinity negative)
  | .finite negative m q =>
      let (num, den) := ratio m q
      .ofPattern (Format.single.round negative num den)

/-- The 64-bit number equal to a 32-bit one. -/
def Binary32.widen (x : Binary32) : Binary64 :=
  match x.unpack with
  | .nan => .ofPattern (Format.double.quietNan (x.bits.toNat.testBit 31))
  | .infinite negative => .ofPattern (Format.double.infinity negative)
  | .finite negative m q =>
      let (num, den) := ratio m q
      .round negative num den

end CameraDriver.Number
