/-
Reading numerals: unsigned and signed integers within bounds, and decimal
floating-point numbers. A numeral is the whole text; nothing may stand
before or after it.
-/
import CameraDriver.Number.Binary

namespace CameraDriver.Number

/-- An ASCII digit. -/
def isDigit (c : Char) : Bool := '0' ≤ c && c ≤ '9'

/-- The number that a sequence of digits denotes. -/
def digitsValue (cs : List Char) : Nat :=
  cs.foldl (fun acc c => acc * 10 + (c.toNat - '0'.toNat)) 0

/-- A non-empty sequence of digits. -/
def digits? (cs : List Char) : Option Nat :=
  if cs.isEmpty || !cs.all isDigit then none else some (digitsValue cs)

/-- An unsigned integer up to `max`: digits, with `+` before them or not. -/
def natural? (max : Nat) (s : String) : Option Nat :=
  let digits := match s.toList with
    | '+' :: rest => rest
    | cs => cs
  (digits? digits).filter (· ≤ max)

/-- A signed integer within bounds: digits, with a sign before them or not. -/
def integer? (min max : Int) (s : String) : Option Int :=
  let value := match s.toList with
    | '-' :: rest => (digits? rest).map fun n => -(n : Int)
    | '+' :: rest => (digits? rest).map fun n => (n : Int)
    | cs => (digits? cs).map fun n => (n : Int)
  value.filter fun n => min ≤ n && n ≤ max

/-- `digits * 10 ^ exponent`, rounded. An exponent far outside the format
decides the result by itself, so the powers stay small. -/
def Binary64.ofDecimal (negative : Bool) (digits : Nat) (exponent : Int) : Binary64 :=
  let size : Int := exponent + (digits.log2 : Int)
  if digits = 0 then .round negative 0 1
  else if 400 < exponent then .ofPattern (Format.double.infinity negative)
  else if size < -1200 ∧ exponent < -(digits.log2 : Int) - 400 then .round negative 0 1
  else if 0 ≤ exponent then .round negative (digits * Nat.pow 10 exponent.toNat) 1
  else .round negative digits (Nat.pow 10 (-exponent).toNat)

/-- Compares with a lower-case word, ignoring the case of ASCII letters. -/
def isWord (word : String) (cs : List Char) : Bool := String.ofList (cs.map Char.toLower) == word

/-- An exponent after its mark: an optional sign and digits. -/
def exponent? (cs : List Char) : Option Int :=
  match cs with
  | '-' :: rest => (digits? rest).map fun n => -(n : Int)
  | '+' :: rest => (digits? rest).map fun n => (n : Int)
  | _ => (digits? cs).map fun n => (n : Int)

/-- A floating-point numeral: an optional sign, then `inf`, `infinity` or
`nan` in any case, or digits with a point somewhere (a digit on one side of
it suffices) and an optional exponent. -/
def Binary64.ofText? (s : String) : Option Binary64 :=
  let (negative, body) := match s.toList with
    | '-' :: rest => (true, rest)
    | '+' :: rest => (false, rest)
    | cs => (false, cs)
  if isWord "inf" body || isWord "infinity" body then
    some (.ofPattern (Format.double.infinity negative))
  else if isWord "nan" body then some (.ofPattern (Format.double.quietNan negative))
  else
    let whole := body.takeWhile isDigit
    let rest := body.dropWhile isDigit
    let (places, rest) := match rest with
      | '.' :: more => (more.takeWhile isDigit, more.dropWhile isDigit)
      | _ => ([], rest)
    if whole.isEmpty && places.isEmpty then none
    else
      let exponent := match rest with
        | [] => some 0
        | 'e' :: more => exponent? more
        | 'E' :: more => exponent? more
        | _ => none
      exponent.map fun e =>
        .ofDecimal negative (digitsValue (whole ++ places)) (e - places.length)

/-- The integer nearest to a number, a half going away from zero, held
within `0..max`; NaN gives 0. -/
def Binary64.toNatural (max : Nat) (x : Binary64) : Nat :=
  match x.unpack with
  | .nan => 0
  | .infinite negative => if negative then 0 else max
  | .finite true _ _ => 0
  | .finite false m q =>
      let (num, den) := ratio m q
      min max ((2 * num + den) / (2 * den))

end CameraDriver.Number
