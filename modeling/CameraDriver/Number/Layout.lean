/-
Writing numbers. A floating-point number is written from its shortest
decimal; a `Layout` says which exponents stand positionally, whether a whole
number shows a fraction, which of two equally near decimals is taken, and
the texts of the numbers that have no digits.
-/
import CameraDriver.Number.Shortest

namespace CameraDriver.Number

/-- How a program writes floating-point numbers. -/
structure Layout where
  tie : Tie
  /-- Which exponents of the leading digit are written positionally. -/
  positional : Int → Bool
  /-- A whole number ends in `.0`. -/
  fraction : Bool
  nan : String
  infinity : String
  negativeInfinity : String

/-- The digits of a natural number. -/
def digitsOf (n : Nat) : List Char := Nat.toDigits 10 n

/-- `digits * 10 ^ exponent` without an exponent mark. -/
def positionalText (fraction : Bool) (digits : List Char) (exponent : Int) : List Char :=
  if 0 ≤ exponent then
    digits ++ List.replicate exponent.toNat '0' ++ (if fraction then ['.', '0'] else [])
  else
    let places := (-exponent).toNat
    if places < digits.length then
      digits.take (digits.length - places) ++ '.' :: digits.drop (digits.length - places)
    else '0' :: '.' :: List.replicate (places - digits.length) '0' ++ digits

/-- One digit, the others as a fraction, and the signed exponent. -/
def scientificText (digits : List Char) (lead : Int) : List Char :=
  let mantissa := match digits with
    | [d] => [d]
    | d :: ds => d :: '.' :: ds
    | [] => []
  mantissa ++ ['e', if lead < 0 then '-' else '+'] ++ digitsOf lead.natAbs

/-- The text of what a pattern of a format stands for. -/
def Layout.render (l : Layout) (f : Format) : Unpacked → String
  | .nan => l.nan
  | .infinite negative => if negative then l.negativeInfinity else l.infinity
  | .finite negative m q =>
      let sign := if negative then ['-'] else []
      if m = 0 then String.ofList (sign ++ '0' :: (if l.fraction then ['.', '0'] else []))
      else
        let d := f.shortest l.tie m q
        let digits := digitsOf d.digits
        let lead := d.exponent + (digits.length - 1 : Nat)
        String.ofList <| sign ++
          if l.positional lead then positionalText l.fraction digits d.exponent
          else scientificText digits lead

/-- Canonical text: always positional, and whole numbers have no fraction. -/
def Layout.plain : Layout :=
  { tie := .up, positional := fun _ => true, fraction := false
    nan := "NaN", infinity := "inf", negativeInfinity := "-inf" }

/-- As `plain`, with a fraction on whole numbers. -/
def Layout.pointed : Layout := { Layout.plain with fraction := true }

/-- JSON text: positional from `0.00001` up to 16 digits before the point. -/
def Layout.json : Layout :=
  { tie := .even, positional := fun e => -5 ≤ e && e ≤ 15, fraction := true
    nan := "null", infinity := "null", negativeInfinity := "null" }

/-- JSON text of a number of 32 bits: positional from `0.000001` up to 13
digits before the point. -/
def Layout.jsonSingle : Layout :=
  { Layout.json with positional := fun e => -6 ≤ e && e ≤ 12 }

/-- The text of a 64-bit number. -/
def Binary64.text (l : Layout) (x : Binary64) : String := l.render Format.double x.unpack

/-- The text of a 32-bit number. -/
def Binary32.text (l : Layout) (x : Binary32) : String := l.render Format.single x.unpack

/-- The digits of an integer, with `-` before a negative one. -/
def integerText (n : Int) : String :=
  match n with
  | .ofNat k => String.ofList (digitsOf k)
  | .negSucc k => String.ofList ('-' :: digitsOf (k + 1))

end CameraDriver.Number
