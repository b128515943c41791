/-
Punycode: a text as ASCII. The ASCII characters come first, a hyphen behind
them; then each other character is given, in the order of the code points
and within these from left to right, as the distance that its code point and
place lie from the one before. A distance is a number with variable digits,
whose thresholds follow the distances seen so far.
-/

namespace CameraDriver.Url.Punycode

-- ================================================================= digits

/-- The number of digits. -/
def base : Nat := 36

/-- The first code point that is encoded. -/
def firstCode : Nat := 128

/-- The bias at the start. -/
def firstBias : Nat := 72

/-- A digit: a letter, or one of ten digits behind the letters. -/
def digit (d : Nat) : Char :=
  if d < 26 then Char.ofNat ('a'.toNat + d) else Char.ofNat ('0'.toNat + (d - 26))

/-- The value of a digit. -/
def value? (c : Char) : Option Nat :=
  if 'a' ≤ c ∧ c ≤ 'z' then some (c.toNat - 'a'.toNat)
  else if 'A' ≤ c ∧ c ≤ 'Z' then some (c.toNat - 'A'.toNat)
  else if '0' ≤ c ∧ c ≤ '9' then some (c.toNat - '0'.toNat + 26)
  else none

/-- The threshold of the digit at a place, which counts in steps of the
base. -/
def threshold (bias place : Nat) : Nat := max 1 (min 26 (place - bias))

/-- The bias for a distance that has been scaled; `place` counts how often. -/
def settle (place delta : Nat) : Nat :=
  if 455 < delta then settle (place + base) (delta / 35)
  else place + 36 * delta / (delta + 38)
termination_by delta
decreasing_by omega

/-- The bias after a distance, with the number of characters given so far. -/
def adapt (delta count : Nat) (first : Bool) : Nat :=
  let delta := if first then delta / 700 else delta / 2
  settle 0 (delta + delta / count)

-- =============================================================== encoding

/-- The digits of a distance. -/
def distance (bias place : Nat) (q : Nat) : List Char :=
  let t := threshold bias place
  if q < t then [digit q]
  else digit (t + (q - t) % (base - t)) :: distance bias (place + base) ((q - t) / (base - t))
termination_by q
decreasing_by
  have low : 1 ≤ threshold bias place := Nat.le_max_left 1 _
  have : (q - threshold bias place) / (base - threshold bias place)
      ≤ q - threshold bias place := Nat.div_le_self _ _
  omega

/-- What has been encoded: the characters given, the distance at hand, the
bias, and the digits so far. -/
structure Encoding where
  given : Nat
  delta : Nat
  bias : Nat
  digits : List Char
  first : Bool

/-- Takes up one character while those with the code point `n` are given. -/
def Encoding.push (n : Nat) (e : Encoding) (c : Nat) : Encoding :=
  if c < n then { e with delta := e.delta + 1 }
  else if c = n then
    { given := e.given + 1
      delta := 0
      bias := adapt e.delta (e.given + 1) e.first
      digits := e.digits ++ distance e.bias base e.delta
      first := false }
  else e

/-- Gives the characters of one code point after the other. -/
def encodeFrom (cs : List Nat) (previous : Nat) (e : Encoding) : List Nat → Encoding
  | [] => e
  | n :: rest =>
      let reached := { e with delta := e.delta + (n - previous) * (e.given + 1) }
      let passed := cs.foldl (Encoding.push n) reached
      encodeFrom cs (n + 1) { passed with delta := passed.delta + 1 } rest

/-- Puts a code point into ascending ones, unless it is there. -/
def insertOnce (n : Nat) : List Nat → List Nat
  | [] => [n]
  | m :: rest =>
      if n < m then n :: m :: rest else if n = m then m :: rest else m :: insertOnce n rest

/-- The encoded text. -/
def encode (text : List Char) : List Char :=
  let cs := text.map Char.toNat
  let basic := text.filter fun c => c.toNat < firstCode
  let codes := (cs.filter (firstCode ≤ ·)).foldl (fun ns n => insertOnce n ns) []
  let start : Encoding :=
    { given := basic.length, delta := 0, bias := firstBias, digits := [], first := true }
  basic ++ (if basic.isEmpty then [] else ['-']) ++ (encodeFrom cs firstCode start codes).digits

-- =============================================================== decoding

/-- A distance and the rest behind it: `weight` is the weight of the digit
at `place`, and `acc` what the digits before make. -/
def distance? (bias : Nat) : (place weight acc : Nat) → List Char → Option (Nat × List Char)
  | _, _, _, [] => none
  | place, weight, acc, c :: rest => do
      let d ← value? c
      let t := threshold bias place
      let acc := acc + d * weight
      if d < t then return (acc, rest)
      else distance? bias (place + base) (weight * (base - t)) acc rest

/-- The characters that the digits of distances give, put among those given
so far. -/
def decodeFrom : (fuel : Nat) → (given : List Char) → (code place bias : Nat) → (first : Bool) →
    List Char → Option (List Char)
  | _, given, _, _, _, _, [] => some given
  | 0, _, _, _, _, _, _ :: _ => none
  | fuel + 1, given, code, place, bias, first, cs => do
      let (delta, rest) ← distance? bias base 1 0 cs
      let count := given.length + 1
      let reached := place + delta
      let n := code + reached / count
      let spot := reached % count
      if n < 0xD800 ∨ (0xDFFF < n ∧ n ≤ 0x10FFFF) then
        decodeFrom fuel (given.take spot ++ Char.ofNat n :: given.drop spot) n (spot + 1)
          (adapt delta count first) false rest
      else none

/-- The text that an encoded one stands for. -/
def decode? (encoded : List Char) : Option (List Char) :=
  let digits := (encoded.reverse.takeWhile (· ≠ '-')).reverse
  let basic := encoded.take (encoded.length - digits.length)
  if basic = ['-'] then none
  else decodeFrom digits.length basic.dropLast firstCode 0 firstBias true digits

end CameraDriver.Url.Punycode
