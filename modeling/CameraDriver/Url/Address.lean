/-
Reading IP addresses.

An IPv4 address is up to four numbers with points between them, each
decimal, octal behind `0`, or hexadecimal behind `0x`; the last number fills
the octets that the others leave. An IPv6 address is eight groups of up to
four hexadecimal digits; one run of zero groups may be written `::`, and the
last two groups as an IPv4 address in plain decimal.
-/
import CameraDriver.Number.Numeral
import CameraDriver.Text.Hex

namespace CameraDriver.Url

open Number

/-- The parts of a text between separators; there is always one more part
than separators. -/
def splitOn (separator : Char → Bool) : List Char → List (List Char)
  | [] => [[]]
  | c :: rest =>
      if separator c then [] :: splitOn separator rest
      else
        match splitOn separator rest with
        | part :: parts => (c :: part) :: parts
        | [] => [[c]]

-- ================================================================== IPv4

/-- The value of digits in base 8. -/
def octal? (cs : List Char) : Option Nat :=
  if cs.all fun c => '0' ≤ c && c ≤ '7' then
    some (cs.foldl (fun acc c => acc * 8 + (c.toNat - '0'.toNat)) 0)
  else none

/-- A number of an IPv4 address. -/
def ipv4Number? : List Char → Option Nat
  | [] => none
  | '0' :: 'x' :: digits => if digits.isEmpty then some 0 else Text.Hex.number? digits
  | '0' :: 'X' :: digits => if digits.isEmpty then some 0 else Text.Hex.number? digits
  | '0' :: d :: digits => octal? (d :: digits)
  | digits => digits? digits

/-- The parts of a name, without the empty part that a final point leaves. -/
def dottedParts (name : List Char) : List (List Char) :=
  let parts := splitOn (· == '.') name
  if 1 < parts.length ∧ parts.getLast? = some [] then parts.dropLast else parts

/-- Whether a name has to be an IPv4 address: its last part is a number. -/
def endsInNumber (name : List Char) : Bool :=
  match (dottedParts name).getLast? with
  | none => false
  | some last => (digits? last).isSome || (ipv4Number? last).isSome

/-- The address that a list of numbers gives; all but the last are octets. -/
def ipv4OfNumbers? : (octets : List Nat) → (last : Nat) → Option Nat
  | octets, last =>
      if 3 < octets.length || octets.any (255 < ·)
          || Nat.pow 256 (4 - octets.length) ≤ last then none
      else some (octets.zipIdx.foldl (fun acc (n, i) => acc + n * Nat.pow 256 (3 - i)) last)

/-- Reads an IPv4 address. -/
def ipv4? (name : List Char) : Option Nat := do
  let numbers ← (dottedParts name).mapM ipv4Number?
  let last ← numbers.getLast?
  ipv4OfNumbers? numbers.dropLast last

-- ================================================================== IPv6

/-- A group of an IPv6 address: one to four hexadecimal digits. -/
def group? (cs : List Char) : Option Nat :=
  if cs.length ≤ 4 then Text.Hex.number? cs else none

/-- An octet in plain decimal, without leading zeros. -/
def octet? (cs : List Char) : Option Nat :=
  match cs with
  | '0' :: _ :: _ => none
  | _ => (digits? cs).filter (· ≤ 255)

/-- Two groups written as an IPv4 address. -/
def embedded? (cs : List Char) : Option (List Nat) :=
  match splitOn (· == '.') cs with
  | [a, b, c, d] => do
      let a ← octet? a
      let b ← octet? b
      let c ← octet? c
      let d ← octet? d
      return [a * 256 + b, c * 256 + d]
  | _ => none

/-- Groups between colons. The last of them may be two groups in one, where
`embedded` allows it. -/
def groups? (embedded : Bool) : List (List Char) → Option (List Nat)
  | [] => some []
  | [last] =>
      if embedded && last.contains '.' then embedded? last
      else (group? last).map ([·])
  | part :: parts => do
      let g ← group? part
      let rest ← groups? embedded parts
      return g :: rest

/-- Groups between colons, or none in an empty text. -/
def groupList? (embedded : Bool) (cs : List Char) : Option (List Nat) :=
  if cs.isEmpty then some [] else groups? embedded (splitOn (· == ':') cs)

/-- Cuts a text at the first `::`. -/
def cutAtGap : List Char → List Char × Option (List Char)
  | [] => ([], none)
  | ':' :: ':' :: rest => ([], some rest)
  | c :: rest =>
      let (before, after) := cutAtGap rest
      (c :: before, after)

/-- Reads an IPv6 address, without its brackets. -/
def ipv6? (cs : List Char) : Option (List Nat) :=
  match cutAtGap cs with
  | (whole, none) => (groupList? true whole).filter (·.length = 8)
  | (front, some back) => do
      let front ← groupList? false front
      let back ← groupList? true back
      if front.length + back.length < 8 then
        return front ++ List.replicate (8 - front.length - back.length) 0 ++ back
      else none

end CameraDriver.Url
