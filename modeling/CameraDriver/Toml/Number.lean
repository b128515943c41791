/-
Numbers of TOML. Digits may be grouped by underscores, each between two
digits; a decimal number has no leading zeros. A number with a fraction or
with a plus in its exponent goes over several tokens.
-/
import CameraDriver.Number.Numeral
import CameraDriver.Settings.Tree
import CameraDriver.Toml.Token

namespace CameraDriver.Toml

open Number

-- ================================================================= digits

/-- A part of a number and how many characters of the text were unread where
it begins. -/
structure Part where
  text : List Char
  unread : Nat

/-- A fault at the front of a part. -/
def Part.fail (p : Part) (cause : Cause) : Except Fault α :=
  .error { cause, unread := some p.unread }

/-- A part without its first characters. -/
def Part.drop (p : Part) (n : Nat) : Part := ⟨p.text.drop n, p.unread - n⟩

/-- What digits a number has. -/
structure Digits where
  base : Nat := 10
  /-- A sign may stand before them. -/
  signed : Bool := false
  /-- They may begin with zeros. -/
  zeros : Bool := true

/-- Where the digits of a part end, from a place inside it: `any` says that
there was a digit, `zero` that the first one is a zero, and `grouped` that an
underscore came last. -/
def Digits.length (d : Digits) (any zero grouped : Bool) (p : Part) :
    List Char → Except Fault Nat
  | [] => if any && !grouped then .ok 0 else p.fail .invalidNumber
  | c :: rest =>
      let here : Part := ⟨c :: rest, p.unread - (p.text.length - (rest.length + 1))⟩
      let onward (any zero grouped : Bool) : Except Fault Nat := do
        return (← d.length any zero grouped p rest) + 1
      if c == '0' && !any then onward true true grouped
      else if ((Text.Hex.digit? c).filter (· < d.base)).isSome then
        if any && zero && !d.zeros then here.fail .invalidNumber else onward true zero false
      else if c == '_' && !any then here.fail .invalidNumber
      else if c == '_' && !grouped then onward any zero true
      else if any && !grouped then .ok 0 else p.fail .invalidNumber

/-- The digits at the front of a part with their sign, underscores dropped,
and the part behind them. -/
def Digits.take (d : Digits) (p : Part) : Except Fault (List Char × Part) := do
  let sign : List Char := match p.text with
    | '+' :: _ => if d.signed then ['+'] else []
    | '-' :: _ => if d.signed then ['-'] else []
    | _ => []
  let count ← d.length false false false p (p.text.drop sign.length)
  let length := sign.length + count
  return ((p.text.take length).filter (· ≠ '_'), p.drop length)

-- =============================================================== integers

/-- The number that digits denote in a base. -/
def valueIn (base : Nat) (cs : List Char) : Nat :=
  cs.foldl (fun acc c => acc * base + (Text.Hex.digit? c).getD 0) 0

/-- An integer that 64 bits with a sign hold. -/
def readInteger (base : Nat) (p : Part) : Except Fault Int := do
  let decimal := base = 10
  let (digits, rest) ← Digits.take { base, signed := decimal, zeros := !decimal } p
  let n : Int := match digits with
    | '-' :: digits => -(valueIn base digits : Int)
    | '+' :: digits => (valueIn base digits : Int)
    | _ => (valueIn base digits : Int)
  if rest.text.isEmpty && Settings.Tree.leastInteger ≤ n && n ≤ Settings.Tree.greatestInteger then
    return n
  else p.fail .invalidNumber

-- ================================================================= floats

namespace Reading

/-- The next word as a part of a number; something else is a fault of the
number, at `place`. -/
def numberPart (place : Nat) : Reading Part := do
  let start ← unread
  match ← next with
  | .word text => return ⟨text, start⟩
  | _ => failBack place .invalidNumber

/-- The exponent in a part that begins with its mark; behind a mark alone a
plus may follow, and then the digits. -/
def exponent (whole p : Part) : Reading (List Char) := do
  let (digits, rest) ←
    if p.text.length = 1 then do
      let _ ← take .plus
      Digits.take {} (← numberPart whole.unread)
    else Digits.take { signed := true } (p.drop 1)
  if rest.text.isEmpty then return digits else whole.fail .invalidNumber

/-- A floating-point number from the part before its point and the part
behind it, if there is one. It must be finite. -/
def float (whole : Part) (places : Option Part) : Reading Binary64 := do
  let (integral, rest) ← Digits.take { signed := true, zeros := false } whole
  let (fraction, rest) ← match places with
    | none => pure ([], rest)
    | some places =>
        if rest.text.isEmpty then do
          let (digits, rest) ← Digits.take {} places
          pure ('.' :: digits, rest)
        else whole.fail .invalidNumber
  let power ← match rest.text with
    | [] => pure []
    | c :: _ =>
        if c == 'e' || c == 'E' then pure ('E' :: (← exponent whole rest))
        else whole.fail .invalidNumber
  let text := String.ofList (integral.dropWhile (· == '+') ++ fraction ++ power)
  match (Binary64.ofText? text).filter (·.isFinite) with
  | some x => return x
  | none => whole.fail .invalidNumber

/-- The integer or floating-point number that begins with a part. Its place
is that of its last part. -/
def number (start : Nat) (p : Part) : Reading (Nat × Json) := do
  match p.text with
  | '0' :: 'x' :: _ => return (start, .int (← readInteger 16 (p.drop 2)))
  | '0' :: 'o' :: _ => return (start, .int (← readInteger 8 (p.drop 2)))
  | '0' :: 'b' :: _ => return (start, .int (← readInteger 2 (p.drop 2)))
  | _ =>
      let constant (x : Nat) : Reading (Nat × Json) := return (start, .double (.ofPattern x))
      if p.text.contains 'e' || p.text.contains 'E' then
        return (start, .double (← float p none))
      else if ← take .period then
        let places ← numberPart (← unread)
        return (places.unread, .double (← float p (some places)))
      else if p.text = ['i', 'n', 'f'] then constant (Format.double.infinity false)
      else if p.text = ['-', 'i', 'n', 'f'] then constant (Format.double.infinity true)
      else if p.text = ['n', 'a', 'n'] then constant (Format.double.quietNan false)
      else if p.text = ['-', 'n', 'a', 'n'] then constant (Format.double.quietNan true)
      else return (start, .int (← readInteger 10 p))

end Reading

end CameraDriver.Toml
