/-
Moments of TOML: a date, a time of day, or both with an offset or not. A
moment is written out in one form whatever separator it was read with.
-/
import CameraDriver.Number.Numeral

namespace CameraDriver.Toml

open Number

/-- Digits of a fixed count with a value up to a bound, and the rest. -/
def fixed? (count max : Nat) (cs : List Char) : Option (List Char × List Char) :=
  let digits := cs.take count
  if digits.length = count ∧ digits.all isDigit ∧ digitsValue digits ≤ max then
    some (digits, cs.drop count)
  else none

/-- A character that has to come next. -/
def expect? (wanted : Char) : List Char → Option (List Char)
  | c :: rest => if c = wanted then some rest else none
  | [] => none

/-- `year-month-day`, and the rest. -/
def date? (cs : List Char) : Option (List Char × List Char) := do
  let (year, cs) ← fixed? 4 9999 cs
  let (month, cs) ← fixed? 2 12 (← expect? '-' cs)
  let (day, cs) ← fixed? 2 31 (← expect? '-' cs)
  if digitsValue month = 0 ∨ digitsValue day = 0 then none
  else return (year ++ '-' :: month ++ '-' :: day, cs)

/-- The digits behind a second's point: at most nine, no zeros at the end. -/
def secondPlaces (digits : List Char) : List Char :=
  let kept := ((digits.take 9).reverse.dropWhile (· == '0')).reverse
  if kept.isEmpty then [] else '.' :: kept

/-- `hour:minute:second` with an optional fraction, and the rest. -/
def time? (cs : List Char) : Option (List Char × List Char) := do
  let (hour, cs) ← fixed? 2 24 cs
  let (minute, cs) ← fixed? 2 59 (← expect? ':' cs)
  let (second, cs) ← fixed? 2 59 (← expect? ':' cs)
  let clock := hour ++ ':' :: minute ++ ':' :: second
  match cs with
  | '.' :: rest =>
      let digits := rest.takeWhile isDigit
      if digits.isEmpty then none
      else return (clock ++ secondPlaces digits, rest.drop digits.length)
  | _ => return (clock, cs)

/-- The offset at the end of a moment, which may be missing. The sign is that
of its hours, so an offset of minutes alone has a plus. -/
def offset? (cs : List Char) : Option (List Char) :=
  let behind (mark : Char) (rest : List Char) : Option (List Char) := do
    let (hours, rest) ← fixed? 2 99 rest
    let (minutes, rest) ← fixed? 2 99 (← expect? ':' rest)
    let sign := if digitsValue hours = 0 then '+' else mark
    if rest.isEmpty then return sign :: hours ++ ':' :: minutes else none
  match cs with
  | [] => some []
  | ['Z'] => some ['Z']
  | ['z'] => some ['Z']
  | '+' :: rest => behind '+' rest
  | '-' :: rest => behind '-' rest
  | _ => none

/-- A date, a time, or both with an optional offset, as one text. -/
def moment? (cs : List Char) : Option (List Char) :=
  match date? cs with
  | some (date, []) => some date
  | some (date, c :: rest) =>
      if c = 'T' ∨ c = 't' ∨ c = ' ' then do
        let (clock, rest) ← time? rest
        let offset ← offset? rest
        return date ++ 'T' :: clock ++ offset
      else none
  | none =>
      match time? cs with
      | some (clock, []) => some clock
      | _ => none

end CameraDriver.Toml
