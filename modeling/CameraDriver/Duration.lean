/-
Spans of time, and the text of one: the largest unit of seconds,
milliseconds, microseconds and nanoseconds that gives a whole part, with as
many places as the span has.
-/
import CameraDriver.Number.Layout

namespace CameraDriver

open Number

/-- A span of time. -/
structure Duration where
  seconds : Nat
  nanos : Nat
deriving DecidableEq, Repr

namespace Duration

/-- The span of seconds and nanoseconds together; whole seconds among the
nanoseconds count as seconds. -/
def ofParts (seconds nanos : Nat) : Duration :=
  ⟨seconds + nanos / 1000000000, nanos % 1000000000⟩

/-- The span of a number of milliseconds. -/
def ofMillis (ms : Nat) : Duration := ⟨ms / 1000, ms % 1000 * 1000000⟩

/-- The milliseconds in a span. -/
def millis (d : Duration) : Nat := d.seconds * 1000 + d.nanos / 1000000

/-- `whole` and the fraction `part / 10 ^ places`, without trailing zeros. -/
def withPlaces (whole part places : Nat) : List Char :=
  let digits := digitsOf part
  let padded := List.replicate (places - digits.length) '0' ++ digits
  let kept := (padded.reverse.dropWhile (· == '0')).reverse
  digitsOf whole ++ (if kept.isEmpty then [] else '.' :: kept)

/-- The text of a span. -/
def text (d : Duration) : String :=
  String.ofList <|
    if 0 < d.seconds then withPlaces d.seconds d.nanos 9 ++ ['s']
    else if 1000000 ≤ d.nanos then
      withPlaces (d.nanos / 1000000) (d.nanos % 1000000) 6 ++ ['m', 's']
    else if 1000 ≤ d.nanos then withPlaces (d.nanos / 1000) (d.nanos % 1000) 3 ++ ['µ', 's']
    else withPlaces d.nanos 0 0 ++ ['n', 's']

end Duration

end CameraDriver
