/-
Sets of code points given by their ranges. A table is written as one text
of hexadecimal numbers, `a` for a single code point and `a-b` for a range,
each followed by a blank.
-/
import CameraDriver.Text.Hex

namespace CameraDriver.Text

/-- A set of code points, as ascending ranges with both ends included. -/
structure CodeRanges where
  ranges : Array (Nat × Nat)

namespace CodeRanges

/-- What has been read of a table: the finished ranges, the lower end of the
range at hand if its `-` was read, and the number at hand. -/
structure Reading where
  ranges : Array (Nat × Nat) := #[]
  low : Option Nat := none
  acc : Nat := 0

/-- Reads one more character of a table. -/
def Reading.push (r : Reading) (c : Char) : Reading :=
  if c = '-' then { r with low := some r.acc, acc := 0 }
  else if c = ' ' then { ranges := r.ranges.push (r.low.getD r.acc, r.acc) }
  else match Hex.digit? c with
    | some d => { r with acc := r.acc * 16 + d }
    | none => r

/-- The set that a table denotes. -/
def ofText (table : String) : CodeRanges :=
  ⟨(table.toList.foldl Reading.push {}).ranges⟩

/-- The set that the rows of a table denote. -/
def ofRows (rows : List String) : CodeRanges := ofText (String.join (rows.map (· ++ " ")))

/-- Membership, by looking at every range. -/
def contains (s : CodeRanges) (n : Nat) : Bool :=
  s.ranges.any fun (low, high) => low ≤ n && n ≤ high

end CodeRanges

end CameraDriver.Text
