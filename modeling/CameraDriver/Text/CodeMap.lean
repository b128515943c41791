/-
Maps from code points to sequences of code points. A table is written as
rows of entries with blanks between them, numbers in hexadecimal: `a=x,y`
for a single code point, `a-b=x` where every code point from `a` to `b` goes
as far as `a` goes to `x`, `a/b=x` where every second one does, and `a~b=x`
where all go to `x`.
-/
import CameraDriver.Text.Hex

namespace CameraDriver.Text

namespace CodeMap

/-- An entry of a table. -/
structure Run where
  low : Nat
  high : Nat
  /-- Every code point of the run counts, or every second one. -/
  stride : Nat
  /-- The targets move along with the code points. -/
  moves : Bool
  targets : List Nat
deriving Repr

/-- The numbers between commas. -/
def numbers? (text : String) : Option (List Nat) :=
  (text.splitOn ",").mapM fun n => Hex.number? n.toList

/-- An entry from its text. -/
def run? (entry : String) : Option Run :=
  match entry.splitOn "=" with
  | [span, targets] =>
      let cs := span.toList
      let low := cs.takeWhile fun c => c ≠ '-' && c ≠ '/' && c ≠ '~'
      do
        let targets ← numbers? targets
        let first ← Hex.number? low
        match cs.drop low.length with
        | [] => return { low := first, high := first, stride := 1, moves := false, targets }
        | mark :: high =>
            return { low := first, high := ← Hex.number? high
                     stride := if mark = '/' then 2 else 1
                     moves := mark ≠ '~'
                     targets }
  | _ => none

/-- The code point belongs to the run. -/
def Run.covers (r : Run) (n : Nat) : Bool :=
  r.low ≤ n && n ≤ r.high && (n - r.low) % r.stride == 0

/-- What a code point of the run goes to. -/
def Run.image (r : Run) (n : Nat) : List Nat :=
  if r.moves then r.targets.map (· + (n - r.low)) else r.targets

end CodeMap

/-- A map from code points to sequences of code points. -/
structure CodeMap where
  runs : Array CodeMap.Run

namespace CodeMap

/-- The map that a table denotes. -/
def ofRows (rows : List String) : CodeMap :=
  ⟨(rows.flatMap fun row => (row.splitOn " ").filterMap run?).toArray⟩

/-- What a code point goes to, if the map has it. -/
def get? (m : CodeMap) (n : Nat) : Option (List Nat) :=
  (m.runs.find? (·.covers n)).map (·.image n)

/-- A code point with an entry of its own that goes to a sequence. -/
def source? (m : CodeMap) (image : List Nat) : Option Nat :=
  (m.runs.find? fun r => r.low = r.high && r.targets = image).map (·.low)

end CodeMap

end CameraDriver.Text
