/-
The canonical text of a scalar value, as devices receive it: plain decimal
notation for numbers, `true` and `false`, texts as they are, byte strings as
UTF-8 with replacement. Lists and maps have none.
-/
import CameraDriver.Value.Basic
import CameraDriver.Number.Layout

namespace CameraDriver.Value

open Number

/-- The canonical text, or the kind of a value that has none. -/
def wire : Value → Except Kind String
  | .bool b => .ok (if b then "true" else "false")
  | .i8 n => .ok (integerText n.toInt)
  | .i16 n => .ok (integerText n.toInt)
  | .i32 n => .ok (integerText n.toInt)
  | .i64 n => .ok (integerText n.toInt)
  | .u8 n => .ok (integerText n.toNat)
  | .u16 n => .ok (integerText n.toNat)
  | .u32 n => .ok (integerText n.toNat)
  | .u64 n => .ok (integerText n.toNat)
  | .f32 x => .ok (x.text .plain)
  | .f64 x => .ok (x.text .plain)
  | .text s => .ok s
  | .bytes b => .ok (Text.Utf8.decodeLossy b)
  | .list _ => .error .list
  | .map _ => .error .map

/-- The wording for a value without canonical text. -/
def unsupported (k : Kind) : String := "value of type " ++ k.name ++ " has no wire representation"

/-- A text for people: the canonical one, or the kind in angle brackets. -/
def display (v : Value) : String :=
  match v.wire with
  | .ok t => t
  | .error k => "<" ++ k.name ++ ">"

end CameraDriver.Value
