/-
The values that device features are read and written with: scalars of
explicit width, texts, byte strings, lists and maps.
-/
import CameraDriver.Number.Binary
import CameraDriver.Text.Utf8

namespace CameraDriver

open Number

/-- A value read from or written to a device feature. A map keeps its keys in
ascending order. -/
inductive Value where
  | bool (b : Bool)
  | i8 (n : Int8)
  | i16 (n : Int16)
  | i32 (n : Int32)
  | i64 (n : Int64)
  | u8 (n : UInt8)
  | u16 (n : UInt16)
  | u32 (n : UInt32)
  | u64 (n : UInt64)
  | f32 (x : Binary32)
  | f64 (x : Binary64)
  | text (s : String)
  | bytes (b : Bytes)
  | list (items : List Value)
  | map (members : List (String × Value))
deriving Inhabited

namespace Value

/-- The kinds of values. -/
inductive Kind where
  | bool | i8 | i16 | i32 | i64 | u8 | u16 | u32 | u64 | f32 | f64 | text | bytes | list | map
deriving DecidableEq, Repr

/-- Every kind, in the order messages list them. -/
def Kind.all : List Kind :=
  [.bool, .i8, .i16, .i32, .i64, .u8, .u16, .u32, .u64, .f32, .f64, .text, .bytes, .list, .map]

/-- The name of a kind. -/
def Kind.name : Kind → String
  | .bool => "bool"
  | .i8 => "i8"
  | .i16 => "i16"
  | .i32 => "i32"
  | .i64 => "i64"
  | .u8 => "u8"
  | .u16 => "u16"
  | .u32 => "u32"
  | .u64 => "u64"
  | .f32 => "f32"
  | .f64 => "f64"
  | .text => "text"
  | .bytes => "bytes"
  | .list => "list"
  | .map => "map"

/-- The kind with a name. -/
def Kind.ofName? (name : String) : Option Kind := Kind.all.find? (·.name == name)

/-- The kind of a value. -/
def kind : Value → Kind
  | .bool _ => .bool
  | .i8 _ => .i8
  | .i16 _ => .i16
  | .i32 _ => .i32
  | .i64 _ => .i64
  | .u8 _ => .u8
  | .u16 _ => .u16
  | .u32 _ => .u32
  | .u64 _ => .u64
  | .f32 _ => .f32
  | .f64 _ => .f64
  | .text _ => .text
  | .bytes _ => .bytes
  | .list _ => .list
  | .map _ => .map

/-- The text of a text value. -/
def text? : Value → Option String
  | .text s => some s
  | _ => none

mutual

/-- Whether no float in the value is an infinity or a NaN. -/
def isFinite : Value → Bool
  | .f32 x => x.isFinite
  | .f64 x => x.isFinite
  | .list items => finiteItems items
  | .map members => finiteMembers members
  | _ => true

/-- `isFinite` of every item. -/
def finiteItems : List Value → Bool
  | [] => true
  | v :: rest => isFinite v && finiteItems rest

/-- `isFinite` of every member. -/
def finiteMembers : List (String × Value) → Bool
  | [] => true
  | (_, v) :: rest => isFinite v && finiteMembers rest

end

end Value

end CameraDriver
