/-
Values as JSON: an object with the members `type`, the name of the kind, and
`value`, the content. Integers are taken exactly and within their width;
floats take any number, rounded to their format.
-/
import CameraDriver.Value.Basic
import CameraDriver.Json.Decode

namespace CameraDriver.Value

open Number

-- ============================================================== encoding

/-- A kind and a content as JSON. -/
def tagged (k : Kind) (content : Json) : Json :=
  .obj [("type", .str k.name), ("value", content)]

mutual

/-- The JSON form. Infinities and NaNs become `null`. -/
def encode : Value → Json
  | .bool b => tagged .bool (.bool b)
  | .i8 n => tagged .i8 (.int n.toInt)
  | .i16 n => tagged .i16 (.int n.toInt)
  | .i32 n => tagged .i32 (.int n.toInt)
  | .i64 n => tagged .i64 (.int n.toInt)
  | .u8 n => tagged .u8 (.int n.toNat)
  | .u16 n => tagged .u16 (.int n.toNat)
  | .u32 n => tagged .u32 (.int n.toNat)
  | .u64 n => tagged .u64 (.int n.toNat)
  | .f32 x => tagged .f32 (if x.isFinite then .single x else .null)
  | .f64 x => tagged .f64 (if x.isFinite then .double x else .null)
  | .text s => tagged .text (.str s)
  | .bytes b => tagged .bytes (.arr (b.map fun byte => .int byte.toNat))
  | .list items => tagged .list (.arr (encodeItems items))
  | .map members => tagged .map (.obj (encodeMembers members))

/-- The JSON forms of the items of a list. -/
def encodeItems : List Value → List Json
  | [] => []
  | v :: rest => encode v :: encodeItems rest

/-- The JSON forms of the members of a map. -/
def encodeMembers : List (String × Value) → List (String × Json)
  | [] => []
  | (k, v) :: rest => (k, encode v) :: encodeMembers rest

end

-- ============================================================== decoding

/-- The wording of what a value is read from. -/
def expected : String := "adjacently tagged enum Value"

/-- The kind with a name, or the list of all names. -/
def kindNamed (name : String) : Except Json.Misfit Kind :=
  match Kind.ofName? name with
  | some k => .ok k
  | none => .error (.unknownVariant name (Kind.all.map Kind.name))

/-- The kind that a `type` member gives: its name, or an object whose only
key is the name and whose content is `null`. -/
def kindOf : Json → Except Json.Misfit Kind
  | .str name => kindNamed name
  | .obj [(name, content)] => do
      let k ← kindNamed name
      match content with
      | .null => return k
      | j => j.misfit "unit"
  | .obj _ => .error (.invalidValue .map "map with a single key")
  | j => j.misfit "string or map"

/-- The kind that the first item of an array gives. -/
def kindOfItem : Json → Except Json.Misfit Kind
  | .str name => kindNamed name
  | j => j.misfit "variant identifier"

/-- A double-precision number: any number, rounded. -/
def asDouble : Json → Except Json.Misfit Binary64
  | .int n => .ok (.ofInt n)
  | .double x => .ok x
  | .single x => .ok x.widen
  | j => j.misfit "f64"

/-- A single-precision number: any number, rounded once. -/
def asSingle : Json → Except Json.Misfit Binary32
  | .int n => .ok (.ofPattern (Format.single.round (n < 0) n.natAbs 1))
  | .double x => .ok x.narrow
  | .single x => .ok x
  | j => j.misfit "f32"

/-- A byte. -/
def asByte (j : Json) : Except Json.Misfit UInt8 :=
  (j.asNatural "u8" 255).map UInt8.ofNat

mutual

/-- Reads a value: an object with `type` and `value`, or an array of the two. -/
def decode : Json → Except Json.Misfit Value
  | .obj members =>
      match members.lookup "type" with
      | none => .error (.missingField "type")
      | some t => do
          let k ← kindOf t
          decodeMember k members
  | .arr [] => .error (.invalidLength 0 expected)
  | .arr [t] => do
      let _ ← kindOfItem t
      .error (.invalidLength 1 expected)
  | .arr (t :: content :: rest) => do
      let k ← kindOfItem t
      let v ← decodeContent k content
      if rest.isEmpty then return v
      else .error (.invalidLength (rest.length + 2) "fewer elements in array")
  | j => j.misfit expected

/-- Reads the content from the `value` member. -/
def decodeMember (k : Kind) : List (String × Json) → Except Json.Misfit Value
  | [] => .error (.missingField "value")
  | (name, content) :: rest =>
      if name = "value" then decodeContent k content else decodeMember k rest

/-- Reads the content of a kind. -/
def decodeContent (k : Kind) : Json → Except Json.Misfit Value
  | .arr items =>
      match k with
      | .bytes => (items.mapM asByte).map .bytes
      | .list => (decodeItems items).map .list
      | .map => (Json.arr items).misfit "a map"
      | k => decodeScalar k (.arr items)
  | .obj members =>
      match k with
      | .map => (decodeMembers members).map .map
      | k => decodeScalar k (.obj members)
  | j => decodeScalar k j

/-- Reads the content of a kind that is neither a list nor a map of values. -/
def decodeScalar (k : Kind) (j : Json) : Except Json.Misfit Value :=
  match k with
  | .bool => j.asBool.map .bool
  | .i8 => (j.asInteger "i8" (-128) 127).map fun n => .i8 (Int8.ofInt n)
  | .i16 => (j.asInteger "i16" (-32768) 32767).map fun n => .i16 (Int16.ofInt n)
  | .i32 => (j.asInteger "i32" (-2147483648) 2147483647).map fun n => .i32 (Int32.ofInt n)
  | .i64 => (j.asInteger "i64" (-9223372036854775808) 9223372036854775807).map
      fun n => .i64 (Int64.ofInt n)
  | .u8 => (asByte j).map .u8
  | .u16 => (j.asNatural "u16" 65535).map fun n => .u16 (UInt16.ofNat n)
  | .u32 => (j.asNatural "u32" 4294967295).map fun n => .u32 (UInt32.ofNat n)
  | .u64 => (j.asNatural "u64" 18446744073709551615).map fun n => .u64 (UInt64.ofNat n)
  | .f32 => (asSingle j).map .f32
  | .f64 => (asDouble j).map .f64
  | .text => (j.asText "a string").map .text
  | .bytes => j.misfit "a sequence"
  | .list => j.misfit "a sequence"
  | .map => j.misfit "a map"

/-- Reads the items of a list; the first misfit wins. -/
def decodeItems : List Json → Except Json.Misfit (List Value)
  | [] => .ok []
  | j :: rest => do
      let v ← decode j
      let vs ← decodeItems rest
      return v :: vs

/-- Reads the members of a map; the first misfit wins. -/
def decodeMembers : List (String × Json) → Except Json.Misfit (List (String × Value))
  | [] => .ok []
  | (name, j) :: rest => do
      let v ← decode j
      let vs ← decodeMembers rest
      return (name, v) :: vs

end

end CameraDriver.Value
