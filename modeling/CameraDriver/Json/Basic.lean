/-
JSON values. An object keeps its members in ascending order of their keys,
each key once; a number keeps whether it was written as an integer or with a
fraction or exponent.
-/
import CameraDriver.Number.Binary

namespace CameraDriver

open Number

/-- A JSON value. -/
inductive Json where
  | null
  | bool (b : Bool)
  /-- A number without fraction and exponent. -/
  | int (n : Int)
  /-- A number with a fraction or an exponent, or an integer out of range. -/
  | double (x : Binary64)
  /-- A single-precision number; only written, never read. -/
  | single (x : Binary32)
  | str (s : String)
  | arr (items : List Json)
  | obj (members : List (String × Json))
deriving Inhabited

/-- The members of an object, in ascending order of their keys. -/
abbrev Json.Members := List (String × Json)

namespace Json.Members

/-- The value of a key. -/
def get? (ms : Members) (key : String) : Option Json := ms.lookup key

/-- Sets a key, keeping the order. -/
def insert (key : String) (value : Json) : Members → Members
  | [] => [(key, value)]
  | (k, v) :: rest =>
      if key < k then (key, value) :: (k, v) :: rest
      else if key = k then (key, value) :: rest
      else (k, v) :: insert key value rest

/-- The members given one after the other; a later one replaces an earlier
one of the same key. -/
def ofList (pairs : List (String × Json)) : Members :=
  pairs.foldl (fun ms (k, v) => insert k v ms) []

end Json.Members

namespace Json

/-- An object with the given members. -/
def object (pairs : List (String × Json)) : Json := .obj (Members.ofList pairs)

/-- An object without members. -/
def empty : Json := .obj []

mutual

/-- Equality of values: numbers of the same kind compare by value, so the
two floating-point zeros are equal. -/
def same : Json → Json → Bool
  | .null, .null => true
  | .bool a, .bool b => a == b
  | .int a, .int b => a == b
  | .double a, .double b => a.same b
  | .single a, .single b => a == b
  | .str a, .str b => a == b
  | .arr as, .arr bs => sameItems as bs
  | .obj as, .obj bs => sameMembers as bs
  | _, _ => false

/-- `same` item by item. -/
def sameItems : List Json → List Json → Bool
  | [], [] => true
  | a :: as, b :: bs => same a b && sameItems as bs
  | _, _ => false

/-- `same` member by member. -/
def sameMembers : List (String × Json) → List (String × Json) → Bool
  | [], [] => true
  | (j, a) :: as, (k, b) :: bs => j == k && same a b && sameMembers as bs
  | _, _ => false

end

end Json

end CameraDriver
