/-
Why a JSON value does not fit the type that was asked for.
-/
import CameraDriver.Json.Basic
import CameraDriver.Number.Layout
import CameraDriver.Text.Quoted

namespace CameraDriver.Json

open Number

/-- What stood in the place of what was expected. -/
inductive Found where
  | null
  | unit
  | boolean (b : Bool)
  | integer (n : Int)
  /-- A floating-point number, by its text. -/
  | floating (text : String)
  | text (s : String)
  | sequence
  | map
deriving DecidableEq, Repr

/-- What a value is found as. -/
def found : Json → Found
  | .null => .null
  | .bool b => .boolean b
  | .int n => .integer n
  | .double x => .floating (x.text .json)
  | .single x => .floating (x.text .jsonSingle)
  | .str s => .text s
  | .arr _ => .sequence
  | .obj _ => .map

/-- The wording of what was found. -/
def Found.message : Found → String
  | .null => "null"
  | .unit => "unit value"
  | .boolean b => if b then "boolean `true`" else "boolean `false`"
  | .integer n => "integer `" ++ integerText n ++ "`"
  | .floating t => "floating point `" ++ t ++ "`"
  | .text s => "string " ++ Text.Quoted.encode s
  | .sequence => "sequence"
  | .map => "map"

/-- The causes of a misfit. -/
inductive Misfit where
  | invalidType (found : Found) (expected : String)
  | invalidValue (found : Found) (expected : String)
  | invalidLength (length : Nat) (expected : String)
  | missingField (name : String)
  | unknownVariant (name : String) (allowed : List String)
deriving DecidableEq, Repr

/-- The wording of a misfit. -/
def Misfit.message : Misfit → String
  | .invalidType found expected => "invalid type: " ++ found.message ++ ", expected " ++ expected
  | .invalidValue found expected => "invalid value: " ++ found.message ++ ", expected " ++ expected
  | .invalidLength n expected =>
      "invalid length " ++ integerText n ++ ", expected " ++ expected
  | .missingField name => "missing field `" ++ name ++ "`"
  | .unknownVariant name allowed =>
      "unknown variant `" ++ name ++ "`, expected one of "
        ++ ", ".intercalate (allowed.map fun a => "`" ++ a ++ "`")

/-- The misfit of a value that has the wrong type altogether. -/
def misfit (j : Json) (expected : String) : Except Misfit α :=
  .error (.invalidType j.found expected)

/-- An integer within bounds. -/
def asInteger (j : Json) (name : String) (min max : Int) : Except Misfit Int :=
  match j with
  | .int n => if min ≤ n ∧ n ≤ max then .ok n else .error (.invalidValue (.integer n) name)
  | j => j.misfit name

/-- A natural number below a bound. -/
def asNatural (j : Json) (name : String) (max : Nat) : Except Misfit Nat :=
  (j.asInteger name 0 max).map Int.toNat

/-- A boolean. -/
def asBool : Json → Except Misfit Bool
  | .bool b => .ok b
  | j => j.misfit "a boolean"

/-- A text, under the name of what is expected. -/
def asText (j : Json) (expected : String) : Except Misfit String :=
  match j with
  | .str s => .ok s
  | j => j.misfit expected

/-- A record read field by field onto its defaults: an object gives fields by
name, in the order of its keys, and unknown members are ignored; an array
gives them in the order of `names` and may stop early, but not run over. -/
def asRecord (expected : String) (names : List String)
    (set : String → Json → α → Except Misfit α) (default : α) : Json → Except Misfit α
  | .obj ms => ms.foldlM (fun r (k, j) => set k j r) default
  | .arr items => do
      let r ← (names.zip items).foldlM (fun r (k, j) => set k j r) default
      if names.length < items.length then
        .error (.invalidLength items.length "fewer elements in array")
      else return r
  | j => j.misfit expected

end CameraDriver.Json
