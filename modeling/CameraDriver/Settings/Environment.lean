/-
Settings from environment variables. The variables that count begin with a
prefix and two underscores, in any case; in the rest of the name, two
underscores separate the parts of a key. A value is a boolean, an integer or
a floating-point number if it reads as one, else a text.
-/
import CameraDriver.Number.Numeral
import CameraDriver.Settings.Layer
import CameraDriver.Text.Lower

namespace CameraDriver.Settings

open Number

/-- Variables by name, and the prefix of those that count. -/
structure Environment where
  prefixName : String
  entries : List (String × String)
deriving Repr

namespace Environment

/-- The scalar that a value reads as. -/
def scalar (value : String) : Scalar :=
  match Text.lower value with
  | "true" => .bool true
  | "false" => .bool false
  | _ =>
      match integer? Tree.leastInteger Tree.greatestInteger value with
      | some n => .int n
      | none =>
          match Binary64.ofText? value with
          | some x => .float x
          | none => .text value

/-- Two underscores become a point. -/
def dotted : List Char → List Char
  | '_' :: '_' :: rest => '.' :: dotted rest
  | c :: rest => c :: dotted rest
  | [] => []

/-- What follows a prefix. -/
def afterPrefix? : (lead cs : List Char) → Option (List Char)
  | [], cs => some cs
  | _ :: _, [] => none
  | p :: lead, c :: cs => if p = c then afterPrefix? lead cs else none

/-- The key that a variable's name spells, if the variable counts. -/
def key? (e : Environment) (name : String) : Option String :=
  let lead := Text.lower (e.prefixName ++ "__")
  (afterPrefix? lead.toList (Text.lower name).toList).map fun rest => String.ofList (dotted rest)

/-- The assignments that the variables make. -/
def layer (e : Environment) : Layer :=
  e.entries.filterMap fun (name, value) =>
    (e.key? name).map fun key => (key, .leaf (scalar value) (some .environment))

end Environment

end CameraDriver.Settings
