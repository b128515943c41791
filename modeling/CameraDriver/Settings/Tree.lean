/-
The tree that settings are gathered in: scalars, lists and tables, every node
with the place it was read from. Values that the program itself supplies have
no such place, nor do the tables that arise when layers are merged.
-/
import CameraDriver.Json.Basic

namespace CameraDriver.Settings

open Number

/-- Where a value was read. -/
inductive Origin where
  | file (name : String)
  | environment
deriving DecidableEq, Repr

/-- The wording of a place. -/
def Origin.text : Origin → String
  | .file name => name
  | .environment => "the environment"

/-- A value without parts. -/
inductive Scalar where
  | null
  | bool (b : Bool)
  | int (n : Int)
  | float (x : Binary64)
  | text (s : String)
deriving DecidableEq, Repr, Inhabited

/-- A tree of settings. A table keeps its members in ascending order of their
names, each name once. -/
inductive Tree where
  | leaf (value : Scalar) (origin : Option Origin)
  | list (items : List Tree) (origin : Option Origin)
  | table (members : List (String × Tree)) (origin : Option Origin)
deriving Inhabited

/-- Values by name, in ascending order of the names. -/
abbrev Members := List (String × Tree)

/-- Sets a name, keeping the order. -/
def Members.insert (name : String) (value : Tree) : Members → Members
  | [] => [(name, value)]
  | (k, v) :: rest =>
      if name < k then (name, value) :: (k, v) :: rest
      else if name = k then (name, value) :: rest
      else (k, v) :: insert name value rest

namespace Tree

/-- The value that stands where nothing was set. -/
def unset : Tree := .leaf .null none

/-- A table without members. -/
def bare : Tree := .table [] none

/-- The members of a table; any other value has none. -/
def members : Tree → Members
  | .table ms _ => ms
  | _ => []

/-- The member of a table. -/
def get? (t : Tree) (name : String) : Option Tree := t.members.lookup name

/-- A table stays, anything else gives way to a bare one. -/
def asTable : Tree → Tree
  | .table ms origin => .table ms origin
  | _ => bare

/-- Sets a member; what is no table gives way to one. -/
def put (t : Tree) (name : String) (value : Tree) : Tree :=
  match t with
  | .table ms origin => .table (Members.insert name value ms) origin
  | _ => .table [(name, value)] none

-- ============================================================= from JSON

/-- The least integer that a scalar holds. -/
def leastInteger : Int := -9223372036854775808

/-- The greatest integer that a scalar holds. -/
def greatestInteger : Int := 9223372036854775807

/-- An integer, as the nearest floating-point number if 64 bits with a sign
do not hold it. -/
def integer (n : Int) : Scalar :=
  if leastInteger ≤ n ∧ n ≤ greatestInteger then .int n else .float (.ofInt n)

mutual

/-- A JSON value as a tree read at one place. -/
def ofJson (origin : Option Origin) : Json → Tree
  | .null => .leaf .null origin
  | .bool b => .leaf (.bool b) origin
  | .int n => .leaf (integer n) origin
  | .double x => .leaf (.float x) origin
  | .single x => .leaf (.float x.widen) origin
  | .str s => .leaf (.text s) origin
  | .arr items => .list (ofItems origin items) origin
  | .obj ms => .table (ofMembers origin ms) origin

/-- `ofJson` item by item. -/
def ofItems (origin : Option Origin) : List Json → List Tree
  | [] => []
  | j :: js => ofJson origin j :: ofItems origin js

/-- `ofJson` member by member. -/
def ofMembers (origin : Option Origin) : List (String × Json) → Members
  | [] => []
  | (k, j) :: ms => (k, ofJson origin j) :: ofMembers origin ms

end

end Tree

end CameraDriver.Settings
