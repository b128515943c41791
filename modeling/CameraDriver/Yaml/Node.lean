/-
The nodes of a YAML document and the values they stand for. A scalar without
quotes is a null, a boolean, an integer or a floating-point number if it
reads as one; every other scalar is text.
-/
import CameraDriver.Json.Basic
import CameraDriver.Number.Numeral
import CameraDriver.Settings.Tree
import CameraDriver.Text.Hex

namespace CameraDriver.Yaml

open Number

/-- A node of a document. -/
inductive Node where
  | null
  /-- A scalar that does not fit its tag, or an alias inside the node that it
  names. -/
  | void
  | bool (b : Bool)
  | int (n : Int)
  /-- A floating-point number, as it is written. -/
  | real (text : String)
  | text (s : String)
  | sequence (items : List Node)
  | mapping (pairs : List (Node × Node))
deriving Inhabited

namespace Node

-- ================================================================ scalars

/-- An integer in a base, with a sign or not, within 64 bits. -/
def integerIn? (base : Nat) (cs : List Char) : Option Int :=
  let magnitude (digits : List Char) : Option Nat :=
    if digits.isEmpty then none
    else digits.foldlM (fun acc c =>
      ((Text.Hex.digit? c).filter (· < base)).map (acc * base + ·)) 0
  let value : Option Int := match cs with
    | '-' :: digits => (magnitude digits).map fun n => -(n : Int)
    | '+' :: digits => (magnitude digits).map fun n => (n : Int)
    | digits => (magnitude digits).map fun n => (n : Int)
  value.filter fun n => Settings.Tree.leastInteger ≤ n && n ≤ Settings.Tree.greatestInteger

/-- The integer that a plain scalar reads as. -/
def integer? (cs : List Char) : Option Int :=
  let based : Option Int := match cs with
    | '0' :: 'x' :: digits => integerIn? 16 digits
    | '0' :: 'o' :: digits => integerIn? 8 digits
    | '+' :: digits => integerIn? 10 digits
    | _ => none
  based <|> integerIn? 10 cs

/-- The names of infinities and NaN that begin with a point. -/
def pointedNames : List String :=
  [".inf", ".Inf", ".INF", "+.inf", "+.Inf", "+.INF", "-.inf", "-.Inf", "-.INF", ".nan", ".NAN"]

/-- Reads as a floating-point number. -/
def isReal (text : String) : Bool :=
  pointedNames.contains text || (Binary64.ofText? text).isSome

/-- The node of a scalar without quotes and tag. -/
def ofPlain (text : String) : Node :=
  match text with
  | "~" => .null
  | "null" => .null
  | "true" => .bool true
  | "false" => .bool false
  | _ =>
      match integer? text.toList with
      | some n => .int n
      | none => if isReal text then .real text else .text text

/-- The node of a scalar without quotes behind one of the tags that begin
with `!!`. -/
def ofCore (tag text : String) : Node :=
  match tag with
  | "bool" => if text == "true" then .bool true else if text == "false" then .bool false else .void
  | "int" => ((integerIn? 10 text.toList).map Node.int).getD .void
  | "float" => if isReal text then .real text else .void
  | "null" => if text == "~" || text == "null" then .null else .void
  | _ => .text text

/-- The node of a scalar; `tag` is that of a tag if there is one, with what
follows `!!` in it. Other tags make a text. -/
def ofScalar (plain : Bool) (tag : Option (Option String)) (text : String) : Node :=
  if !plain then .text text
  else match tag with
    | none => ofPlain text
    | some (some core) => ofCore core text
    | some none => .text text

-- =============================================================== mappings

mutual

/-- Equality of nodes. -/
def same : Node → Node → Bool
  | .null, .null => true
  | .void, .void => true
  | .bool a, .bool b => a == b
  | .int a, .int b => a == b
  | .real a, .real b => a == b
  | .text a, .text b => a == b
  | .sequence as, .sequence bs => sameItems as bs
  | .mapping as, .mapping bs => samePairs as bs
  | _, _ => false

/-- `same` item by item. -/
def sameItems : List Node → List Node → Bool
  | [], [] => true
  | a :: as, b :: bs => same a b && sameItems as bs
  | _, _ => false

/-- `same` pair by pair. -/
def samePairs : List (Node × Node) → List (Node × Node) → Bool
  | [], [] => true
  | (j, a) :: as, (k, b) :: bs => same j k && same a b && samePairs as bs
  | _, _ => false

end

/-- A void node. -/
def isVoid : Node → Bool
  | .void => true
  | _ => false

/-- Keys and values in turn. A void node is no key: the node behind it takes
its place. -/
def pairUp : List Node → List (Node × Node)
  | [] => []
  | [_] => []
  | key :: value :: rest =>
      if key.isVoid then pairUp (value :: rest) else (key, value) :: pairUp rest

/-- The mapping of keys and values in turn; of equal keys the last counts. -/
def ofPairs (nodes : List Node) : Node :=
  .mapping <| (pairUp nodes).foldl (fun pairs (key, value) =>
    pairs.filter (fun (k, _) => !k.same key) ++ [(key, value)]) []

-- ================================================================= values

/-- What is wrong with a floating-point number that has no value. -/
def realFault (text : String) : String := "Parsing " ++ text ++ " as floating point number failed"

mutual

/-- The value of a node, or the wording of what is wrong: the names that
begin with a point have none. Only texts are keys. -/
def value : Node → Except String Json
  | .null => .ok .null
  | .void => .ok .null
  | .bool b => .ok (.bool b)
  | .int n => .ok (.int n)
  | .real written =>
      match Binary64.ofText? written with
      | some x => .ok (.double x)
      | none => .error (realFault written)
  | .text s => .ok (.str s)
  | .sequence items => (valueItems items).map Json.arr
  | .mapping pairs => (valuePairs pairs).map Json.object

/-- The values of nodes. -/
def valueItems : List Node → Except String (List Json)
  | [] => .ok []
  | node :: nodes => do return (← node.value) :: (← valueItems nodes)

/-- The members that pairs give. -/
def valuePairs : List (Node × Node) → Except String (List (String × Json))
  | [] => .ok []
  | (key, node) :: pairs =>
      match key with
      | .text name => do return (name, ← node.value) :: (← valuePairs pairs)
      | _ => valuePairs pairs

end

end Node

end CameraDriver.Yaml
