/-
Layers of settings and how one is laid over a tree. A layer is a list of
assignments, each of a value to a key. A table that is assigned merges with
what is there, name by name, so a table without members changes nothing; any
other value replaces what is there.
-/
import CameraDriver.Settings.KeyPath

namespace CameraDriver.Settings

-- ================================================================ merging

namespace Tree

mutual

/-- Assigns a value to a member. -/
def assign (t : Tree) (name : String) : Tree → Tree
  | .table ms _ => t.put name (assignAll ((t.get? name).getD bare) ms)
  | .leaf v origin => t.put name (.leaf v origin)
  | .list items origin => t.put name (.list items origin)

/-- Assigns values to members, one after the other. -/
def assignAll (t : Tree) : List (String × Tree) → Tree
  | [] => t
  | (name, value) :: rest => assignAll (assign t name value) rest

end

/-- The items of a list; any other value has none. -/
def items : Tree → List Tree
  | .list items _ => items
  | _ => []

/-- The place of a list; what is no list gives way to one without. -/
def listOrigin : Tree → Option Origin
  | .list _ origin => origin
  | _ => none

/-- The position that an index means in a list of some length; a negative
one before the start means none. -/
def position? (length : Nat) : Int → Option Nat
  | .ofNat n => some n
  | .negSucc n => if n < length then some (length - (n + 1)) else none

/-- Changes an item of a list, which grows to reach it. What is no list
gives way to one. -/
def changeItem (t : Tree) (index : Int) (change : Tree → Tree) : Tree :=
  match position? t.items.length index with
  | none => t
  | some i =>
      let items := t.items ++ List.replicate (i + 1 - t.items.length) unset
      .list (items.modify i change) t.listOrigin

/-- Assigns a value to what a step and those after it lead to. -/
def assignStep (t : Tree) (value : Tree) (step : KeyStep) : List KeyStep → Tree
  | [] =>
      match step with
      | .member name => t.asTable.assign name value
      | .item i => t.changeItem i fun _ => value
  | next :: steps =>
      match step with
      | .member name =>
          t.asTable.put name (assignStep ((t.asTable.get? name).getD unset) value next steps)
      | .item i => t.changeItem i fun item => assignStep item value next steps

/-- Assigns a value to a key. -/
def set (t : Tree) (key : KeyPath) (value : Tree) : Tree :=
  match key.steps with
  | [] => t.assign key.root value
  | step :: steps => t.put key.root (assignStep ((t.get? key.root).getD unset) value step steps)

end Tree

-- ================================================================= layers

/-- Assignments of values to keys, in the order they are made. -/
abbrev Layer := List (String × Tree)

/-- The tree with a layer laid over it. -/
def Layer.over (layer : Layer) (t : Tree) : Tree :=
  layer.foldl (fun t (key, value) => t.set (KeyPath.ofText key) value) t

/-- The tree that layers make, the later ones lying above. -/
def Layer.stack (layers : List Layer) : Tree :=
  layers.foldl (fun t layer => layer.over t) .bare

end CameraDriver.Settings
