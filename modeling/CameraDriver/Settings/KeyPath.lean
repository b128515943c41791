/-
Keys that lead into a tree. A key is a name, followed by steps: `.name` goes
to a member of a table, `[n]` to an item of a list, counted from the end if
`n` is negative. Names hold ASCII letters, digits, blanks, `_` and `-`.
-/
import CameraDriver.Number.Numeral
import CameraDriver.Settings.Tree

namespace CameraDriver.Settings

open Number

/-- One step down. -/
inductive KeyStep where
  | member (name : String)
  | item (index : Int)
deriving DecidableEq, Repr

/-- A name at the top and the steps from there. -/
structure KeyPath where
  root : String
  steps : List KeyStep
deriving DecidableEq, Repr

namespace KeyPath

/-- The path of a single name, whatever characters it has. -/
def name (s : String) : KeyPath := ⟨s, []⟩

-- =============================================================== reading

/-- A character of a name. -/
def isNameChar (c : Char) : Bool :=
  c.isAlphanum || c == ' ' || c == '_' || c == '-'

/-- A blank beside an index. -/
def isIndexBlank (c : Char) : Bool := c == ' ' || c == '\t'

/-- An index, its blanks removed: digits, with `-` before them or not. -/
def index? (cs : List Char) : Option Int :=
  let value := match cs with
    | '-' :: digits => (digits? digits).map fun n => -(n : Int)
    | digits => (digits? digits).map fun n => (n : Int)
  value.filter fun n => Tree.leastInteger ≤ n && n ≤ Tree.greatestInteger

/-- The indices before and after the blanks at both ends. -/
def stripBlanks (cs : List Char) : List Char :=
  ((cs.dropWhile isIndexBlank).reverse.dropWhile isIndexBlank).reverse

/-- The steps that a text spells, one after the other. -/
def steps? : List Char → Option (List KeyStep)
  | [] => some []
  | '.' :: rest =>
      let name := rest.takeWhile isNameChar
      if name.isEmpty then none
      else (steps? (rest.dropWhile isNameChar)).map (.member (String.ofList name) :: ·)
  | '[' :: rest =>
      match _closed : rest.dropWhile (· ≠ ']') with
      | ']' :: more =>
          match index? (stripBlanks (rest.takeWhile (· ≠ ']'))) with
          | some n => (steps? more).map (.item n :: ·)
          | none => none
      | _ => none
  | _ => none
termination_by cs => cs.length
decreasing_by
  · have := (rest.dropWhile_sublist isNameChar).length_le
    simp only [List.length_cons]; omega
  · have := (rest.dropWhile_sublist (· ≠ ']')).length_le
    rw [_closed] at this
    simp only [List.length_cons] at this ⊢; omega

/-- The path that a key spells. A key that spells none is a name as it is. -/
def ofText (key : String) : KeyPath :=
  let cs := key.toList
  let root := cs.takeWhile isNameChar
  if root.isEmpty then name key
  else match steps? (cs.dropWhile isNameChar) with
    | some steps => ⟨String.ofList root, steps⟩
    | none => name key

end KeyPath

end CameraDriver.Settings
