/-
A TOML document: its sections, and the table that they make up.

A section is a header with the assignments below it. To make up the table at
a path, the sections under the path are gone through in order; each of them
adds its assignments if the path is its header, and the next name of its
header otherwise, and the sections below that name are gone through before
the next one. A section counts only once.
-/
import CameraDriver.Toml.Value

namespace CameraDriver.Toml

/-- A header and the assignments below it; `array` says that the header
stands in double brackets. The first section has no header. -/
structure Section where
  unread : Nat
  path : List String := []
  array : Bool := false
  pairs : Pairs := []

-- ================================================================ reading

namespace Reading

/-- A header from its opening bracket on. -/
def header : Reading Section := do
  let start ← unread
  expect .leftBracket
  let array ← take .leftBracket
  skipBlanks
  let (first, names) ← key
  skipBlanks
  expect .rightBracket
  if array then expect .rightBracket
  finishLine
  return { unread := start, path := first :: names, array }

/-- An assignment on a line of its own, added to those before. -/
def assignment (before : Pairs) : Reading Pairs := do
  let (first, names) ← key
  skipBlanks
  expect .equals
  skipBlanks
  let v ← value (2 * (← unread) + 1)
  finishLine
  Pairs.add v first names before

/-- The sections from here on, the first of which has begun. -/
def sections : (fuel : Nat) → Section → Reading (List Section)
  | 0, current => return [current]
  | fuel + 1, current => do
      skipLines (← unread)
      match ← peek with
      | .fileEnd => return [current]
      | .leftBracket => return current :: (← sections fuel (← header))
      | _ => sections fuel { current with pairs := ← assignment current.pairs }

/-- The sections of a text of some length. One without header and assignments
is none. -/
def document (length : Nat) : Reading (List Section) := do
  let all ← sections (length + 1) { unread := length }
  return all.filter fun s => !s.path.isEmpty || !s.pairs.isEmpty

end Reading

-- ================================================================= tables

/-- The members found so far, and which sections have counted. -/
abbrev Found := List (String × Json) × List Nat

/-- The first section from `start` on and before `limit` that `p` holds of. -/
def findSection (sections : Array Section) (start limit : Nat) (p : Nat → Section → Bool) :
    Option (Nat × Section) :=
  ((List.range limit).drop start).findSome? fun i =>
    (sections[i]?).bind fun s => if p i s then some (i, s) else none

mutual

/-- The members of the table at the first `depth` names of the section
`parent`, from the section `start` on. -/
def tableMembers (sections : Array Section) (depth limit : Nat) :
    (fuel : Nat) → (parent start : Nat) → Found → Except Fault Found
  | 0, _, _, found => .ok found
  | fuel + 1, parent, start, (members, used) => do
      let path := ((sections[parent]?).map (·.path)).getD []
      let next := findSection sections start limit fun i s =>
        (path.take depth).isPrefixOf s.path && !used.contains i
      let some (i, s) := next | return (members, used)
      if i ≠ parent ∧ s.path = path then
        throw { cause := .duplicateTable path, unread := some s.unread }
      let parent := if s.path.length < path.length then i else parent
      match s.path.drop depth with
      | [] =>
          if s.array then throw { cause := .redefinedAsArray, unread := some s.unread }
          let members ← sectionMembers members s.pairs
          tableMembers sections depth limit fuel parent i (members, i :: used)
      | name :: deeper => do
          let below : Except Fault (Json × List Nat) :=
            if s.array && deeper.isEmpty then do
              let (items, used) ← arrayItems sections depth limit fuel i used
              return (.arr items, used)
            else do
              let (inner, used) ← tableMembers sections (depth + 1) limit fuel i 0 ([], used)
              return (.object inner, used)
          let members ← addMember members name ((below.map (·.1)).mapError (·.under name))
          let used := (below.map (·.2)).toOption.getD used
          tableMembers sections depth limit fuel parent (i + 1) (members, used)

/-- The items of the array whose first one is the section `current`: each
goes up to the next section with the same header. -/
def arrayItems (sections : Array Section) (depth limit : Nat) :
    (fuel : Nat) → (current : Nat) → List Nat → Except Fault (List Json × List Nat)
  | 0, _, used => .ok ([], used)
  | fuel + 1, current, used => do
      let some s := sections[current]? | return ([], used)
      let next := findSection sections (current + 1) limit fun _ t => t.array && t.path = s.path
      let stop := (next.map (·.1)).getD limit
      let members ← sectionMembers [] s.pairs
      let (inner, used) ←
        tableMembers sections (depth + 1) stop fuel current 0 (members, current :: used)
      if next.isSome then
        let (items, used) ← arrayItems sections depth limit fuel stop used
        return (.object inner :: items, used)
      else return ([.object inner], used)

/-- The members that the assignments of a section add. -/
def sectionMembers (members : List (String × Json)) : Pairs → Except Fault (List (String × Json))
  | [] => .ok members
  | (name, v) :: pairs => do
      sectionMembers (← addMember members name (v.meaning.mapError (·.under name))) pairs

end

/-- The table that sections make up. A fault without a place is reported at
the last of them. -/
def tableOf (sections : List Section) : Except Fault Json :=
  let count := sections.length
  let names := sections.foldl (fun n s => n + s.path.length) 0
  let last := (sections.getLast?.map (·.unread)).getD 0
  match tableMembers sections.toArray 0 count (2 * (count + names) + 2) 0 0 ([], []) with
  | .ok (members, _) => .ok (.object members)
  | .error f => .error (f.located last)

/-- The table that a document denotes, or the wording of its fault. A
byte-order mark at the start does not count. -/
def parse (text : String) : Except String Json :=
  let cs := text.toList
  let body := if cs.head? == some '\uFEFF' then cs.tail else cs
  let table : Except Fault Json := do
    let (sections, _) ← (Reading.document cs.length).run body
    tableOf sections
  table.mapError (·.message cs)

end CameraDriver.Toml
