/-
Scalars written as a block of lines, literally or folded. The indentation of
the block is given in its header, or else it is the widest of the first line
that is not blank and the blank lines before it.
-/
import CameraDriver.Number.Numeral
import CameraDriver.Yaml.Cursor

namespace CameraDriver.Yaml

-- ================================================================= header

/-- What becomes of the line ends at the end of a block. -/
inductive Chomping where
  | strip
  | clip
  | keep
deriving DecidableEq, Repr

/-- The head of a block scalar. -/
structure BlockHeader where
  folded : Bool
  chomping : Chomping := .clip
  /-- How much more the block is indented than what holds it. -/
  indentation : Option Nat := none

/-- The chomping that a character stands for. -/
def Chomping.ofChar? : Char → Option Chomping
  | '-' => some .strip
  | '+' => some .keep
  | _ => none

/-- Reads what a header says about the line ends. -/
def BlockHeader.readChomping (h : BlockHeader) (c : Cursor) : BlockHeader × Cursor :=
  match c.rest.head?.bind Chomping.ofChar? with
  | some chomping => ({ h with chomping }, c.next)
  | none => (h, c)

/-- Reads what a header says about the indentation. -/
def BlockHeader.readIndentation (start : Mark) (h : BlockHeader) (c : Cursor) :
    Except Fault (BlockHeader × Cursor) :=
  match c.rest with
  | d :: _ =>
      if d == '0' then .error ⟨.zeroIndentation, start⟩
      else if Number.isDigit d then
        .ok ({ h with indentation := some (d.toNat - '0'.toNat) }, c.next)
      else .ok (h, c)
  | [] => .ok (h, c)

/-- The header of a block from its `|` or `>` on, and the place of the line
behind it. -/
def blockHeader (c : Cursor) : Except Fault (BlockHeader × Cursor) := do
  let h : BlockHeader := { folded := c.rest.head? == some '>' }
  let (marked, behind) := h.readChomping c.next
  let (h, behind) ← marked.readIndentation c.mark behind
  let (h, behind) :=
    if marked.chomping = .clip ∧ h.indentation.isSome then h.readChomping behind
    else (h, behind)
  let behind := behind.skipRemark
  if atLineEnd behind.rest then return (h, behind.skipBreak)
  else throw ⟨.oddBlockHeader, c.mark⟩

-- ================================================================== lines

/-- Passes blank lines and the indentation of the next line; no indentation
given takes all blanks. Answers how many lines were passed, the place, and
the widest indentation. -/
def skipIndentation (indent : Option Nat) (widest : Nat) :
    (fuel : Nat) → Cursor → Except Fault (Nat × Nat × Cursor)
  | 0, c => .ok (0, widest, c)
  | fuel + 1, c =>
      let blanks := (c.rest.takeWhile (· == ' ')).length
      let wanted := (indent.map (· - c.column)).getD blanks
      let c := c.advance (min blanks wanted)
      let widest := max widest c.column
      let inside : Bool := (indent.map fun n => decide (c.column < n)).getD true
      match c.rest with
      | ch :: _ =>
          if inside && ch == '\t' then c.fail .blockTab
          else if isBreak ch then do
            let (lines, widest, c) ← skipIndentation indent widest fuel c.skipBreak
            return (lines + 1, widest, c)
          else .ok (0, widest, c)
      | [] => .ok (0, widest, c)

/-- The lines of a block: each with the number of blank lines before it;
then whether the last one ends, and the blank lines behind it. -/
structure BlockLines where
  lines : List (Nat × List Char) := []
  ended : Bool := false
  after : Nat := 0

/-- The lines at an indentation; `blanks` of them were passed already. -/
def blockLines (indent : Nat) : (fuel : Nat) → (blanks : Nat) → Cursor →
    Except Fault (BlockLines × Cursor)
  | 0, blanks, c => .ok ({ after := blanks }, c)
  | fuel + 1, blanks, c => do
      if c.column ≠ indent ∨ c.rest.isEmpty then return ({ ended := true, after := blanks }, c)
      let line := c.rest.takeWhile fun ch => !isBreak ch
      let behind := c.advance line.length
      if behind.rest.isEmpty then return ({ lines := [(blanks, line)] }, behind)
      let (more, _, next) ←
        skipIndentation (some indent) 0 (behind.rest.length + 1) behind.skipBreak
      let (found, c) ← blockLines indent fuel more next
      return ({ found with lines := (blanks, line) :: found.lines }, c)

-- =================================================================== text

/-- Begins with white space. -/
def isSetOff (line : List Char) : Bool := (line.head?.map isBlank).getD false

/-- The text of further lines behind a line. Between two lines of a folded
block that do not begin with white space the line end becomes a blank, or is
dropped if blank lines stand between them. -/
def joinLines (folded : Bool) (last : List Char) : List (Nat × List Char) → List Char
  | [] => []
  | (blanks, line) :: rest =>
      let seam : List Char :=
        if folded && !isSetOff last && !isSetOff line then
          if blanks = 0 then [' '] else List.replicate blanks '\n'
        else List.replicate (blanks + 1) '\n'
      seam ++ line ++ joinLines folded line rest

/-- The text of a block. -/
def BlockLines.text (b : BlockLines) (h : BlockHeader) : List Char :=
  match b.lines with
  | [] => if h.chomping = .keep then List.replicate b.after '\n' else []
  | (blanks, line) :: rest =>
      let ending := if b.ended then 1 else 0
      let kept := match h.chomping with
        | .strip => 0
        | .clip => ending
        | .keep => ending + b.after
      List.replicate blanks '\n' ++ line ++ joinLines h.folded line rest
        ++ List.replicate kept '\n'

/-- A block scalar from its `|` or `>` on, inside what lies at the column
`parent`; the mark is that of its first line. -/
def blockScalar (parent : Option Nat) (c : Cursor) : Except Fault (Mark × String × Cursor) := do
  let (h, c) ← blockHeader c
  let given := h.indentation.map (· + parent.getD 0)
  let (blanks, widest, first) ← skipIndentation given 0 (c.rest.length + 1) c
  let least := (parent.map (· + 1)).getD 1
  let indent := given.getD (max widest (max least 1))
  let (b, behind) ← blockLines indent (first.rest.length + 1) blanks first
  return (first.mark, String.ofList (b.text h), behind)

end CameraDriver.Yaml
