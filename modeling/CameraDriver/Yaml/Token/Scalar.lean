/-
Plain and quoted scalars. Line ends inside them are folded, and white space
around a line end does not count.
-/
import CameraDriver.Text.Hex
import CameraDriver.Yaml.Cursor

namespace CameraDriver.Yaml

-- ================================================================== plain

/-- The characters of a plain scalar up to a gap, to a colon with a gap
behind it or, in a flow collection, to a flow mark. -/
def plainWord (flow : Bool) : List Char → List Char
  | [] => []
  | c :: rest =>
      let colon := c == ':' && (atGap rest || (flow && atFlowMark rest))
      if isSpace c || colon || (flow && isFlowMark c) then [] else c :: plainWord flow rest

/-- A tab that lies left of the indentation on a line that a gap begins. -/
def tabBefore (indent : Nat) (c : Cursor) (length : Nat) : Bool :=
  let lines := (c.trail length).dropWhile fun d => !(d.rest.head?.map isBreak).getD false
  lines.any fun d => d.rest.head? == some '\t' && d.column < indent

/-- The words of a plain scalar behind its first, as long as they are
indented; whether a line end came behind the last of them; and the place of
what follows. -/
def plainWords (flow : Bool) (indent : Nat) (start : Mark) :
    (fuel : Nat) → Cursor → Except Fault (List Char × Bool × Cursor)
  | 0, c => .ok ([], false, c)
  | fuel + 1, c => do
      let gap := c.rest.takeWhile isSpace
      let breaks := countBreaks gap
      let behind := c.advance gap.length
      if tabBefore indent c gap.length then throw ⟨.plainTab, start⟩
      let word := plainWord flow behind.rest
      if gap.isEmpty || word.isEmpty || behind.rest.head? == some '#' || behind.atMarker
          || (!flow && behind.column < indent) then
        return ([], breaks ≠ 0, behind)
      let (more, broken, c) ← plainWords flow indent start fuel (behind.advance word.length)
      return ((if breaks = 0 then gap else folded breaks) ++ word ++ more, broken, c)

/-- A plain scalar. -/
def plainScalar (flow : Bool) (indent : Nat) (c : Cursor) :
    Except Fault (String × Bool × Cursor) := do
  let word := plainWord flow c.rest
  let (more, broken, behind) ←
    plainWords flow indent c.mark c.rest.length (c.advance word.length)
  return (String.ofList (word ++ more), broken, behind)

-- ================================================================= quoted

/-- The character that stands for a letter behind a backslash. -/
def escaped? : Char → Option Char
  | '0' => some '\x00'
  | 'a' => some '\x07'
  | 'b' => some '\x08'
  | 't' => some '\t'
  | '\t' => some '\t'
  | 'n' => some '\n'
  | 'v' => some '\x0b'
  | 'f' => some '\x0c'
  | 'r' => some '\r'
  | 'e' => some '\x1b'
  | ' ' => some ' '
  | '"' => some '"'
  | '\x27' => some '\x27'
  | '\\' => some '\\'
  | 'N' => some '\u0085'
  | '_' => some '\u00a0'
  | 'L' => some '\u2028'
  | 'P' => some '\u2029'
  | _ => none

/-- How many hexadecimal digits follow a letter behind a backslash. -/
def escapeDigits? : Char → Option Nat
  | 'x' => some 2
  | 'u' => some 4
  | 'U' => some 8
  | _ => none

/-- The character with a code point. -/
def charOf? (n : Nat) : Option Char :=
  if n < 0xD800 ∨ (0xDFFF < n ∧ n ≤ 0x10FFFF) then some (Char.ofNat n) else none

/-- The character that the text behind a backslash stands for, and how many
characters stand for it. -/
def readEscape : List Char → Except Cause (Char × Nat)
  | [] => .error .unknownEscape
  | mark :: rest =>
      match escaped? mark, escapeDigits? mark with
      | some ch, _ => .ok (ch, 1)
      | none, none => .error .unknownEscape
      | none, some count =>
          let digits := rest.take count
          if digits.length < count then .error .noHexadecimal
          else match Text.Hex.number? digits with
            | none => .error .noHexadecimal
            | some n => match charOf? n with
                | none => .error .oddCodePoint
                | some ch => .ok (ch, count + 1)

/-- The rest of a quoted scalar that began at `start`. An escaped line end
joins two lines. -/
def quotedRest (double : Bool) (start : Mark) :
    (fuel : Nat) → Cursor → Except Fault (List Char × Cursor)
  | 0, _ => .error ⟨.quotedEnd, start⟩
  | fuel + 1, c => do
      if c.atMarker then throw ⟨.quotedMarker, start⟩
      match c.rest with
      | [] => throw ⟨.quotedEnd, start⟩
      | ch :: rest =>
          if isSpace ch then
            let gap := c.rest.takeWhile isSpace
            let breaks := countBreaks gap
            let (more, c) ← quotedRest double start fuel (c.advance gap.length)
            return ((if breaks = 0 then gap else folded breaks) ++ more, c)
          else if !double && ch == '\x27' && rest.head? == some '\x27' then
            let (more, c) ← quotedRest double start fuel (c.advance 2)
            return ('\x27' :: more, c)
          else if ch == (if double then '"' else '\x27') then return ([], c.next)
          else if double && ch == '\\' then
            if (rest.head?.map isBreak).getD false then
              let line := c.next.skipBreak
              let gap := line.rest.takeWhile isSpace
              let (more, c) ← quotedRest double start fuel (line.advance gap.length)
              return (List.replicate (countBreaks gap) '\n' ++ more, c)
            else
              match readEscape rest with
              | .error cause => throw ⟨cause, start⟩
              | .ok (ch, length) =>
                  let (more, c) ← quotedRest double start fuel (c.next.advance length)
                  return (ch :: more, c)
          else
            let (more, c) ← quotedRest double start fuel c.next
            return (ch :: more, c)

/-- A quoted scalar from its opening quote on. -/
def quotedScalar (c : Cursor) : Except Fault (String × Cursor) := do
  let double := c.rest.head? == some '"'
  let (cs, behind) ← quotedRest double c.mark c.rest.length c.next
  return (String.ofList cs, behind)

end CameraDriver.Yaml
