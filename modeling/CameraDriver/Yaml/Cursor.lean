/-
Going through a YAML text character by character, with the line and the
column. A carriage return ends a line like a line feed, but only a line feed
counts as the start of a new one.
-/
import CameraDriver.Yaml.Fault

namespace CameraDriver.Yaml

-- ============================================================= characters

/-- White space inside a line. -/
def isBlank (c : Char) : Bool := c == ' ' || c == '\t'

/-- A character that ends a line. -/
def isBreak (c : Char) : Bool := c == '\n' || c == '\r'

/-- White space or the end of a line. -/
def isSpace (c : Char) : Bool := isBlank c || isBreak c

/-- A character with a meaning inside a flow collection. -/
def isFlowMark (c : Char) : Bool :=
  c == ',' || c == '[' || c == ']' || c == '\x7b' || c == '\x7d'

/-- A character of a name. -/
def isNameChar (c : Char) : Bool := c.isAlphanum || c == '_' || c == '-'

/-- Nothing or space comes next. -/
def atGap (cs : List Char) : Bool := (cs.head?.map isSpace).getD true

/-- The line ends here. -/
def atLineEnd (cs : List Char) : Bool := (cs.head?.map isBreak).getD true

/-- A flow mark comes next. -/
def atFlowMark (cs : List Char) : Bool := (cs.head?.map isFlowMark).getD false

/-- How many line ends a text has; a carriage return and a line feed are
one. -/
def countBreaks : List Char → Nat
  | [] => 0
  | '\r' :: '\n' :: rest => countBreaks rest + 1
  | c :: rest => if isBreak c then countBreaks rest + 1 else countBreaks rest

/-- What a number of line ends inside a scalar become: one becomes a blank,
of several the first is dropped. -/
def folded : Nat → List Char
  | 0 => []
  | 1 => [' ']
  | n + 2 => List.replicate (n + 1) '\n'

-- ================================================================ cursors

/-- What is unread, how many characters came before it, and its place. -/
structure Cursor where
  rest : List Char
  index : Nat := 0
  mark : Mark := {}

namespace Cursor

/-- A fault here. -/
def fail (c : Cursor) (cause : Cause) : Except Fault α := .error ⟨cause, c.mark⟩

/-- The column. -/
abbrev column (c : Cursor) : Nat := c.mark.column

/-- The place behind the next character. -/
def next (c : Cursor) : Cursor :=
  match c.rest with
  | [] => c
  | '\n' :: rest => ⟨rest, c.index + 1, ⟨c.mark.line + 1, 0⟩⟩
  | _ :: rest => ⟨rest, c.index + 1, { c.mark with column := c.mark.column + 1 }⟩

/-- The place behind a number of characters. -/
def advance (c : Cursor) : Nat → Cursor
  | 0 => c
  | n + 1 => c.next.advance n

/-- The places of a number of characters. -/
def trail (c : Cursor) : Nat → List Cursor
  | 0 => []
  | n + 1 => c :: c.next.trail n

/-- The place behind all characters of a kind. -/
def skipWhile (c : Cursor) (p : Char → Bool) : Cursor := c.advance (c.rest.takeWhile p).length

/-- The place behind white space in the line. -/
def skipBlanks (c : Cursor) : Cursor := c.skipWhile isBlank

/-- The place at the end of the line. -/
def skipLine (c : Cursor) : Cursor := c.skipWhile fun ch => !isBreak ch

/-- The place behind white space and a comment in the line. -/
def skipRemark (c : Cursor) : Cursor :=
  let c := c.skipBlanks
  if c.rest.head? == some '#' then c.skipLine else c

/-- The place behind a line end. -/
def skipBreak (c : Cursor) : Cursor :=
  match c.rest with
  | '\r' :: '\n' :: _ => c.next.next
  | ch :: _ => if isBreak ch then c.next else c
  | [] => c

/-- Three times a character and a gap begin a line here. -/
def atTriple (c : Cursor) (ch : Char) : Bool :=
  c.column == 0 && c.rest.take 3 == [ch, ch, ch] && atGap (c.rest.drop 3)

/-- A marker between documents begins here. -/
def atMarker (c : Cursor) : Bool := c.atTriple '-' || c.atTriple '.'

end Cursor

end CameraDriver.Yaml
