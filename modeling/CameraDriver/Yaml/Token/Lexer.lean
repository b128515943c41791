/-
Finding the tokens of a YAML text.

# Keys

A key without a mark of its own is known as one only when a colon follows.
Where a key can begin, the place is kept as a candidate, one for each level
of nested flow collections, and the token there and those behind it wait
until the colon comes or cannot come any more: it must follow on the same
line and within 1024 characters.

# Indentation

The columns of the open block collections are kept, the innermost first. A
token left of a column closes the collection.
-/
import CameraDriver.Yaml.Token
import CameraDriver.Yaml.Token.Block
import CameraDriver.Yaml.Token.Property

namespace CameraDriver.Yaml

/-- A place where a key may have begun. -/
structure Candidate where
  /-- Which of all tokens it is. -/
  number : Nat
  /-- It can be nothing but a key. -/
  required : Bool
  index : Nat
  mark : Mark
deriving Repr

/-- What is found so far. -/
structure Lexer where
  cursor : Cursor
  /-- How many tokens were given out. -/
  given : Nat := 0
  /-- The tokens that were found and not given out. -/
  waiting : List Lexeme := []
  /-- The columns of the open block collections, the innermost first. -/
  columns : List Nat := []
  /-- The number of open flow collections. -/
  depth : Nat := 0
  keyAllowed : Bool := true
  /-- The candidate of every level, the innermost first. -/
  candidates : List (Option Candidate) := [none]
  /-- The number of characters before the end of the last quoted scalar: in
  a flow collection its value can follow without a gap. -/
  quotedEnd : Nat := 0

namespace Lexer

/-- At most so many flow collections are open at a time. -/
def maxDepth : Nat := 255

/-- The greatest number of characters of a key. -/
def maxKey : Nat := 1024

/-- A fault at the cursor. -/
def fail (s : Lexer) (cause : Cause) : Except Fault α := s.cursor.fail cause

/-- One more token behind those that wait. -/
def push (s : Lexer) (mark : Mark) (token : Token) : Lexer :=
  { s with waiting := s.waiting ++ [(mark, token)] }

/-- A token of some characters at the cursor. -/
def pushHere (s : Lexer) (length : Nat) (token : Token) : Lexer :=
  { s.push s.cursor.mark token with cursor := s.cursor.advance length }

/-- Puts tokens in front of the token with a number. -/
def insertAt (s : Lexer) (number : Nat) (lexemes : List Lexeme) : Lexer :=
  let place := number - s.given
  { s with waiting := s.waiting.take place ++ lexemes ++ s.waiting.drop place }

-- ============================================================= candidates

/-- The colon of a candidate can not come any more. -/
def isStale (s : Lexer) (c : Candidate) : Bool :=
  c.mark.line < s.cursor.mark.line || c.index + maxKey < s.cursor.index

/-- Gives up the candidates whose colon can not come any more. -/
def dropStale (s : Lexer) : Except Fault Lexer :=
  let stale (c : Option Candidate) : Bool := (c.map s.isStale).getD false
  if s.candidates.any fun c => stale c && (c.map (·.required)).getD false then
    s.fail .colonExpected
  else .ok { s with candidates := s.candidates.map fun c => if stale c then none else c }

/-- Gives up the innermost candidate. -/
def dropCandidate (s : Lexer) : Except Fault Lexer :=
  match s.candidates with
  | some c :: outer =>
      if c.required then s.fail .keyExpected else .ok { s with candidates := none :: outer }
  | _ => .ok s

/-- Keeps the place as a candidate if a key can begin here. -/
def noteCandidate (s : Lexer) : Except Fault Lexer := do
  if !s.keyAllowed then return s
  let s ← s.dropCandidate
  let candidate : Candidate :=
    { number := s.given + s.waiting.length
      required := s.depth ≠ 0 && s.columns.head? == some s.cursor.column
      index := s.cursor.index
      mark := s.cursor.mark }
  return { s with candidates := some candidate :: s.candidates.tail }

/-- The next token may still turn out to be a key. -/
def isAwaited (s : Lexer) : Bool :=
  s.candidates.any fun c => (c.map (·.number)) == some s.given

-- ============================================================ indentation

/-- A new block collection begins at a column. -/
def opensAt (s : Lexer) (column : Nat) : Bool :=
  s.depth = 0 && (s.columns.head?.map fun inner => decide (inner < column)).getD true

/-- Opens a block collection at the cursor unless one is open there. -/
def openBlock (s : Lexer) (token : Token) : Lexer :=
  let column := s.cursor.column
  if s.opensAt column then
    { s.push s.cursor.mark token with columns := column :: s.columns }
  else s

/-- Closes the block collections that `outside` holds of. -/
def closeBlocks (s : Lexer) (outside : Nat → Bool) : Lexer :=
  if s.depth ≠ 0 then s
  else
    let closed := s.columns.takeWhile outside
    { s with
      waiting := s.waiting ++ closed.map fun _ => (s.cursor.mark, .blockEnd)
      columns := s.columns.drop closed.length }

/-- Closes all block collections, where nothing goes on. -/
def closeAll (s : Lexer) : Except Fault Lexer := do
  let s ← (s.closeBlocks fun _ => true).dropCandidate
  return { s with keyAllowed := false }

-- ================================================================= tokens

/-- Passes white space, line ends and comments. A tab may stand before a
token only where no key can begin. -/
def skipGap : (fuel : Nat) → Lexer → Lexer
  | 0, s => s
  | fuel + 1, s =>
      let c := s.cursor
      match c.rest with
      | [] => s
      | ch :: _ =>
          if ch == ' ' || (ch == '\t' && (s.depth ≠ 0 || !s.keyAllowed)) then
            skipGap fuel { s with cursor := c.next }
          else if isBreak ch then
            skipGap fuel { s with cursor := c.skipBreak, keyAllowed := s.keyAllowed || s.depth = 0 }
          else if ch == '#' then skipGap fuel { s with cursor := c.skipLine }
          else s

/-- The end of the text, on a line of its own. -/
def atEnd (s : Lexer) : Except Fault Lexer := do
  let mark := s.cursor.mark
  let mark := if mark.column = 0 then mark else ⟨mark.line + 1, 0⟩
  let s ← { s with cursor := { s.cursor with mark } }.closeAll
  return s.pushHere 0 .textEnd

/-- A directive. -/
def directive (s : Lexer) : Except Fault Lexer := do
  let s ← s.closeAll
  let behind ← readDirective s.cursor
  return { s.push s.cursor.mark .directive with cursor := behind }

/-- A marker between documents. -/
def marker (s : Lexer) (token : Token) : Except Fault Lexer := do
  let s ← s.closeAll
  return s.pushHere 3 token

/-- The opening mark of a flow collection. -/
def openFlow (s : Lexer) (token : Token) : Except Fault Lexer := do
  let s ← s.noteCandidate
  if s.depth = maxDepth then s.fail .tooDeep
  else
    let s := s.pushHere 1 token
    return { s with
      candidates := none :: s.candidates, depth := s.depth + 1, keyAllowed := true }

/-- The closing mark of a flow collection. -/
def closeFlow (s : Lexer) (token : Token) : Except Fault Lexer := do
  let s ← s.dropCandidate
  let s := { s.pushHere 1 token with keyAllowed := false }
  return if s.depth = 0 then s
    else { s with depth := s.depth - 1, candidates := s.candidates.tail }

/-- The comma of a flow collection. -/
def comma (s : Lexer) : Except Fault Lexer := do
  let s ← s.dropCandidate
  return { s.pushHere 1 .comma with keyAllowed := true }

/-- The dash of an item. -/
def dash (s : Lexer) : Except Fault Lexer := do
  if s.depth ≠ 0 then s.fail .dashInFlow
  else if !s.keyAllowed then s.fail .dashNotAllowed
  else
    let s ← (s.openBlock .blockSequence).dropCandidate
    return { s.pushHere 1 .dash with keyAllowed := true }

/-- The question mark of a key. -/
def keyMark (s : Lexer) : Except Fault Lexer := do
  if s.depth = 0 && !s.keyAllowed then s.fail .keyNotAllowed
  else
    let s ← (s.openBlock .blockMapping).dropCandidate
    return { s.pushHere 1 .key with keyAllowed := s.depth = 0 }

/-- The colon of a value. If there is a candidate for its key, the tokens
that the key begins with are put in front of it. -/
def valueMark (s : Lexer) : Except Fault Lexer := do
  match s.candidates with
  | some c :: outer =>
      let opens := s.opensAt c.mark.column
      let start : List Lexeme := if opens then [(s.cursor.mark, .blockMapping)] else []
      let s := { s.insertAt c.number (start ++ [(c.mark, .key)]) with
        candidates := none :: outer
        columns := if opens then c.mark.column :: s.columns else s.columns }
      return { s.pushHere 1 .value with keyAllowed := false }
  | _ =>
      if s.depth = 0 && !s.keyAllowed then s.fail .valueNotAllowed
      else return { (s.openBlock .blockMapping).pushHere 1 .value with keyAllowed := s.depth = 0 }

/-- An anchor or an alias. -/
def name (s : Lexer) (token : String → Token) : Except Fault Lexer := do
  let s ← s.noteCandidate
  let (name, behind) ← nameBehind s.cursor
  return { s.push s.cursor.mark (token name) with cursor := behind, keyAllowed := false }

/-- A tag. -/
def tag (s : Lexer) : Except Fault Lexer := do
  let s ← s.noteCandidate
  let (core, behind) ← readTag s.cursor
  return { s.push s.cursor.mark (.tag core) with cursor := behind, keyAllowed := false }

/-- A block scalar. -/
def block (s : Lexer) : Except Fault Lexer := do
  let s ← s.noteCandidate
  let (mark, text, behind) ← blockScalar s.columns.head? s.cursor
  return { s.push mark (.scalar false text) with cursor := behind, keyAllowed := true }

/-- A quoted scalar. -/
def quoted (s : Lexer) : Except Fault Lexer := do
  let s ← s.noteCandidate
  let (text, behind) ← quotedScalar s.cursor
  return { s.push s.cursor.mark (.scalar false text) with
    cursor := behind, keyAllowed := false, quotedEnd := behind.index }

/-- A plain scalar. -/
def plain (s : Lexer) : Except Fault Lexer := do
  let s ← s.noteCandidate
  let indent := (s.columns.head?.map (· + 1)).getD 0
  let (text, broken, behind) ← plainScalar (s.depth ≠ 0) indent s.cursor
  return { s.push s.cursor.mark (.scalar true text) with cursor := behind, keyAllowed := broken }

/-- The token at the cursor. -/
def atToken (s : Lexer) : Except Fault Lexer :=
  let c := s.cursor
  let flow := s.depth ≠ 0
  match c.rest with
  | [] => s.atEnd
  | ch :: rest =>
      if c.column = 0 && ch == '%' then s.directive
      else if c.atTriple '-' then s.marker .documentStart
      else if c.atTriple '.' then s.marker .documentEnd
      else match ch with
        | '[' => s.openFlow .flowSequence
        | '\x7b' => s.openFlow .flowMapping
        | ']' => s.closeFlow .flowSequenceEnd
        | '\x7d' => s.closeFlow .flowMappingEnd
        | ',' => s.comma
        | '*' => s.name .alias
        | '&' => s.name .anchor
        | '!' => s.tag
        | '\x27' => s.quoted
        | '"' => s.quoted
        | '-' => if atGap rest then s.dash else s.plain
        | '?' => if atGap rest then s.keyMark else s.plain
        | ':' =>
            if atGap rest || (flow && (atFlowMark rest || c.index = s.quotedEnd)) then s.valueMark
            else s.plain
        | '|' => if flow then s.plain else s.block
        | '>' => if flow then s.plain else s.block
        | '%' => s.fail (.unexpectedCharacter ch)
        | '@' => s.fail (.unexpectedCharacter ch)
        | '\x60' => s.fail (.unexpectedCharacter ch)
        | _ => s.plain

/-- Finds the next token. -/
def find (s : Lexer) : Except Fault Lexer := do
  let s ← (s.skipGap s.cursor.rest.length).dropStale
  (s.closeBlocks fun column => s.cursor.column < column).atToken

/-- Gives out the next token, or finds one more if it is not settled yet. -/
def step (s : Lexer) : Except Fault (Option Lexeme × Lexer) := do
  match s.waiting with
  | [] => return (none, ← s.find)
  | lexeme :: waiting =>
      let s ← s.dropStale
      if s.isAwaited then return (none, ← s.find)
      else return (some lexeme, { s with given := s.given + 1, waiting })

/-- All tokens from here on. -/
def run : (fuel : Nat) → Lexer → Tokens
  | 0, s => ⟨[], .ok s.cursor.mark⟩
  | fuel + 1, s =>
      match s.step with
      | .error f => ⟨[], .error f⟩
      | .ok (none, s) => run fuel s
      | .ok (some (mark, .textEnd), _) => ⟨[], .ok mark⟩
      | .ok (some lexeme, s) => (run fuel s).cons lexeme

end Lexer

/-- The tokens of a text. A character comes with at most five tokens: a
colon with the beginning of a mapping, its key and the value, and what it
opens is closed in the end. -/
def Tokens.ofText (text : String) : Tokens :=
  let cs := text.toList.takeWhile (· ≠ '\x00')
  Lexer.run (6 * (cs.length + 2)) { cursor := { rest := cs } }

end CameraDriver.Yaml
