/-
The tokens of a TOML text, and going through a text token by token. Blanks
count as a token, and so does the end of the text.
-/
import CameraDriver.Toml.Text

namespace CameraDriver.Toml

/-- A token. -/
inductive Token where
  | fileEnd
  | newline
  | blanks (text : List Char)
  | comment
  | equals
  | period
  | comma
  | colon
  | plus
  | leftBrace
  | rightBrace
  | leftBracket
  | rightBracket
  /-- Letters, digits, dashes and underscores. -/
  | word (text : List Char)
  | text (value : String) (multiline : Bool)
deriving DecidableEq, Repr

namespace Token

/-- What a token is called. -/
def described : Token → String
  | .fileEnd => "eof"
  | .newline => "a newline"
  | .blanks _ => "whitespace"
  | .comment => "a comment"
  | .equals => "an equals"
  | .period => "a period"
  | .comma => "a comma"
  | .colon => "a colon"
  | .plus => "a plus"
  | .leftBrace => "a left brace"
  | .rightBrace => "a right brace"
  | .leftBracket => "a left bracket"
  | .rightBracket => "a right bracket"
  | .word _ => "an identifier"
  | .text _ multiline => if multiline then "a multiline string" else "a string"

/-- A character of a word. -/
def isWordChar (c : Char) : Bool := c.isAlphanum || c == '_' || c == '-'

/-- The rest behind the characters of a comment. -/
def skipComment (cs : List Char) : List Char := cs.dropWhile fun c => c == '\t' || ' ' ≤ c

/-- The token of a single character. -/
def mark? : Char → Option Token
  | '=' => some .equals
  | '.' => some .period
  | ',' => some .comma
  | ':' => some .colon
  | '+' => some .plus
  | '\x7b' => some .leftBrace
  | '\x7d' => some .rightBrace
  | '[' => some .leftBracket
  | ']' => some .rightBracket
  | _ => none

/-- The quotes that a character opens. -/
def quote? : Char → Option Quote
  | '"' => some .basic
  | '\x27' => some .literal
  | _ => none

/-- The first token of a text, and the rest. -/
def first (cs : List Char) : Except Fault (Token × List Char) :=
  match lineEnd? cs, cs with
  | some rest, _ => .ok (.newline, rest)
  | none, [] => .ok (.fileEnd, [])
  | none, c :: rest =>
      match mark? c, quote? c with
      | some token, _ => .ok (token, rest)
      | none, some quote => do
          let (value, multiline, rest) ← readText quote cs
          return (.text value multiline, rest)
      | none, none =>
          if c == '#' then .ok (.comment, skipComment rest)
          else if isInline c then
            let blanks := cs.takeWhile isInline
            .ok (.blanks blanks, cs.drop blanks.length)
          else if isWordChar c then
            let word := cs.takeWhile isWordChar
            .ok (.word word, cs.drop word.length)
          else fail cs (.unexpectedCharacter c)

end Token

-- ================================================================ reading

/-- Reading from a text; the state is what is unread. -/
abbrev Reading := StateT (List Char) (Except Fault)

namespace Reading

/-- A fault here. -/
def failHere (cause : Cause) : Reading α := do fail (← get) cause

/-- A fault where a number of characters were unread. -/
def failBack (unread : Nat) (cause : Cause) : Reading α :=
  throw { cause, unread := some unread }

/-- How many characters are unread. -/
def unread : Reading Nat := do return (← get).length

/-- The next token, which stays. -/
def peek : Reading Token := do return (← Token.first (← get)).1

/-- Passes the next token. -/
def next : Reading Token := do
  let (token, rest) ← Token.first (← get)
  set rest
  return token

/-- Passes the next token if it is a given one; answers whether it is. -/
def take (token : Token) : Reading Bool := do
  let (found, rest) ← Token.first (← get)
  if found == token then set rest
  return found == token

/-- The next token, which stands where `wanted` should, is the fault. -/
def failWanted (wanted : String) : Reading α := do
  failHere (.wanted wanted (← peek).described)

/-- Passes a token that has to come next. -/
def expect (token : Token) : Reading Unit := do
  if !(← take token) then failWanted token.described

/-- Passes blanks. -/
def skipBlanks : Reading Unit := modify fun cs => cs.dropWhile isInline

/-- Passes the end of a line or of the text. -/
def endLine : Reading Unit := do
  match ← peek with
  | .newline => let _ ← next
  | .fileEnd => pure ()
  | _ => failWanted "newline"

/-- Passes a comment and its line end; answers whether there is one. -/
def takeComment : Reading Bool := do
  match ← get with
  | '#' :: rest =>
      set (Token.skipComment rest)
      endLine
      return true
  | _ => return false

/-- Passes what may stand behind a statement on its line. -/
def finishLine : Reading Unit := do
  skipBlanks
  if !(← takeComment) then endLine

/-- Passes blanks, comments and line ends. -/
def skipLines : (fuel : Nat) → Reading Unit
  | 0 => pure ()
  | fuel + 1 => do
      skipBlanks
      if ← takeComment then skipLines fuel
      else if ← take .newline then skipLines fuel

/-- A single name of a key, bare or quoted. -/
def name : Reading String := do
  let start ← unread
  match ← peek with
  | .word text => let _ ← next; return String.ofList text
  | .text value multiline =>
      if multiline then failBack start .multilineKey
      let _ ← next
      return value
  | _ => failWanted "a table key"

/-- The names of a key behind its first one, points between them. -/
def moreNames : (fuel : Nat) → Reading (List String)
  | 0 => return []
  | fuel + 1 => do
      skipBlanks
      if ← take .period then
        skipBlanks
        let first ← name
        return first :: (← moreNames fuel)
      else return []

/-- A key: names with points between them, blanks around the points
allowed. -/
def key : Reading (String × List String) := do
  let first ← name
  return (first, ← moreNames (← unread))

end Reading

end CameraDriver.Toml
