/-
Texts of TOML: basic ones, with escapes, between double quotes, and literal
ones between single quotes. Three quotes make a text of several lines, in
which the line end right after the opening quotes does not count.
-/
import CameraDriver.Toml.Fault

namespace CameraDriver.Toml

/-- The two kinds of texts. -/
inductive Quote where
  | basic
  | literal
deriving DecidableEq, Repr

/-- The character that opens and closes a text. -/
def Quote.mark : Quote → Char
  | .basic => '"'
  | .literal => '\x27'

-- ================================================================ escapes

/-- A character that may stand in a text as it is. -/
def isPlain (c : Char) : Bool := c == '\t' || (' ' ≤ c && c.toNat ≠ 0x7F)

/-- The rest behind a line end, if one comes next. -/
def lineEnd? : List Char → Option (List Char)
  | '\n' :: rest => some rest
  | '\r' :: '\n' :: rest => some rest
  | _ => none

/-- White space inside a line. -/
def isInline (c : Char) : Bool := c == ' ' || c == '\t'

/-- The rest behind white space and line ends. -/
def skipSpace : List Char → List Char
  | '\r' :: '\n' :: rest => skipSpace rest
  | c :: rest => if isInline c || c == '\n' then skipSpace rest else c :: rest
  | [] => []

/-- A fault at the next character, in which a line end is a line feed. -/
def failAt (cs : List Char) (cause : Char → Cause) : Except Fault α :=
  match lineEnd? cs, cs with
  | some _, _ => fail cs (cause '\n')
  | none, c :: _ => fail cs (cause c)
  | none, [] => fail cs .unterminatedText

/-- The number of as many hexadecimal digits as are asked for, in a text that
begins at `start`. -/
def readHex (start : List Char) : (count acc : Nat) → List Char → Except Fault (Nat × List Char)
  | 0, acc, cs => .ok (acc, cs)
  | _ + 1, _, [] => fail start .unterminatedText
  | count + 1, acc, c :: rest =>
      match Text.Hex.digit? c with
      | some d => readHex start count (acc * 16 + d) rest
      | none => failAt (c :: rest) .invalidHexEscape

/-- The character with a code point read in hexadecimal. A code point that
is none is reported at `mark`. -/
def readCodePoint (start mark : List Char) (count : Nat) (cs : List Char) :
    Except Fault (List Char × List Char) := do
  let (n, rest) ← readHex start count 0 cs
  if n < 0xD800 ∨ (0xDFFF < n ∧ n ≤ 0x10FFFF) then return ([Char.ofNat n], rest)
  else fail mark (.invalidEscapeValue n)

/-- What a backslash and the characters behind it stand for; a backslash at
the end of a line stands for nothing and takes the white space behind it. -/
def readEscape (start : List Char) (multiline : Bool) (cs : List Char) :
    Except Fault (List Char × List Char) :=
  match cs with
  | [] => fail start .unterminatedText
  | '"' :: rest => .ok (['"'], rest)
  | '\\' :: rest => .ok (['\\'], rest)
  | 'b' :: rest => .ok (['\x08'], rest)
  | 'f' :: rest => .ok (['\x0c'], rest)
  | 'n' :: rest => .ok (['\n'], rest)
  | 'r' :: rest => .ok (['\r'], rest)
  | 't' :: rest => .ok (['\t'], rest)
  | 'u' :: rest => readCodePoint start cs 4 rest
  | 'U' :: rest => readCodePoint start cs 8 rest
  | _ =>
      let line := cs.dropWhile isInline
      if !multiline then failAt cs .invalidEscape
      else match lineEnd? line with
        | some rest => .ok ([], skipSpace rest)
        | none => if line.isEmpty then .ok ([], []) else failAt cs .invalidEscape

-- ================================================================== texts

/-- How many more quotes, up to two, belong to a text that three quotes are
about to close. -/
def surplus (mark : Char) : List Char → Nat
  | a :: b :: _ => if a = mark then (if b = mark then 2 else 1) else 0
  | [a] => if a = mark then 1 else 0
  | [] => 0

/-- The rest of a text up to its closing quotes. `start` is where it opened. -/
def readBody (quote : Quote) (multiline : Bool) (start : List Char) :
    (fuel : Nat) → List Char → Except Fault (List Char × List Char)
  | 0, _ => fail start .unterminatedText
  | fuel + 1, cs => do
      let mark := quote.mark
      match lineEnd? cs, cs with
      | some rest, _ =>
          if !multiline then fail cs .newlineInText
          else
            let (more, rest) ← readBody quote multiline start fuel rest
            return ('\n' :: more, rest)
      | none, [] => fail start .unterminatedText
      | none, c :: rest =>
          if c = mark ∧ !multiline then return ([], rest)
          else if c = mark ∧ rest.take 2 = [mark, mark] then
            let n := surplus mark (rest.drop 2)
            return (List.replicate n mark, rest.drop (2 + n))
          else if c = '\\' ∧ quote = .basic then
            let (chars, rest) ← readEscape start multiline rest
            let (more, rest) ← readBody quote multiline start fuel rest
            return (chars ++ more, rest)
          else if c = mark ∨ isPlain c then
            let (more, rest) ← readBody quote multiline start fuel rest
            return (c :: more, rest)
          else fail cs (.invalidCharacter c)

/-- A text from its opening quote on, and whether it has several lines. -/
def readText (quote : Quote) (cs : List Char) : Except Fault (String × Bool × List Char) := do
  let mark := quote.mark
  let multiline := cs.take 3 = [mark, mark, mark]
  let body := cs.drop (if multiline then 3 else 1)
  let body := if multiline then (lineEnd? body).getD body else body
  let (chars, rest) ← readBody quote multiline cs cs.length body
  return (String.ofList chars, multiline, rest)

end CameraDriver.Toml
