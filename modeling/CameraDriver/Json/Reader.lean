/-
Reading JSON from bytes, with the position of the first fault.

# Positions

A fault is reported after some number of bytes: those consumed, the byte
that was looked at included. The line is one more than the line feeds among
them, the column the number of bytes after the last line feed.

# Termination

The reader descends at most `nesting` levels and every call consumes a byte
or ends, so it runs on fuel in proportion to the length of the text.
-/
import CameraDriver.Json.Basic
import CameraDriver.Number.Layout
import CameraDriver.Number.Numeral
import CameraDriver.Text.Hex
import CameraDriver.Text.Utf8

namespace CameraDriver.Json

open Number

/-- Why a text is not JSON. -/
inductive SyntaxCause where
  | eofValue
  | eofList
  | eofObject
  | eofString
  | expectedValue
  | expectedColon
  | expectedListEnd
  | expectedObjectEnd
  | expectedIdent
  | trailingComma
  | keyNotString
  | invalidNumber
  | numberOutOfRange
  | trailingCharacters
  | invalidEscape
  | controlCharacter
  | loneSurrogate
  | unfinishedPair
  | invalidCodePoint
  | tooDeep
deriving DecidableEq, Repr

/-- The wording of a cause. -/
def SyntaxCause.message : SyntaxCause → String
  | .eofValue => "EOF while parsing a value"
  | .eofList => "EOF while parsing a list"
  | .eofObject => "EOF while parsing an object"
  | .eofString => "EOF while parsing a string"
  | .expectedValue => "expected value"
  | .expectedColon => "expected `:`"
  | .expectedListEnd => "expected `,` or `]`"
  | .expectedObjectEnd => "expected `,` or `\x7d`"
  | .expectedIdent => "expected ident"
  | .trailingComma => "trailing comma"
  | .keyNotString => "key must be a string"
  | .invalidNumber => "invalid number"
  | .numberOutOfRange => "number out of range"
  | .trailingCharacters => "trailing characters"
  | .invalidEscape => "invalid escape"
  | .controlCharacter => "control character (\\u0000-\\u001F) found while parsing a string"
  | .loneSurrogate => "lone leading surrogate in hex escape"
  | .unfinishedPair => "unexpected end of hex escape"
  | .invalidCodePoint => "invalid unicode code point"
  | .tooDeep => "recursion limit exceeded"

/-- A fault and the number of bytes it was found after. -/
structure Fault where
  cause : SyntaxCause
  consumed : Nat
deriving DecidableEq, Repr

/-- A fault with its place in the text. -/
structure SyntaxError where
  cause : SyntaxCause
  line : Nat
  column : Nat
deriving DecidableEq, Repr

/-- The wording of an error. -/
def SyntaxError.message (e : SyntaxError) : String :=
  e.cause.message ++ " at line " ++ integerText e.line ++ " column " ++ integerText e.column

/-- The place of a fault in a text. -/
def Fault.locate (bytes : Bytes) (f : Fault) : SyntaxError :=
  let seen := bytes.take f.consumed
  { cause := f.cause
    line := 1 + seen.count 10
    column := (seen.reverse.takeWhile (· ≠ 10)).length }

/-- The unread bytes and how many were read before them. -/
structure Cursor where
  pos : Nat
  rest : Bytes

/-- A fault after the bytes read so far. -/
def Cursor.fail (c : Cursor) (cause : SyntaxCause) : Except Fault α :=
  .error ⟨cause, c.pos⟩

/-- A fault that counts the next byte as read. -/
def Cursor.failNext (c : Cursor) (cause : SyntaxCause) : Except Fault α :=
  .error ⟨cause, c.pos + 1⟩

/-- A blank between tokens. -/
def isSpace (b : UInt8) : Bool := b == 32 || b == 10 || b == 9 || b == 13

/-- The cursor behind a number of bytes. -/
def Cursor.advance (c : Cursor) (n : Nat) : Cursor := ⟨c.pos + n, c.rest.drop n⟩

/-- The cursor at the next byte that is no blank. -/
def Cursor.skipSpace (c : Cursor) : Cursor := c.advance (c.rest.takeWhile isSpace).length

/-- The ASCII code of a character. -/
def code (c : Char) : UInt8 := c.toNat.toUInt8

/-- A decimal digit. -/
def isDigitByte (b : UInt8) : Bool := 48 ≤ b && b ≤ 57

-- ================================================================= words

/-- The remaining letters of `true`, `false` or `null`. -/
def readWord : List UInt8 → Cursor → Except Fault Cursor
  | [], c => .ok c
  | w :: ws, c =>
      match c.rest with
      | [] => c.fail .eofValue
      | b :: _ => if b = w then readWord ws (c.advance 1) else c.failNext .expectedIdent

-- =============================================================== numbers

/-- The greatest exponent whose digits are still taken up. -/
def maxExponent : Nat := 2147483647

/-- The number that digits denote behind `acc`, as far as it stays below
`2 ^ 64`, and how many of the digits that takes. -/
def leadingDigits (acc : Nat) : List Char → Nat × Nat
  | [] => (acc, 0)
  | c :: rest =>
      let next := acc * 10 + (c.toNat - '0'.toNat)
      if next < Nat.pow 2 64 then
        let (value, count) := leadingDigits next rest
        (value, count + 1)
      else (acc, 0)

/-- A number from its parts: an integer if it has neither fraction nor
exponent and lies within 64 bits. Of another number the digits count that an
integer of 64 bits holds; the power of ten is applied to the floating-point
number nearest to them. -/
def number? (negative : Bool) (whole places : List Char) (exponent : Option Int) : Option Json :=
  let (n, taken) := leadingDigits 0 whole
  let double (x : Binary64) : Json := .double (if negative then x.negate else x)
  if taken = whole.length ∧ places.isEmpty ∧ exponent.isNone then
    if !negative then some (.int n)
    else if n ≠ 0 ∧ n ≤ Nat.pow 2 63 then some (.int (-(n : Int)))
    else some (double (.ofNat n))
  else
    let (n, used) := leadingDigits n places
    let power : Int := exponent.getD 0 + (whole.length - taken : Nat) - used
    ((Binary64.ofNat n).timesTenTo? power).map double

/-- Digits as characters. -/
def digitChars (bytes : Bytes) : List Char := bytes.map fun b => Char.ofNat b.toNat

/-- The exponent digits: their value, or the place where it grows too large. -/
def exponentDigits : (acc : Nat) → Cursor → Bytes → Except Cursor (Nat × Cursor)
  | acc, c, b :: rest =>
      if isDigitByte b then
        let next := acc * 10 + (b.toNat - 48)
        if maxExponent < next then .error (c.advance 1)
        else exponentDigits next (c.advance 1) rest
      else .ok (acc, c)
  | acc, c, [] => .ok (acc, c)

/-- The exponent behind its mark, if there is one. -/
def readExponent (negative : Bool) (whole places : List Char) (c : Cursor) :
    Except Fault (Json × Cursor) :=
  let finish (exponent : Option Int) (c : Cursor) : Except Fault (Json × Cursor) :=
    match number? negative whole places exponent with
    | some j => .ok (j, c)
    | none => c.fail .numberOutOfRange
  match c.rest with
  | b :: _ =>
      if b = code 'e' ∨ b = code 'E' then
        let c := c.advance 1
        let (down, c) := match c.rest with
          | b :: _ =>
              if b = code '-' then (true, c.advance 1)
              else if b = code '+' then (false, c.advance 1)
              else (false, c)
          | [] => (false, c)
        match c.rest with
        | [] => c.fail .eofValue
        | b :: _ =>
            if !isDigitByte b then c.failNext .invalidNumber
            else match exponentDigits 0 c c.rest with
              | .ok (e, c) => finish (some (if down then -(e : Int) else e)) c
              | .error c =>
                  if down || (whole ++ places).all (· == '0') then
                    let more := (c.rest.takeWhile isDigitByte).length
                    .ok (.double (.round negative 0 1), c.advance more)
                  else c.fail .numberOutOfRange
      else finish none c
  | [] => finish none c

/-- The fraction behind its point, if there is one, and what follows. -/
def readFraction (negative : Bool) (whole : List Char) (c : Cursor) :
    Except Fault (Json × Cursor) :=
  match c.rest with
  | b :: _ =>
      if b = code '.' then
        let c := c.advance 1
        let digits := c.rest.takeWhile isDigitByte
        if digits.isEmpty then
          match c.rest with
          | [] => c.fail .eofValue
          | _ :: _ => c.failNext .invalidNumber
        else readExponent negative whole (digitChars digits) (c.advance digits.length)
      else readExponent negative whole [] c
  | [] => readExponent negative whole [] c

/-- A number behind its sign. -/
def readNumber (negative : Bool) (c : Cursor) : Except Fault (Json × Cursor) :=
  match c.rest with
  | [] => c.fail .eofValue
  | b :: rest =>
      if b = code '0' then
        match rest with
        | d :: _ =>
            if isDigitByte d then (c.advance 1).failNext .invalidNumber
            else readFraction negative ['0'] (c.advance 1)
        | [] => readFraction negative ['0'] (c.advance 1)
      else if isDigitByte b then
        let digits := c.rest.takeWhile isDigitByte
        readFraction negative (digitChars digits) (c.advance digits.length)
      else c.failNext .invalidNumber

-- =============================================================== strings

/-- Four hexadecimal digits. -/
def readHex4 (c : Cursor) : Except Fault (Nat × Cursor) :=
  match c.rest with
  | b1 :: b2 :: b3 :: b4 :: _ =>
      match Text.Hex.number? (digitChars [b1, b2, b3, b4]) with
      | some n => .ok (n, c.advance 4)
      | none => (c.advance 4).fail .invalidEscape
  | _ => (c.advance c.rest.length).fail .eofString

/-- The character behind `\u`; two escapes make a character beyond U+FFFF. -/
def readUnicode (c : Cursor) : Except Fault (Char × Cursor) := do
  let (n, c) ← readHex4 c
  if 0xDC00 ≤ n ∧ n ≤ 0xDFFF then c.fail .loneSurrogate
  else if n < 0xD800 ∨ 0xDBFF < n then return (Char.ofNat n, c)
  else
    match c.rest with
    | [] => c.fail .eofString
    | b :: rest =>
        if b ≠ code '\\' then c.failNext .unfinishedPair
        else match rest with
          | [] => (c.advance 1).fail .eofString
          | u :: _ =>
              if u ≠ code 'u' then (c.advance 1).failNext .unfinishedPair
              else do
                let (low, c) ← readHex4 (c.advance 2)
                if low < 0xDC00 ∨ 0xDFFF < low then c.fail .loneSurrogate
                else return (Char.ofNat (0x10000 + (n - 0xD800) * 0x400 + (low - 0xDC00)), c)

/-- The character behind a backslash. -/
def readEscape (c : Cursor) : Except Fault (Char × Cursor) :=
  match c.rest with
  | [] => c.fail .eofString
  | b :: _ =>
      let next := c.advance 1
      if b = code '"' then .ok ('"', next)
      else if b = code '\\' then .ok ('\\', next)
      else if b = code '/' then .ok ('/', next)
      else if b = code 'b' then .ok (Char.ofNat 8, next)
      else if b = code 'f' then .ok (Char.ofNat 12, next)
      else if b = code 'n' then .ok ('\n', next)
      else if b = code 'r' then .ok ('\r', next)
      else if b = code 't' then .ok ('\t', next)
      else if b = code 'u' then readUnicode next
      else c.failNext .invalidEscape

/-- The rest of a string: its pieces are runs of plain bytes, which must be
UTF-8, and escaped characters. `size` counts the bytes of the text read so
far. At the closing quote the first byte that is not UTF-8 is reported: as
many bytes before the quote as the text has from there on. -/
def readString : (fuel : Nat) → (acc : List Char) → (size : Nat) → (invalid : Option Nat) →
    Cursor → Except Fault (String × Cursor)
  | 0, _, _, _, c => c.fail .eofString
  | fuel + 1, acc, size, invalid, c =>
      let plain := c.rest.takeWhile fun b => b ≠ code '"' && b ≠ code '\\' && 32 ≤ b
      let invalid := invalid <|> Text.Utf8.firstInvalid? size plain
      let acc := acc ++ Text.Utf8.decodeChars plain
      let size := size + plain.length
      let c := c.advance plain.length
      match c.rest with
      | [] => c.fail .eofString
      | b :: _ =>
          if b = code '"' then
            match invalid with
            | some i => .error ⟨.invalidCodePoint, c.pos - (size - i) + 1⟩
            | none => .ok (String.ofList acc, c.advance 1)
          else if b = code '\\' then do
            let (ch, c) ← readEscape (c.advance 1)
            readString fuel (acc ++ [ch]) (size + (Text.Utf8.encodeChar ch).length) invalid c
          else c.failNext .controlCharacter

/-- A string behind its opening quote. -/
def Cursor.string (c : Cursor) : Except Fault (String × Cursor) :=
  readString (c.rest.length + 1) [] 0 none c

-- ================================================================ values

/-- How many arrays and objects may stand inside each other. -/
def nesting : Nat := 127

mutual

/-- A value, after blanks; `depth` more levels may open. -/
def readValue : (fuel : Nat) → (depth : Nat) → Cursor → Except Fault (Json × Cursor)
  | 0, _, c => c.fail .eofValue
  | fuel + 1, depth, c =>
      let c := c.skipSpace
      match c.rest with
      | [] => c.fail .eofValue
      | b :: _ =>
          if b = code 'n' then
            (readWord [117, 108, 108] (c.advance 1)).map fun c => (.null, c)
          else if b = code 't' then
            (readWord [114, 117, 101] (c.advance 1)).map fun c => (.bool true, c)
          else if b = code 'f' then
            (readWord [97, 108, 115, 101] (c.advance 1)).map fun c => (.bool false, c)
          else if b = code '-' then readNumber true (c.advance 1)
          else if isDigitByte b then readNumber false c
          else if b = code '"' then
            ((c.advance 1).string).map fun (s, c) => (.str s, c)
          else if b = code '[' then
            if depth = 0 then c.failNext .tooDeep
            else readItems fuel (depth - 1) true [] (c.advance 1)
          else if b = code '\x7b' then
            if depth = 0 then c.failNext .tooDeep
            else readMembers fuel (depth - 1) true [] (c.advance 1)
          else c.failNext .expectedValue

/-- The rest of an array; `first` says that no item was read yet. -/
def readItems : (fuel : Nat) → (depth : Nat) → (first : Bool) → (acc : List Json) → Cursor →
    Except Fault (Json × Cursor)
  | 0, _, _, _, c => c.fail .eofList
  | fuel + 1, depth, first, acc, c => do
      let c := c.skipSpace
      match c.rest with
      | [] => c.fail .eofList
      | b :: _ =>
          if b = code ']' then return (.arr acc.reverse, c.advance 1)
          let c ←
            if first then pure c
            else if b = code ',' then do
              let c := (c.advance 1).skipSpace
              match c.rest with
              | [] => c.fail .eofValue
              | b :: _ => if b = code ']' then c.failNext .trailingComma else pure c
            else c.failNext .expectedListEnd
          let (j, c) ← readValue fuel depth c
          readItems fuel depth false (j :: acc) c

/-- The rest of an object; `first` says that no member was read yet. -/
def readMembers : (fuel : Nat) → (depth : Nat) → (first : Bool) → (acc : Members) → Cursor →
    Except Fault (Json × Cursor)
  | 0, _, _, _, c => c.fail .eofObject
  | fuel + 1, depth, first, acc, c => do
      let c := c.skipSpace
      match c.rest with
      | [] => c.fail .eofObject
      | b :: _ =>
          if b = code '\x7d' then return (.obj acc, c.advance 1)
          let c ←
            if first then pure c
            else if b = code ',' then pure (c.advance 1).skipSpace
            else c.failNext .expectedObjectEnd
          match c.rest with
          | [] => c.fail .eofValue
          | b :: _ =>
              if b = code '\x7d' then c.failNext .trailingComma
              else if b ≠ code '"' then c.failNext .keyNotString
              else
                let (key, c) ← (c.advance 1).string
                let c := c.skipSpace
                match c.rest with
                | [] => c.fail .eofObject
                | b :: _ =>
                    if b ≠ code ':' then c.failNext .expectedColon
                    else
                      let (j, c) ← readValue fuel depth (c.advance 1)
                      readMembers fuel depth false (Members.insert key j acc) c

end

/-- The value that a byte string holds, blanks around it allowed. -/
def parse (bytes : Bytes) : Except SyntaxError Json :=
  let whole : Except Fault Json := do
    let (j, c) ← readValue (2 * bytes.length + 2) nesting ⟨0, bytes⟩
    let c := c.skipSpace
    if c.rest.isEmpty then return j else c.failNext .trailingCharacters
  whole.mapError (Fault.locate bytes)

end CameraDriver.Json
