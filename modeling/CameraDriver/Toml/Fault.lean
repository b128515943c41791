/-
Why a text is no TOML document, and where. A fault is kept with the number
of characters that were unread when it was found; line and column follow
from the text. A fault of a value also has the path of the key it stands
under.
-/
import CameraDriver.Number.Layout
import CameraDriver.Text.Hex
import CameraDriver.Text.Utf8

namespace CameraDriver.Toml

open Number

/-- The causes of a fault. -/
inductive Cause where
  | unexpectedEnd
  | unterminatedText
  | newlineInText
  | invalidCharacter (c : Char)
  | invalidEscape (c : Char)
  | invalidHexEscape (c : Char)
  | invalidEscapeValue (n : Nat)
  | unexpectedCharacter (c : Char)
  | wanted (expected found : String)
  | unquotedText
  | invalidNumber
  | invalidDate
  | noMoment
  | multilineKey
  | duplicateKey (key : String)
  | duplicateTable (path : List String)
  | redefinedAsArray
  | extendsNoTable
deriving DecidableEq, Repr

/-- A character as messages show it. -/
def shown (c : Char) : String :=
  if c = '\t' then "\\t"
  else if c = '\r' then "\\r"
  else if c = '\n' then "\\n"
  else if c = '\x27' ∨ c = '"' ∨ c = '\\' then String.ofList ['\\', c]
  else if ' ' ≤ c ∧ c ≤ '~' then String.ofList [c]
  else String.ofList (['\\', 'u', '\x7b'] ++ Text.Hex.digits c.toNat ++ ['\x7d'])

/-- A path with points between its names. -/
def pathText (path : List String) : String := ".".intercalate path

/-- The wording of a cause. -/
def Cause.message : Cause → String
  | .unexpectedEnd => "unexpected eof encountered"
  | .unterminatedText => "unterminated string"
  | .newlineInText => "newline in string found"
  | .invalidCharacter c => "invalid character in string: `" ++ shown c ++ "`"
  | .invalidEscape c => "invalid escape character in string: `" ++ shown c ++ "`"
  | .invalidHexEscape c => "invalid hex escape character in string: `" ++ shown c ++ "`"
  | .invalidEscapeValue n => "invalid escape value: `" ++ integerText n ++ "`"
  | .unexpectedCharacter c => "unexpected character found: `" ++ shown c ++ "`"
  | .wanted expected found => "expected " ++ expected ++ ", found " ++ found
  | .unquotedText => "invalid TOML value, did you mean to use a quoted string?"
  | .invalidNumber => "invalid number"
  | .invalidDate => "invalid date"
  | .noMoment => "failed to parse datetime"
  | .multilineKey => "multiline strings are not allowed for key"
  | .duplicateKey key => "duplicate key: `" ++ key ++ "`"
  | .duplicateTable path => "redefinition of table `" ++ pathText path ++ "`"
  | .redefinedAsArray => "table redefined as array"
  | .extendsNoTable => "dotted key attempted to extend non-table type"

/-- A fault. Its place is missing as long as no value is known to hold it. -/
structure Fault where
  cause : Cause
  path : List String := []
  unread : Option Nat
deriving DecidableEq, Repr

/-- A fault at the front of what is unread. -/
def fail (cs : List Char) (cause : Cause) : Except Fault α :=
  .error { cause, unread := some cs.length }

/-- The fault seen from the table in which the value stands under a key. -/
def Fault.under (key : String) (f : Fault) : Fault := { f with path := key :: f.path }

/-- The fault at a place, unless it has one. -/
def Fault.located (unread : Nat) (f : Fault) : Fault :=
  { f with unread := some (f.unread.getD unread) }

/-- The wording of a fault in a text; columns count bytes. -/
def Fault.message (f : Fault) (text : List Char) : String :=
  let seen := text.take (text.length - f.unread.getD text.length)
  let line := 1 + seen.count '\n'
  let column := 1 + (Text.Utf8.encode
    (String.ofList (seen.reverse.takeWhile (· ≠ '\n')))).length
  f.cause.message
    ++ (if f.path.isEmpty then "" else " for key `" ++ pathText f.path ++ "`")
    ++ " at line " ++ integerText line ++ " column " ++ integerText column

end CameraDriver.Toml
