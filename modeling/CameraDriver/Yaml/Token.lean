/-
The tokens of a YAML text. The beginning and end of a block collection are
tokens too, as is the mark of a key, whether they are written or follow from
the indentation.
-/
import CameraDriver.Yaml.Fault

namespace CameraDriver.Yaml

/-- A token. -/
inductive Token where
  | directive
  | documentStart
  | documentEnd
  | blockSequence
  | blockMapping
  | blockEnd
  | dash
  | flowSequence
  | flowSequenceEnd
  | flowMapping
  | flowMappingEnd
  | comma
  | key
  | value
  | anchor (name : String)
  | alias (name : String)
  /-- A tag; `core` is what follows `!!` in one that begins so. -/
  | tag (core : Option String)
  /-- A scalar; `plain` says that it stands without quotes. -/
  | scalar (plain : Bool) (text : String)
  | textEnd
deriving DecidableEq, Repr, Inhabited

/-- A token and its place. -/
abbrev Lexeme := Mark × Token

/-- The tokens of a text in order, and the place where it ends or the fault
that breaks it off. -/
structure Tokens where
  found : List Lexeme
  stop : Except Fault Mark

namespace Tokens

/-- The first token; behind the last one stands the end of the text. -/
def peek (ts : Tokens) : Except Fault Lexeme :=
  match ts.found with
  | lexeme :: _ => .ok lexeme
  | [] => ts.stop.map fun mark => (mark, .textEnd)

/-- The tokens behind the first. -/
def tail (ts : Tokens) : Tokens := { ts with found := ts.found.tail }

/-- One more token in front. -/
def cons (lexeme : Lexeme) (ts : Tokens) : Tokens := { ts with found := lexeme :: ts.found }

/-- The lexeme in front is the next one. -/
@[simp] theorem peek_cons (lexeme : Lexeme) (ts : Tokens) :
    (ts.cons lexeme).peek = .ok lexeme := rfl

/-- Behind the lexeme in front are the ones of before. -/
@[simp] theorem tail_cons (lexeme : Lexeme) (ts : Tokens) : (ts.cons lexeme).tail = ts := rfl

end Tokens

end CameraDriver.Yaml
