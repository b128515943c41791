/-
What can be wrong with a YAML text, and where. Lines count from 1; columns
count characters, from 0 in a place and from 1 in a message.
-/
import CameraDriver.Number.Layout

namespace CameraDriver.Yaml

open Number

/-- A place in a text. -/
structure Mark where
  line : Nat := 1
  column : Nat := 0
deriving DecidableEq, Repr, Inhabited

/-- The causes of a fault. -/
inductive Cause where
  -- directives
  | noDirectiveName
  | oddDirectiveName
  | oddDirectiveEnd
  | noVersion
  | longVersion
  | noVersionPoint
  -- tags and names
  | noTagMark
  | openTagHandle
  | noTagText
  | noTagOctet
  | oddLeadingOctet
  | oddTrailingOctet
  | oddTagCharacter
  | openTag
  | oddTagEnd
  | oddTagPrefixEnd
  | noName
  | unknownName
  -- scalars
  | unexpectedCharacter (c : Char)
  | plainTab
  | quotedMarker
  | quotedEnd
  | unknownEscape
  | noHexadecimal
  | oddCodePoint
  | zeroIndentation
  | oddBlockHeader
  | blockTab
  -- keys and collections
  | tooDeep
  | dashNotAllowed
  | dashInFlow
  | keyNotAllowed
  | valueNotAllowed
  | keyExpected
  | colonExpected
  | noContent
  | noKey
  | noDash
  | openFlowMapping
  | openFlowSequence
  | noDocumentStart
deriving DecidableEq, Repr

/-- The wording of a cause. -/
def Cause.message : Cause → String
  | .noDirectiveName => "while scanning a directive, could not find expected directive name"
  | .oddDirectiveName => "while scanning a directive, found unexpected non-alphabetical character"
  | .oddDirectiveEnd =>
      "while scanning a directive, did not find expected comment or line break"
  | .noVersion => "while scanning a YAML directive, did not find expected version number"
  | .longVersion => "while scanning a YAML directive, found extremely long version number"
  | .noVersionPoint =>
      "while scanning a YAML directive, did not find expected digit or '.' character"
  | .noTagMark => "while scanning a tag, did not find expected '!'"
  | .openTagHandle => "while parsing a tag directive, did not find expected '!'"
  | .noTagText => "while parsing a tag, did not find expected tag URI"
  | .noTagOctet => "while parsing a tag, did not find URI escaped octet"
  | .oddLeadingOctet => "while parsing a tag, found an incorrect leading UTF-8 octet"
  | .oddTrailingOctet => "while parsing a tag, found an incorrect trailing UTF-8 octet"
  | .oddTagCharacter => "while parsing a tag, found an invalid UTF-8 codepoint"
  | .openTag => "while scanning a tag, did not find the expected '>'"
  | .oddTagEnd => "while scanning a tag, did not find expected whitespace or line break"
  | .oddTagPrefixEnd => "while scanning TAG, did not find expected whitespace or line break"
  | .noName =>
      "while scanning an anchor or alias, did not find expected alphabetic or numeric character"
  | .unknownName => "while parsing node, found unknown anchor"
  | .unexpectedCharacter c => "unexpected character: \x60" ++ String.ofList [c] ++ "'"
  | .plainTab => "while scanning a plain scalar, found a tab"
  | .quotedMarker => "while scanning a quoted scalar, found unexpected document indicator"
  | .quotedEnd => "while scanning a quoted scalar, found unexpected end of stream"
  | .unknownEscape => "while parsing a quoted scalar, found unknown escape character"
  | .noHexadecimal => "while parsing a quoted scalar, did not find expected hexadecimal number"
  | .oddCodePoint =>
      "while parsing a quoted scalar, found invalid Unicode character escape code"
  | .zeroIndentation =>
      "while scanning a block scalar, found an indentation indicator equal to 0"
  | .oddBlockHeader =>
      "while scanning a block scalar, did not find expected comment or line break"
  | .blockTab => "while scanning a block scalar, found a tab character where an indentation "
      ++ "space is expected"
  | .tooDeep => "recursion limit exceeded"
  | .dashNotAllowed => "block sequence entries are not allowed in this context"
  | .dashInFlow => "\"-\" is only valid inside a block"
  | .keyNotAllowed => "mapping keys are not allowed in this context"
  | .valueNotAllowed => "mapping values are not allowed in this context"
  | .keyExpected => "simple key expected"
  | .colonExpected => "simple key expect ':'"
  | .noContent => "while parsing a node, did not find expected node content"
  | .noKey => "while parsing a block mapping, did not find expected key"
  | .noDash => "while parsing a block collection, did not find expected '-' indicator"
  | .openFlowMapping => "while parsing a flow mapping, did not find expected ',' or '\x7d'"
  | .openFlowSequence => "while parsing a flow sequence, expected ',' or ']'"
  | .noDocumentStart => "did not find expected <document start>"

/-- A fault and its place. -/
structure Fault where
  cause : Cause
  mark : Mark
deriving DecidableEq, Repr

/-- The wording of a fault. -/
def Fault.message (f : Fault) : String :=
  f.cause.message ++ " at line " ++ integerText f.mark.line
    ++ " column " ++ integerText (f.mark.column + 1)

end CameraDriver.Yaml
