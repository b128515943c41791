/-
The values of a TOML text as they are written: what the text assigns in
which order, before anything is checked for being assigned twice.
-/
import CameraDriver.Toml.Moment
import CameraDriver.Toml.Number

namespace CameraDriver.Toml

/-- A value, with the number of characters that were unread where it
begins. -/
inductive Value where
  | scalar (unread : Nat) (value : Json)
  /-- A date or a time, as it is written. -/
  | moment (unread : Nat) (text : List Char)
  | array (unread : Nat) (items : List Value)
  /-- A table; `dotted` says that it came about by keys with points, which
  may add to it. -/
  | table (unread : Nat) (dotted : Bool) (pairs : List (String × Value))

/-- Assignments in the order in which they are written. -/
abbrev Pairs := List (String × Value)

/-- Where a value begins. -/
def Value.unread : Value → Nat
  | .scalar unread _ => unread
  | .moment unread _ => unread
  | .array unread _ => unread
  | .table unread _ _ => unread

/-- One more assignment. The names of a key lead through tables that came
about by such keys; the first pair with a name counts. -/
def Pairs.add (value : Value) : String → List String → Pairs → Except Fault Pairs
  | name, [], pairs => .ok (pairs ++ [(name, value)])
  | name, next :: names, pairs => do
      let (before, rest) := pairs.span fun (k, _) => k ≠ name
      match rest with
      | [] =>
          let inner ← Pairs.add value next names []
          return pairs ++ [(name, .table value.unread true inner)]
      | (_, .table unread true inner) :: after =>
          let inner ← Pairs.add value next names inner
          return before ++ (name, .table unread true inner) :: after
      | (_, other) :: _ => throw { cause := .extendsNoTable, unread := some other.unread }

namespace Reading

-- ================================================================ moments

/-- The next token has to be a word of the moment that began at `start`. -/
def momentPart (start : Nat) : Reading Unit := do
  match ← next with
  | .word _ => pure ()
  | _ => failBack start .invalidDate

/-- Passes a mark with a word behind it, if the mark comes next. -/
def momentTail (start : Nat) (mark : Token) : Reading Unit := do
  if ← take mark then momentPart start

/-- Passes a blank with the hour of a moment behind it, if both come next. -/
def momentHour : Reading Unit := modify fun cs =>
  match Token.first cs with
  | .ok (.blanks [' '], rest) =>
      match Token.first rest with
      | .ok (.word _, rest) => rest
      | _ => cs
  | _ => cs

/-- A moment whose first word was passed, and its colon too if `colon`
holds. What it says is looked into only later. -/
def moment (text : List Char) (start : Nat) (colon : Bool) : Reading Value := do
  momentHour
  let colon ← if colon then pure true else take .colon
  if colon then
    momentPart start
    expect .colon
    momentPart start
    momentTail start .period
    momentTail start .plus
    momentTail start .colon
  return .moment start (text.take (start - (← unread)))

/-- A word with the mark of an exponent and a dash behind it. -/
def hasNegativePower : List Char → Bool
  | [] => false
  | c :: rest => ((c == 'e' || c == 'E') && rest.head? == some '-') || hasNegativePower rest

/-- A word with a mark of a moment: the separator before a time, or a dash
that is no sign. -/
def looksLikeMoment (word : List Char) : Bool :=
  word.contains 'T' || word.contains 't'
    || ((word.drop 1).contains '-' && !hasNegativePower word)

/-- A number or a moment that begins with a word. -/
def numberOrMoment (text word : List Char) (start : Nat) : Reading Value := do
  if looksLikeMoment word then moment text start false
  else if ← take .colon then moment text start true
  else
    let (unread, j) ← number start ⟨word, start⟩
    return .scalar unread j

-- ================================================================= values

mutual

/-- A value. -/
def value : (fuel : Nat) → Reading Value
  | 0 => failHere .unexpectedEnd
  | fuel + 1 => do
      let text ← get
      let start := text.length
      match ← next with
      | .text s _ => return .scalar start (.str s)
      | .word word =>
          if word = "true".toList then return .scalar start (.bool true)
          else if word = "false".toList then return .scalar start (.bool false)
          else if word = "inf".toList || word = "nan".toList
              || (word.head?.map fun c => c == '-' || c.isDigit).getD false then
            numberOrMoment text word start
          else failBack start .unquotedText
      | .plus =>
          let (unread, j) ← number start (← numberPart (← unread))
          return .scalar unread j
      | .leftBracket => return .array start (← items fuel)
      | .leftBrace =>
          skipBlanks
          if ← take .rightBrace then return .table start false []
          else return .table start false (← pairs fuel [])
      | .fileEnd => failHere .unexpectedEnd
      | token => failBack start (.wanted "a value" token.described)

/-- The items of an array up to its closing bracket. -/
def items : (fuel : Nat) → Reading (List Value)
  | 0 => failHere .unexpectedEnd
  | fuel + 1 => do
      skipLines (← unread)
      if ← take .rightBracket then return []
      else
        let item ← value fuel
        skipLines (← unread)
        if ← take .comma then return item :: (← items fuel)
        else
          expect .rightBracket
          return [item]

/-- The assignments of an inline table up to its closing brace. -/
def pairs : (fuel : Nat) → Pairs → Reading Pairs
  | 0, _ => failHere .unexpectedEnd
  | fuel + 1, before => do
      let (first, names) ← key
      skipBlanks
      expect .equals
      skipBlanks
      let all ← Pairs.add (← value fuel) first names before
      skipBlanks
      if ← take .rightBrace then return all
      else
        expect .comma
        skipBlanks
        pairs fuel all

end

end Reading

-- ================================================================== values

/-- The value of a key in a table, among members found so far. -/
def addMember (members : List (String × Json)) (name : String) (j : Except Fault Json) :
    Except Fault (List (String × Json)) := do
  if members.any fun (k, _) => k = name then throw { cause := .duplicateKey name, unread := none }
  return members ++ [(name, ← j)]

mutual

/-- What a value denotes. -/
def Value.meaning : Value → Except Fault Json
  | .scalar _ j => .ok j
  | .moment unread text =>
      match moment? text with
      | some text => .ok (.str (String.ofList text))
      | none => .error { cause := .noMoment, unread := some unread }
  | .array unread items => ((itemMeanings items).map Json.arr).mapError (·.located unread)
  | .table unread _ pairs => ((memberMeanings [] pairs).map Json.object).mapError (·.located unread)

/-- What the items of an array denote. -/
def itemMeanings : List Value → Except Fault (List Json)
  | [] => .ok []
  | item :: items => do return (← item.meaning) :: (← itemMeanings items)

/-- What the assignments of a table denote. -/
def memberMeanings (members : List (String × Json)) :
    List (String × Value) → Except Fault (List (String × Json))
  | [] => .ok members
  | (name, v) :: pairs => do memberMeanings (← addMember members name v.meaning) pairs

end

end CameraDriver.Toml
