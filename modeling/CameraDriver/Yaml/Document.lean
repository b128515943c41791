/-
The documents of a YAML text: how its tokens make up nodes.

An anchor gives the node behind it a name. The name is known from there on,
also inside the node, where an alias for it stands for a void node. A name
belongs to one document.
-/
import CameraDriver.Yaml.Node
import CameraDriver.Yaml.Token.Lexer

namespace CameraDriver.Yaml

/-- What is unread, which anchor a name belongs to, and the nodes of the
anchors, which are numbered. -/
structure Source where
  tokens : Tokens
  names : List (String × Nat) := []
  nodes : List (Nat × Node) := []
  anchors : Nat := 0

/-- Reading from a source. -/
abbrev Reading := StateT Source (Except Fault)

namespace Reading

/-- The next token. -/
def peek : Reading Lexeme := do (← get).tokens.peek

/-- Passes the next token. -/
def skip : Reading Unit := modify fun s => { s with tokens := s.tokens.tail }

/-- The next token is one of some. -/
def sees (p : Token → Bool) : Reading Bool := do return p (← peek).2

/-- Passes the next token if it is a given one; answers whether it is. -/
def take (token : Token) : Reading Bool := do
  let found ← sees (· == token)
  if found then skip
  return found

/-- A fault at the next token. -/
def fail (cause : Cause) : Reading α := do throw ⟨cause, (← peek).1⟩

/-- The number of a new anchor. -/
def newAnchor (name : String) : Reading Nat :=
  modifyGet fun s =>
    (s.anchors, { s with names := (name, s.anchors) :: s.names, anchors := s.anchors + 1 })

/-- The node that an alias stands for. -/
def aliased (mark : Mark) (name : String) : Reading Node := do
  let s ← get
  match s.names.lookup name with
  | some anchor => return (s.nodes.lookup anchor).getD .void
  | none => throw ⟨.unknownName, mark⟩

/-- Gives a node to an anchor. -/
def bindTo (anchor : Option Nat) (node : Node) : Reading Node := do
  if let some anchor := anchor then
    modify fun s => { s with nodes := (anchor, node) :: s.nodes }
  return node

/-- The anchor if the next token is one. -/
def anchor : Reading (Option Nat) := do
  match (← peek).2 with
  | .anchor name => skip; return some (← newAnchor name)
  | _ => return none

/-- The tag if the next token is one. -/
def tag : Reading (Option (Option String)) := do
  match (← peek).2 with
  | .tag core => skip; return some core
  | _ => return none

/-- An anchor and a tag in either order, or one of them, or none. -/
def properties : Reading (Option Nat × Option (Option String)) := do
  match ← anchor with
  | some number => return (some number, ← tag)
  | none =>
      match ← tag with
      | some core => return (← anchor, some core)
      | none => return (none, none)

-- ================================================================== nodes

/-- Where a node of a block mapping may be missing. -/
def endsPair : Token → Bool
  | .key => true
  | .value => true
  | .blockEnd => true
  | _ => false

/-- Where an item of a block sequence may be missing. -/
def endsItem : Token → Bool
  | .dash => true
  | .blockEnd => true
  | _ => false

mutual

/-- A node. A block collection can begin only if `block` holds, and a
sequence without an indentation of its own only if `beside` holds. -/
def node (block beside : Bool) : (fuel : Nat) → Reading Node
  | 0 => fail .noContent
  | fuel + 1 => do
      if let (mark, .alias name) ← peek then
        skip
        return ← aliased mark name
      let (number, core) ← properties
      bindTo number (← content block beside number.isSome core fuel)

/-- A node behind its anchor and its tag. -/
def content (block beside anchored : Bool) (core : Option (Option String)) :
    (fuel : Nat) → Reading Node
  | 0 => fail .noContent
  | fuel + 1 => do
      match (← peek).2 with
      | .scalar plain text => skip; return .ofScalar plain core text
      | .flowSequence => skip; return .sequence (← flowItems true fuel)
      | .flowMapping => skip; return .ofPairs (← flowPairs true fuel)
      | token =>
          if beside && token == .dash then return .sequence (← besideItems fuel)
          else if block && token == .blockSequence then
            skip
            return .sequence (← blockItems fuel)
          else if block && token == .blockMapping then
            skip
            return .ofPairs (← blockPairs fuel)
          else if anchored || core.isSome then return .ofScalar true core ""
          else fail .noContent

/-- A node, or null where it is missing. -/
def nodeUnless (missing : Token → Bool) (block beside : Bool) : (fuel : Nat) → Reading Node
  | 0 => fail .noContent
  | fuel + 1 => do if ← sees missing then return .null else node block beside fuel

/-- The node behind a colon, or null where either is missing. -/
def valueUnless (missing : Token → Bool) (block beside : Bool) : (fuel : Nat) → Reading Node
  | 0 => fail .noContent
  | fuel + 1 => do
      if ← take .value then nodeUnless missing block beside fuel else return .null

/-- The items of a block sequence up to its end. -/
def blockItems : (fuel : Nat) → Reading (List Node)
  | 0 => fail .noDash
  | fuel + 1 => do
      if ← take .blockEnd then return []
      else if ← take .dash then
        let item ← nodeUnless endsItem true false fuel
        return item :: (← blockItems fuel)
      else fail .noDash

/-- The items of a sequence that has no indentation of its own. -/
def besideItems : (fuel : Nat) → Reading (List Node)
  | 0 => fail .noDash
  | fuel + 1 => do
      if ← take .dash then
        let item ← nodeUnless (fun t => endsItem t || endsPair t) true false fuel
        return item :: (← besideItems fuel)
      else return []

/-- The keys and values of a block mapping up to its end. -/
def blockPairs : (fuel : Nat) → Reading (List Node)
  | 0 => fail .noKey
  | fuel + 1 => do
      if ← take .blockEnd then return []
      else
        let key ←
          if ← take .key then nodeUnless endsPair true true fuel
          else if ← sees (· == .value) then pure .null
          else fail .noKey
        let value ← valueUnless endsPair true true fuel
        return key :: value :: (← blockPairs fuel)

/-- The keys and values of a flow mapping up to its end. -/
def flowPairs (first : Bool) : (fuel : Nat) → Reading (List Node)
  | 0 => fail .openFlowMapping
  | fuel + 1 => do
      let ends : Token → Bool := fun t => t == .comma || t == .flowMappingEnd
      if ← take .flowMappingEnd then return []
      if !first then
        if !(← take .comma) then fail .openFlowMapping
      if ← take .flowMappingEnd then return []
      else if ← take .key then
        let key ← nodeUnless (fun t => ends t || t == .value) false false fuel
        let value ← valueUnless ends false false fuel
        return key :: value :: (← flowPairs false fuel)
      else if ← sees (· == .value) then
        let value ← valueUnless ends false false fuel
        return .null :: value :: (← flowPairs false fuel)
      else
        let key ← node false false fuel
        return key :: .null :: (← flowPairs false fuel)

/-- The items of a flow sequence up to its end. -/
def flowItems (first : Bool) : (fuel : Nat) → Reading (List Node)
  | 0 => fail .openFlowSequence
  | fuel + 1 => do
      if ← take .flowSequenceEnd then return []
      if !first then
        if !(← take .comma) then fail .openFlowSequence
      if ← take .flowSequenceEnd then return []
      else
        let item ← if ← take .key then flowPair fuel else node false false fuel
        return item :: (← flowItems false fuel)

/-- An item of a flow sequence that is a single pair, behind the mark of its
key. The token where the key is missing is passed with it. -/
def flowPair : (fuel : Nat) → Reading Node
  | 0 => fail .openFlowSequence
  | fuel + 1 => do
      let ends : Token → Bool := fun t => t == .comma || t == .flowSequenceEnd
      let key ←
        if ← sees fun t => ends t || t == .value then
          skip
          pure .null
        else node false false fuel
      let value ← valueUnless ends false false fuel
      return .ofPairs [key, value]

end

-- ============================================================== documents

/-- Passes tokens of a kind. -/
def skipAll (token : Token) : (fuel : Nat) → Reading Unit
  | 0 => pure ()
  | fuel + 1 => do if ← take token then skipAll token fuel

/-- Where a document that is marked has no node. -/
def endsDocument : Token → Bool
  | .directive => true
  | .documentStart => true
  | .documentEnd => true
  | .textEnd => true
  | _ => false

/-- The node of a document whose beginning is marked. -/
def markedDocument (fuel : Nat) : Reading Node := do
  skipAll .directive fuel
  if ← take .documentStart then nodeUnless endsDocument true false fuel
  else fail .noDocumentStart

/-- The nodes of the documents. The beginning of the first one need not be
marked. -/
def documents (size : Nat) (first : Bool) : (fuel : Nat) → Reading (List Node)
  | 0 => pure []
  | fuel + 1 => do
      if !first then skipAll .documentEnd size
      if ← sees (· == .textEnd) then return []
      else
        modify fun s => { s with names := [] }
        let marked ← sees fun t => t == .directive || t == .documentStart
        let top ← if first && !marked then node true false size else markedDocument size
        let _ ← take .documentEnd
        return top :: (← documents size false fuel)

end Reading

/-- The nodes of the documents of a text. -/
def documents (text : String) : Except Fault (List Node) :=
  let tokens := Tokens.ofText text
  let count := tokens.found.length
  (Reading.documents (4 * (count + 2)) true (count + 2)).run' { tokens }

/-- The value of the only document of a text, or the wording of what is
wrong; a text without documents has an empty table. -/
def parse (text : String) : Except String Json :=
  match documents text with
  | .error f => .error f.message
  | .ok [] => .ok .empty
  | .ok [node] => node.value
  | .ok nodes =>
      .error ("Got " ++ Number.integerText nodes.length ++ " YAML documents, expected 1")

end CameraDriver.Yaml
