/-
From a tree of settings to a configuration. A scalar converts to the kind of
value a field wants where that makes sense: numbers and words to booleans and
natural numbers, anything without parts to text. A value that does not
convert is reported with its key and the place it was read from.

A section is a table, whose unknown members are ignored, or a list, which
gives the fields in the order they are declared; surplus items are ignored.
-/
import CameraDriver.Number.Numeral
import CameraDriver.Settings.Basic
import CameraDriver.Settings.Tree
import CameraDriver.Text.Lower

namespace CameraDriver.Settings

open Number

-- ================================================================= errors

/-- Why a value does not convert. -/
inductive Cause where
  /-- A negative integer where a natural number is wanted. -/
  | negative (n : Int)
  | unexpected (found : Json.Found) (expected : String)
deriving DecidableEq, Repr

/-- The wording of a cause. -/
def Cause.message : Cause → String
  | .negative n =>
      "invalid type: integer 64 bit `" ++ integerText n
        ++ "`, expected an unsigned 64 bit or less integer"
  | .unexpected found expected => "invalid type: " ++ found.message ++ ", expected " ++ expected

/-- A value that does not convert, with the key it stands at and the place it
was read from where these are known. -/
structure Mismatch where
  cause : Cause
  key : Option String := none
  origin : Option Origin := none
deriving DecidableEq, Repr

/-- The wording of a mismatch. -/
def Mismatch.message (m : Mismatch) : String :=
  m.cause.message
    ++ (match m.key with
      | some key => " for key `" ++ key ++ "`"
      | none => "")
    ++ (match m.origin with
      | some origin => " in " ++ origin.text
      | none => "")

-- ============================================================ conversions

namespace Tree

/-- The place a node was read from. -/
def origin : Tree → Option Origin
  | .leaf _ origin => origin
  | .list _ origin => origin
  | .table _ origin => origin

/-- What a node is found as. -/
def found : Tree → Json.Found
  | .leaf .null _ => .unit
  | .leaf (.bool b) _ => .boolean b
  | .leaf (.int n) _ => .integer n
  | .leaf (.float x) _ => .floating (x.text .pointed)
  | .leaf (.text s) _ => .text s
  | .list .. => .sequence
  | .table .. => .map

/-- The words for yes. -/
def affirmations : List String := ["true", "on", "yes"]

/-- The words for no. -/
def negations : List String := ["false", "off", "no"]

/-- A natural number of 64 bits: a fraction is rounded and held within the
bounds, a boolean or a word for one counts as 1 or 0. -/
def toNatural (t : Tree) : Except Cause Nat :=
  let unexpected : Except Cause Nat := .error (.unexpected t.found "an integer")
  match t with
  | .leaf (.int n) _ => if 0 ≤ n then .ok n.toNat else .error (.negative n)
  | .leaf (.float x) _ => .ok (x.toNatural maxNatural64)
  | .leaf (.bool b) _ => .ok (if b then 1 else 0)
  | .leaf (.text s) _ =>
      let word := Text.lower s
      if affirmations.contains word then .ok 1
      else if negations.contains word then .ok 0
      else match natural? maxNatural64 s with
        | some n => .ok n
        | none => unexpected
  | _ => unexpected

/-- A boolean: a number is compared with zero, a word is taken in any case. -/
def toBool (t : Tree) : Except Cause Bool :=
  let unexpected (found : Json.Found) : Except Cause Bool :=
    .error (.unexpected found "a boolean")
  match t with
  | .leaf (.bool b) _ => .ok b
  | .leaf (.int n) _ => .ok (n ≠ 0)
  | .leaf (.float x) _ => .ok (!x.same (.ofInt 0))
  | .leaf (.text s) _ =>
      let word := Text.lower s
      if word == "1" || affirmations.contains word then .ok true
      else if word == "0" || negations.contains word then .ok false
      else unexpected (.text word)
  | t => unexpected t.found

/-- A text: numbers and booleans are written out. -/
def toText : Tree → Except Cause String
  | .leaf (.text s) _ => .ok s
  | .leaf (.bool b) _ => .ok (if b then "true" else "false")
  | .leaf (.int n) _ => .ok (integerText n)
  | .leaf (.float x) _ => .ok (x.text .plain)
  | t => .error (.unexpected t.found "a string")

/-- The items of a list with the names they are given and their positions. -/
def numbered (names : List String) (items : List Tree) : List (String × Nat × Tree) :=
  names.zip ((List.range items.length).zip items)

/-- A section read field by field onto its defaults. -/
def toSection (name expected : String) (fields : List String)
    (set : String → Tree → α → Except Cause α) (default : α) (t : Tree) : Except Mismatch α :=
  let read (field key : String) (t : Tree) (r : α) : Except Mismatch α :=
    (set field t r).mapError fun cause => { cause, key := some (name ++ key), origin := t.origin }
  match t with
  | .table ms _ => ms.foldlM (fun r (field, t) => read field ("." ++ field) t r) default
  | .list items _ =>
      (numbered fields items).foldlM
        (fun r (field, i, t) => read field ("[" ++ integerText i ++ "]") t r) default
  | .leaf .. => .error { cause := .unexpected t.found expected }

end Tree

-- =============================================================== sections

/-- Reads a field of the `logging` section. -/
def readLogging (field : String) (t : Tree) (c : LoggingConfig) : Except Cause LoggingConfig :=
  match field with
  | "level" => do return { c with level := ← t.toText }
  | "show_target" => do return { c with showTarget := ← t.toBool }
  | _ => .ok c

/-- Reads a field of the `driver` section. The number of retries keeps its 32
low bits. -/
def readDriver (field : String) (t : Tree) (c : DriverConfig) : Except Cause DriverConfig :=
  match field with
  | "reconnect_interval_ms" => do return { c with reconnectIntervalMs := ← t.toNatural }
  | "max_retry_times" => do
      return { c with maxRetryTimes := (← t.toNatural) % (maxNatural32 + 1) }
  | "publish_timeout_ms" => do return { c with publishTimeoutMs := ← t.toNatural }
  | "default_image_format" => do return { c with defaultImageFormat := ← t.toText }
  | "library_path" => do return { c with libraryPath := ← t.toText }
  | _ => .ok c

/-- The configuration that the members of a tree give. -/
def Tree.toConfig (t : Tree) : Except Mismatch Config :=
  t.members.foldlM
    (fun c (name, t) => match name with
      | "logging" => do
          let logging ← t.toSection name "struct LoggingConfig" LoggingConfig.fields readLogging {}
          return { c with logging }
      | "driver" => do
          let driver ← t.toSection name "struct DriverConfig" DriverConfig.fields readDriver {}
          return { c with driver }
      | _ => .ok c) {}

end CameraDriver.Settings
