/-
Device identifiers: the serial number that a device is known by.
-/

namespace CameraDriver

/-- Stable identifier of a physical device. -/
structure DeviceId where
  text : String
deriving DecidableEq, Repr, Inhabited

namespace DeviceId

/-- Whether the identifier has no characters. -/
def isEmpty (id : DeviceId) : Bool := id.text.isEmpty

/-- Identifiers are ordered by their texts, character by character. -/
def before (a b : DeviceId) : Bool := a.text < b.text

/-- Puts an identifier into an ascending list, unless it is there. -/
def insertSorted (id : DeviceId) : List DeviceId → List DeviceId
  | [] => [id]
  | x :: rest =>
      if id.before x then id :: x :: rest
      else if id = x then x :: rest
      else x :: insertSorted id rest

/-- The identifiers of a list in ascending order, each once. -/
def sortedUnique (ids : List DeviceId) : List DeviceId := ids.foldr insertSorted []

end DeviceId

end CameraDriver
