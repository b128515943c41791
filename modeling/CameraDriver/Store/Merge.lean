/-
Overlaying configuration on configuration.

A call carries up to three blobs, one a part. A blob is a JSON patch: its
objects are merged member by member into the part, `null` leaves what is
there, and anything else replaces it. Either every blob of a call decodes
and all of them are applied, or nothing changes.
-/
import CameraDriver.Json.Reader
import CameraDriver.Store.Basic

namespace CameraDriver

namespace Json

mutual

/-- Overlays a patch on a value. -/
def merge (base : Json) : (patch : Json) → Json
  | .null => base
  | .obj patch =>
      match base with
      | .obj members => .obj (mergeMembers members patch)
      | _ => .obj patch
  | patch => patch

/-- Overlays members on members. A member that is new is taken whole, unless
it is `null`. -/
def mergeMembers (members : Members) : (patch : Members) → Members
  | [] => members
  | (key, value) :: rest =>
      let members :=
        match members.get? key with
        | some base => Members.insert key (merge base value) members
        | none =>
            match value with
            | .null => members
            | value => Members.insert key value members
      mergeMembers members rest

end

end Json

/-- The blobs of a call; a part without a blob stays as it is. -/
structure Blobs where
  common : Option Bytes := none
  visitor : Option Bytes := none
  protocol : Option Bytes := none
deriving DecidableEq, Repr

/-- Whether there is no blob. -/
def Blobs.isEmpty (b : Blobs) : Bool :=
  b.common.isNone && b.visitor.isNone && b.protocol.isNone

namespace Configuration

/-- Overlays a blob on a part. -/
def mergePart (part : ConfigPart) (decode : Json → Except Json.Misfit α) (base : α)
    (encoded : Json) (blob : Option Bytes) : Except DriverError α :=
  match blob with
  | none => .ok base
  | some bytes =>
      match Json.parse bytes with
      | .error e => .error (.decode part e.message)
      | .ok patch =>
          match decode (encoded.merge patch) with
          | .error m => .error (.decode part m.message)
          | .ok a => .ok a

/-- The configuration after the blobs of a call. -/
def merge (c : Configuration) (blobs : Blobs) : Except DriverError Configuration := do
  if blobs.isEmpty then return c
  let common ← mergePart .common CommonConfig.decode c.common c.common.encode blobs.common
  let visitor ← mergePart .visitor VisitorConfig.decode c.visitor c.visitor.encode blobs.visitor
  let protocol ← mergePart .protocol ProtocolConfig.decode c.protocol c.protocol.encode
    blobs.protocol
  return { common, visitor, protocol }

/-- Equality of configurations, with numbers compared by value. -/
def same (a b : Configuration) : Bool :=
  a.common == b.common && a.visitor == b.visitor
    && a.protocol.protocolName == b.protocol.protocolName
    && Json.sameMembers a.protocol.configData b.protocol.configData

end Configuration

/-- Holds the current configuration. -/
structure Store where
  current : Configuration := {}

namespace Store

/-- What a merge of the blobs would give; nothing is stored. -/
def preview (s : Store) (blobs : Blobs) : Except DriverError Configuration :=
  s.current.merge blobs

/-- Merges the blobs into the stored configuration. A configuration equal to
the stored one is not stored again. Gives the configuration, and whether it
was stored. -/
def merge (s : Store) (blobs : Blobs) : Except DriverError (Configuration × Bool × Store) := do
  let next ← s.current.merge blobs
  if next.same s.current then return (s.current, false, s)
  else return (next, true, ⟨next⟩)

end Store

end CameraDriver
