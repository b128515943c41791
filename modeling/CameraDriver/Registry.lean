/-
The devices that are known, under their identifiers. The entries stand in
ascending order of the identifiers, each identifier once.
-/
import CameraDriver.Error

namespace CameraDriver

/-- Entries under device identifiers. -/
structure Registry (α : Type) where
  entries : List (DeviceId × α) := []
deriving Repr

namespace Registry

/-- The entry of a device. -/
def get? (r : Registry α) (id : DeviceId) : Option α := r.entries.lookup id

/-- The entry of a device, which must be known. -/
def get (r : Registry α) (id : DeviceId) : Except DriverError α :=
  match r.get? id with
  | some a => .ok a
  | none => .error (.unknownDevice id)

/-- Puts an entry into an ascending list, in the place of the one that the
device has. -/
def insertSorted (id : DeviceId) (a : α) : List (DeviceId × α) → List (DeviceId × α)
  | [] => [(id, a)]
  | (other, b) :: rest =>
      if id.before other then (id, a) :: (other, b) :: rest
      else if id = other then (id, a) :: rest
      else (other, b) :: insertSorted id a rest

/-- Sets the entry of a device. -/
def insert (r : Registry α) (id : DeviceId) (a : α) : Registry α :=
  ⟨insertSorted id a r.entries⟩

/-- The entry of a device, made by `create` if there is none; says whether it
was made. -/
def getOrInsert (r : Registry α) (id : DeviceId) (create : α) : α × Bool × Registry α :=
  match r.get? id with
  | some a => (a, false, r)
  | none => (create, true, r.insert id create)

/-- The identifiers, in ascending order. -/
def ids (r : Registry α) : List DeviceId := r.entries.map (·.1)

/-- The number of devices. -/
def size (r : Registry α) : Nat := r.entries.length

end Registry

end CameraDriver
