/-
Taking the connection of a device in hand, past its link tasks: opening one
and installing it, and dropping the one that is there. The status is not
touched.
-/
import CameraDriver.Device.Site

namespace CameraDriver.Site

variable {σ H F : Type} [Camera σ H F]

/-- Opens the device and installs the connection, closing the one that it
replaces; says whether one was replaced. -/
def adopt (s : Site σ H F) : Except HardwareError Bool × Site σ H F :=
  let (result, camera) := Camera.openDevice s.device.id s.camera
  match result with
  | .error e => (.error e, { camera, device := s.device.note (.opened (.error e)) })
  | .ok handle =>
      let number := s.device.opened + 1
      let stale := s.device.record.handle
      let device := { s.device.note (.opened (.ok number)) with opened := number }
      let device := device.modifyRecord (·.install ⟨number, handle⟩)
      (.ok stale.isSome, Site.close? { camera, device } stale)

/-- Closes the connection, if there is one. -/
def drop (s : Site σ H F) : Site σ H F :=
  let held := s.device.record.handle
  (s.onDevice (·.modifyRecord ({ · with handle := none }))).close? held

end CameraDriver.Site
