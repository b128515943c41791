/-
What the driver knows about one device: its record, the statuses published
for it, and the copy of both that callers see.
-/
import CameraDriver.Device.Basic
import CameraDriver.DeviceId
import CameraDriver.Url.Basic

namespace CameraDriver

/-- How images are captured and reported. -/
structure Capture where
  /-- The format asked of the device. -/
  format : ImageFormat
  /-- Where images are reported to; none disables reporting. -/
  endpoint : Option Url := none
  /-- The last trigger mode that took effect. -/
  trigger : TriggerMode := .stop
deriving DecidableEq, Repr

/-- Names a connect or reconnect task of a device. -/
abbrev Token := Nat

/-- The state of a device whose open connection is an `H`. -/
structure Record (H : Type) where
  /-- The open connection. -/
  handle : Option H := none
  /-- The feature that the last configuration targeted. -/
  activeFeature : String := ""
  capture : Capture
  /-- An upload has not finished. -/
  publishBusy : Bool := false
  /-- Raised by every trigger that takes effect. -/
  triggerGeneration : Nat := 0
  /-- Failed attempts of the reconnect loop. -/
  retryCount : Nat := 0
  /-- Reconnect attempts before giving up. -/
  maxRetry : Nat
  /-- Reconnect loops started so far. -/
  reconnectLoops : Nat := 0
  /-- Raised by every connection that is installed. -/
  linkEpoch : Nat := 0
  /-- The connect or reconnect task in charge. -/
  linkTask : Option Token := none

namespace Record

/-- Starts a new trigger generation. -/
def nextGeneration (r : Record H) : Record H :=
  { r with triggerGeneration := r.triggerGeneration + 1 }

/-- Installs a connection. -/
def install (r : Record H) (handle : H) : Record H :=
  { r with linkEpoch := r.linkEpoch + 1, handle := some handle }

end Record

/-- A device that is known. -/
structure Entry (H : Type) where
  id : DeviceId
  record : Record H
  /-- The statuses published so far, the latest first. -/
  history : List Status := []

namespace Entry

/-- A device that was never connected. -/
def fresh (id : DeviceId) (format : ImageFormat) (maxRetry : Nat) : Entry H :=
  { id, record := { capture := { format }, maxRetry } }

/-- The current status: the one published last, disconnected at first. -/
def status (e : Entry H) : Status := e.history.headD .disconnected

/-- Publishes a status. -/
def publish (e : Entry H) (s : Status) : Entry H := { e with history := s :: e.history }

end Entry

/-- What a caller is shown of a device. -/
structure Snapshot where
  id : DeviceId
  status : Status
  activeFeature : String
  capture : Capture
  publishBusy : Bool
  retryCount : Nat
  maxRetry : Nat
  reconnectLoops : Nat
deriving DecidableEq, Repr

/-- The copy of a device's state. -/
def Entry.snapshot (e : Entry H) : Snapshot :=
  { id := e.id
    status := e.status
    activeFeature := e.record.activeFeature
    capture := e.record.capture
    publishBusy := e.record.publishBusy
    retryCount := e.record.retryCount
    maxRetry := e.record.maxRetry
    reconnectLoops := e.record.reconnectLoops }

end CameraDriver
