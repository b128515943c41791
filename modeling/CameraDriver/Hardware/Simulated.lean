/-
A camera that lives in memory. Each attached device has a table of features,
an image and the number of its open handles, and failures can be scripted:
opens that fail, and failures that the next calls answer, one each.

A call on a device that is not attached is a hard failure. Detaching a
device forgets everything about it.
-/
import CameraDriver.Hardware.Camera
import CameraDriver.Registry

namespace CameraDriver

/-- How often each entry point was called. -/
structure CallCounts where
  opens : Nat := 0
  reads : Nat := 0
  writes : Nat := 0
  grabs : Nat := 0
  closes : Nat := 0
  frees : Nat := 0
deriving DecidableEq, Repr

/-- A device of the simulated camera. -/
structure SimulatedDevice where
  /-- Each feature once. -/
  features : List (String × String) := []
  frame : Bytes := []
  openHandles : Nat := 0
  /-- How many of the next opens fail. -/
  openFailures : Nat := 0
  /-- The failures of the next calls, in order. -/
  callFailures : List HardwareError := []
deriving DecidableEq, Repr

/-- A camera in memory. -/
structure SimulatedCamera where
  devices : Registry SimulatedDevice := {}
  calls : CallCounts := {}

namespace SimulatedDevice

/-- The value of a feature. -/
def feature? (d : SimulatedDevice) (feature : String) : Option String :=
  d.features.lookup feature

/-- Sets a feature. -/
def setFeature (d : SimulatedDevice) (feature value : String) : SimulatedDevice :=
  { d with features := (feature, value) :: d.features.filter (·.1 ≠ feature) }

end SimulatedDevice

namespace SimulatedCamera

/-- The handle of an open simulated device. -/
structure Handle where
  device : DeviceId
deriving DecidableEq, Repr

-- ============================================================== scripting

/-- Changes a device, attaching it first if it is not. -/
def modify (c : SimulatedCamera) (id : DeviceId) (f : SimulatedDevice → SimulatedDevice) :
    SimulatedCamera :=
  { c with devices := c.devices.insert id (f ((c.devices.get? id).getD {})) }

/-- Attaches a device. -/
def attach (c : SimulatedCamera) (id : DeviceId) : SimulatedCamera := c.modify id (fun d => d)

/-- Detaches a device. -/
def detach (c : SimulatedCamera) (id : DeviceId) : SimulatedCamera :=
  { c with devices := ⟨c.devices.entries.filter (·.1 ≠ id)⟩ }

/-- Sets a feature as the device reports it. -/
def setFeature (c : SimulatedCamera) (id : DeviceId) (feature value : String) : SimulatedCamera :=
  c.modify id fun d => d.setFeature feature value

/-- The value of a device's feature. -/
def feature? (c : SimulatedCamera) (id : DeviceId) (feature : String) : Option String :=
  (c.devices.get? id).bind fun d => d.feature? feature

/-- Sets the image that is grabbed. -/
def setFrame (c : SimulatedCamera) (id : DeviceId) (frame : Bytes) : SimulatedCamera :=
  c.modify id fun d => { d with frame }

/-- Makes the next opens fail. -/
def failNextOpens (c : SimulatedCamera) (id : DeviceId) (count : Nat) : SimulatedCamera :=
  c.modify id fun d => { d with openFailures := count }

/-- Queues a failure for a later call. -/
def failNextCall (c : SimulatedCamera) (id : DeviceId) (e : HardwareError) : SimulatedCamera :=
  c.modify id fun d => { d with callFailures := d.callFailures ++ [e] }

/-- The number of handles open on a device. -/
def openHandles (c : SimulatedCamera) (id : DeviceId) : Nat :=
  ((c.devices.get? id).map (·.openHandles)).getD 0

-- ================================================================== calls

/-- Counts a call. -/
def count (c : SimulatedCamera) (f : CallCounts → CallCounts) : SimulatedCamera :=
  { c with calls := f c.calls }

/-- Opens a device. -/
def openDevice (id : DeviceId) (c : SimulatedCamera) :
    Except HardwareError Handle × SimulatedCamera :=
  let c := c.count fun n => { n with opens := n.opens + 1 }
  let missing : Except HardwareError Handle := .error (.hard ("Cannot find device: " ++ id.text))
  match c.devices.get? id with
  | none => (missing, c)
  | some d =>
      if 0 < d.openFailures then
        (missing, c.modify id fun d => { d with openFailures := d.openFailures - 1 })
      else (.ok ⟨id⟩, c.modify id fun d => { d with openHandles := d.openHandles + 1 })

/-- Answers a call on an open device: a queued failure if there is one, else
what `f` says. -/
def answer (h : Handle) (f : SimulatedDevice → Except HardwareError α × SimulatedDevice)
    (c : SimulatedCamera) : Except HardwareError α × SimulatedCamera :=
  match c.devices.get? h.device with
  | none => (.error (.hard ("device " ++ h.device.text ++ " detached")), c)
  | some d =>
      match d.callFailures with
      | e :: rest => (.error e, c.modify h.device fun d => { d with callFailures := rest })
      | [] =>
          let (result, d) := f d
          (result, c.modify h.device fun _ => d)

/-- Reads a feature. -/
def readFeature (h : Handle) (feature : String) (c : SimulatedCamera) :
    Except HardwareError String × SimulatedCamera :=
  (c.count fun n => { n with reads := n.reads + 1 }).answer h fun d =>
    match d.feature? feature with
    | some value => (.ok value, d)
    | none => (.error (.soft ("feature " ++ feature ++ " not found")), d)

/-- Writes a feature. -/
def writeFeature (h : Handle) (feature value : String) (c : SimulatedCamera) :
    Except HardwareError Unit × SimulatedCamera :=
  (c.count fun n => { n with writes := n.writes + 1 }).answer h fun d =>
    (.ok (), d.setFeature feature value)

/-- Grabs the image, whatever the format. -/
def grabImage (h : Handle) (_ : String) (c : SimulatedCamera) :
    Except HardwareError Bytes × SimulatedCamera :=
  (c.count fun n => { n with grabs := n.grabs + 1 }).answer h fun d =>
    if d.frame.isEmpty then (.error (.soft "no images"), d) else (.ok d.frame, d)

/-- Gives an image back. -/
def freeImage (_ : Bytes) (c : SimulatedCamera) : SimulatedCamera :=
  c.count fun n => { n with frees := n.frees + 1 }

/-- Closes a device. -/
def closeDevice (h : Handle) (c : SimulatedCamera) : SimulatedCamera :=
  let c := c.count fun n => { n with closes := n.closes + 1 }
  match c.devices.get? h.device with
  | none => c
  | some _ => c.modify h.device fun d => { d with openHandles := d.openHandles - 1 }

instance : Camera SimulatedCamera Handle Bytes where
  openDevice := openDevice
  readFeature := readFeature
  writeFeature := writeFeature
  grabImage := grabImage
  frameBytes := fun frame => frame
  freeImage := freeImage
  closeDevice := closeDevice

end SimulatedCamera

end CameraDriver
