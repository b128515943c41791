/-
Reading and writing the features of a connected device.

Four features are virtual: they are served from the device's record. Every
other name goes to the camera as it is, and a value goes as its canonical
text. A soft failure is returned; a hard one is returned too, and the link
is reported down.
-/
import CameraDriver.Device.Link
import CameraDriver.Device.Publish
import CameraDriver.Error
import CameraDriver.Number.Numeral
import CameraDriver.Text.Blank
import CameraDriver.Url.Parser
import CameraDriver.Value.Wire

namespace CameraDriver

open Number

namespace VirtualFeature

-- ================================================================ values

/-- The text that a virtual feature reads as. -/
def read (f : VirtualFeature) (r : Record H) : String :=
  match f with
  | .imageTrigger => r.capture.trigger.name
  | .imageFormat => r.capture.format.name
  | .imageUrl => match r.capture.endpoint with
      | some url => url.text
      | none => ""
  | .maxRetryTimes => integerText r.maxRetry

/-- The reason for a value that is not one of some names. -/
def allowedValues (names : List String) : String :=
  "allowed values are " ++ ", ".intercalate names

/-- The refusal of a value. -/
def refuse (f : VirtualFeature) (value reason : String) : Except DriverError α :=
  .error (.validation f.name value reason)

/-- The greatest number of reconnect attempts. -/
def maxRetryLimit : Nat := 4294967295

/-- The trigger mode that a text names. -/
def triggerMode (text : String) : Except DriverError TriggerMode :=
  match TriggerMode.ofName? text with
  | some mode => .ok mode
  | none => refuse .imageTrigger text (allowedValues (TriggerMode.all.map TriggerMode.name))

/-- The image format that a text names. -/
def format (text : String) : Except DriverError ImageFormat :=
  match ImageFormat.ofName? text with
  | some f => .ok f
  | none => refuse .imageFormat text (allowedValues (ImageFormat.all.map ImageFormat.name))

/-- The endpoint that a text gives: an http or https URL, with white space
around it or not; an empty text gives none. -/
def endpoint (text : String) : Except DriverError (Option Url) :=
  let text := Text.trim text
  let reason := "expected an absolute http or https URL"
  if text.isEmpty then .ok none
  else
    match Url.parse text with
    | .ok url => if url.isHttp || url.isHttps then .ok (some url) else refuse .imageUrl text reason
    | .error fault => refuse .imageUrl text (reason ++ " (" ++ fault.message ++ ")")

/-- The number of attempts that a text gives, with white space around it or
not. -/
def maxRetry (text : String) : Except DriverError Nat :=
  match natural? maxRetryLimit (Text.trim text) with
  | some n => .ok n
  | none => refuse .maxRetryTimes text "expected a non-negative integer"

end VirtualFeature

namespace Site

variable {σ H F : Type} [Camera σ H F]

-- ============================================================== failures

/-- The device must be connected; gives its connection. -/
def connection (s : Site σ H F) : Except DriverError (Connection H) :=
  if !s.device.status.isConnected then .error (.notConnected s.device.id)
  else
    match s.device.record.handle with
    | some c => .ok c
    | none => .error (.notConnected s.device.id)

/-- The error for a failed call made on the connection of an epoch; if it is
hard, the link is reported down. -/
def failure (epoch : Nat) (action feature : String) (e : HardwareError) (s : Site σ H F) :
    DriverError × Site σ H F :=
  let id := s.device.id
  let reason := action ++ " " ++ feature ++ " from device " ++ id.text ++ " failed: " ++ e.message
  if e.isHard then (.hardHardware id reason, (s.linkDown epoch).2)
  else (.softHardware id reason, s)

-- ================================================================ reading

/-- Reads a feature of the device itself. -/
def readDevice (feature : String) (c : Connection H) (s : Site σ H F) :
    Except DriverError Value × Site σ H F :=
  let epoch := s.device.record.linkEpoch
  let (result, camera) := Camera.readFeature c.handle feature s.camera
  let s : Site σ H F := { camera, device := s.device.note (.read c.number feature result) }
  match result with
  | .ok value => (.ok (.text value), s)
  | .error e =>
      let (error, s) := s.failure epoch "get" feature e
      (.error error, s)

/-- Reads a feature of a connected device. -/
def read (feature : String) (s : Site σ H F) : Except DriverError Value × Site σ H F :=
  if !s.device.status.isConnected then (.error (.notConnected s.device.id), s)
  else
    match VirtualFeature.ofName? feature with
    | some f => (.ok (.text (f.read s.device.record)), s)
    | none =>
        match s.connection with
        | .error e => (.error e, s)
        | .ok c => s.readDevice feature c

-- ================================================================ writing

/-- Writes a feature of the device itself. -/
def writeDevice (feature text : String) (c : Connection H) (s : Site σ H F) :
    Except DriverError Unit × Site σ H F :=
  let epoch := s.device.record.linkEpoch
  let (result, camera) := Camera.writeFeature c.handle feature text s.camera
  let s : Site σ H F := { camera, device := s.device.note (.written c.number feature text result) }
  match result with
  | .ok () => (.ok (), s)
  | .error e =>
      let (error, s) := s.failure epoch "set" feature e
      (.error error, s)

/-- Writes the trigger. A capture that fails is not reported to the caller,
since the trigger itself was accepted; a hard failure takes the link down. -/
def writeTrigger (mode : TriggerMode) (s : Site σ H F) : Site σ H F :=
  if mode.startsCapture then
    let epoch := s.device.record.linkEpoch
    match s.trigger mode with
    | (.ok _, s) => s
    | (.error e, s) => if e.isHard then (s.linkDown epoch).2 else s
  else
    s.onDevice (·.modifyRecord fun r =>
      let r := r.nextGeneration
      { r with capture := { r.capture with trigger := .stop } })

/-- Writes a virtual feature. -/
def writeVirtual (f : VirtualFeature) (text : String) (s : Site σ H F) :
    Except DriverError Unit × Site σ H F :=
  match f with
  | .imageTrigger =>
      match VirtualFeature.triggerMode text with
      | .ok mode => (.ok (), s.writeTrigger mode)
      | .error e => (.error e, s)
  | .imageFormat =>
      match VirtualFeature.format text with
      | .ok format => (.ok (), s.onDevice (·.modifyRecord fun r =>
          { r with capture := { r.capture with format } }))
      | .error e => (.error e, s)
  | .imageUrl =>
      match VirtualFeature.endpoint text with
      | .ok endpoint => (.ok (), s.onDevice (·.modifyRecord fun r =>
          { r with capture := { r.capture with endpoint } }))
      | .error e => (.error e, s)
  | .maxRetryTimes =>
      match VirtualFeature.maxRetry text with
      | .ok maxRetry => (.ok (), s.onDevice (·.modifyRecord ({ · with maxRetry })))
      | .error e => (.error e, s)

/-- Writes a feature of a connected device. A value without canonical text
is refused whatever the device's state. -/
def write (feature : String) (value : Value) (s : Site σ H F) :
    Except DriverError Unit × Site σ H F :=
  match value.wire with
  | .error kind => (.error (.unsupportedType kind), s)
  | .ok text =>
      if !s.device.status.isConnected then (.error (.notConnected s.device.id), s)
      else
        match VirtualFeature.ofName? feature with
        | some f => s.writeVirtual f text
        | none =>
            match s.connection with
            | .error e => (.error e, s)
            | .ok c => s.writeDevice feature text c

end Site

end CameraDriver
