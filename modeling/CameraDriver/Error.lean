/-
Errors and their wording. A `CoreError` comes from setting the program up, a
`DriverError` from a call on a device.
-/
import CameraDriver.DeviceId
import CameraDriver.Duration
import CameraDriver.Text.Quoted
import CameraDriver.Value.Wire

namespace CameraDriver

/-- Failures of configuration, runtime set-up and waiting. -/
inductive CoreError where
  | config (reason : String)
  | runtime (reason : String)
  | timeout (reason : String)
  | io (reason : String)
  | serialization (reason : String)
deriving DecidableEq, Repr

/-- The wording of a core error. -/
def CoreError.message : CoreError → String
  | .config reason => "Configuration error: " ++ reason
  | .runtime reason => "Runtime error: " ++ reason
  | .timeout reason => "Timeout: " ++ reason
  | .io reason => "I/O error: " ++ reason
  | .serialization reason => "Serialization error: " ++ reason

/-- The outcome of waiting at most `limit` for a result. -/
def withTimeout (limit : Duration) : Option α → Except CoreError α
  | some a => .ok a
  | none => .error (.timeout ("Operation timed out after " ++ limit.text))

/-- Installs the log subscriber; a process has one, and it stays. -/
def installLogging (installed : Bool) : Except CoreError Unit :=
  if installed then
    .error (.runtime ("Failed to initialize logging: "
      ++ "a global default trace dispatcher has already been set"))
  else .ok ()

/-- One of the three configuration blobs a call carries. -/
inductive ConfigPart where
  | common
  | visitor
  | protocol
deriving DecidableEq, Repr

/-- The name of a part. -/
def ConfigPart.name : ConfigPart → String
  | .common => "common"
  | .visitor => "visitor"
  | .protocol => "protocol"

/-- Failures of a call on a device. -/
inductive DriverError where
  /-- A blob does not decode; nothing was applied. -/
  | decode (part : ConfigPart) (reason : String)
  /-- The written value has no canonical text. -/
  | unsupportedType (kind : Value.Kind)
  /-- A virtual feature refused the value, given by its canonical text. -/
  | validation (feature value reason : String)
  /-- The call failed; the link is up. -/
  | softHardware (device : DeviceId) (reason : String)
  /-- The call failed and the link is down; a reconnect was scheduled. -/
  | hardHardware (device : DeviceId) (reason : String)
  /-- The device is known but not connected. -/
  | notConnected (device : DeviceId)
  /-- No device of that name is known. -/
  | unknownDevice (device : DeviceId)
  /-- The configuration names no device. -/
  | missingDeviceId
  | publish (reason : String)
  | library (reason : String)
  | core (cause : CoreError)
deriving DecidableEq, Repr

namespace DriverError

/-- The wording of a driver error. -/
def message : DriverError → String
  | .decode part reason => "failed to decode " ++ part.name ++ " config: " ++ reason
  | .unsupportedType kind => Value.unsupported kind
  | .validation feature value reason =>
      "invalid value " ++ Text.Quoted.encode value ++ " for " ++ feature ++ ": " ++ reason
  | .softHardware device reason => "device " ++ device.text ++ ": " ++ reason
  | .hardHardware device reason => "device " ++ device.text ++ " link down: " ++ reason
  | .notConnected device => "device " ++ device.text ++ " is unreachable"
  | .unknownDevice device => "device " ++ device.text ++ " is not initialized"
  | .missingDeviceId => "device serial number can not be empty"
  | .publish reason => "publish error: " ++ reason
  | .library reason => "library error: " ++ reason
  | .core cause => "core error: " ++ cause.message

/-- Whether the error took the link down. -/
def isLinkDown : DriverError → Bool
  | .hardHardware .. => true
  | _ => false

end DriverError

end CameraDriver
