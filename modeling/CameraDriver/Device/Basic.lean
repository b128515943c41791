/-
What a device's state is told in: connection status, trigger modes, image
formats, and the features that the driver serves itself.
-/
import CameraDriver.Number.Layout

namespace CameraDriver

open Number

/-- Connection status of a device. -/
inductive Status where
  /-- The handle is open and calls are forwarded. -/
  | connected
  /-- No usable handle. -/
  | disconnected
  /-- A reconnect loop is at its `attempt`-th try, counted from 1. -/
  | reconnecting (attempt : Nat)
deriving DecidableEq, Repr, Inhabited

namespace Status

/-- Whether calls can be forwarded. -/
def isConnected : Status → Bool
  | .connected => true
  | _ => false

/-- The text of a status. -/
def text : Status → String
  | .connected => "connected"
  | .disconnected => "disconnected"
  | .reconnecting attempt => "reconnecting (attempt " ++ integerText attempt ++ ")"

end Status

/-- What a write to the trigger feature asks for. -/
inductive TriggerMode where
  | single
  | continuous
  | stop
deriving DecidableEq, Repr

namespace TriggerMode

/-- Every mode, in the order messages list them. -/
def all : List TriggerMode := [.single, .continuous, .stop]

/-- The name of a mode. -/
def name : TriggerMode → String
  | .single => "single"
  | .continuous => "continuous"
  | .stop => "stop"

/-- The mode with a name; case matters. -/
def ofName? (s : String) : Option TriggerMode := all.find? (·.name == s)

/-- Whether writing the mode starts a capture. -/
def startsCapture (m : TriggerMode) : Bool := m ≠ .stop

end TriggerMode

/-- Encoding requested for captured images. -/
inductive ImageFormat where
  | jpeg
  | png
  | pnm
deriving DecidableEq, Repr

namespace ImageFormat

/-- Every format, in the order messages list them. -/
def all : List ImageFormat := [.jpeg, .png, .pnm]

/-- The name of a format. -/
def name : ImageFormat → String
  | .jpeg => "jpeg"
  | .png => "png"
  | .pnm => "pnm"

/-- The format with a name; case matters. -/
def ofName? (s : String) : Option ImageFormat := all.find? (·.name == s)

end ImageFormat

/-- Features served from the driver's state instead of the device. -/
inductive VirtualFeature where
  /-- Writing a capturing mode grabs an image and reports it. -/
  | imageTrigger
  | imageFormat
  /-- Where captured images are reported to. -/
  | imageUrl
  /-- Reconnect attempts before giving up. -/
  | maxRetryTimes
deriving DecidableEq, Repr

namespace VirtualFeature

/-- Every virtual feature. -/
def all : List VirtualFeature := [.imageTrigger, .imageFormat, .imageUrl, .maxRetryTimes]

/-- The name of a feature in configurations. -/
def name : VirtualFeature → String
  | .imageTrigger => "ImageTrigger"
  | .imageFormat => "ImageFormat"
  | .imageUrl => "ImageURL"
  | .maxRetryTimes => "MaxRetryTimes"

/-- The virtual feature with a name; case matters. -/
def ofName? (s : String) : Option VirtualFeature := all.find? (·.name == s)

end VirtualFeature

end CameraDriver
