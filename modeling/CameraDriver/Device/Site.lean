/-
A device together with the tasks that still run for it, the camera it hangs
on, and the log of what was asked of the camera and sent to the network.

# Tasks

A link task connects the device or reconnects it. It is named by a token and
stands in one of four stages; what it does next depends on the stage alone,
so that a scheduler may run it whenever it likes. A cancelled task keeps its
place until it notices. An upload sends one captured image.

# Connections

Successful opens of a device are numbered from 1, and a connection carries
its number, so that the log tells which connection a call was made on.
-/
import CameraDriver.Device.Record
import CameraDriver.Hardware.Camera
import CameraDriver.Json.Writer
import CameraDriver.Text.Base64

namespace CameraDriver

/-- An open connection to a device. -/
structure Connection (H : Type) where
  number : Nat
  handle : H

-- ================================================================== tasks

/-- On whose behalf a device is opened. -/
inductive Attempt where
  /-- On behalf of a caller of `connect`. -/
  | first
  /-- The `number`-th try, from 1, of a reconnect loop that may make `max`. -/
  | retry (number max : Nat)
deriving DecidableEq, Repr

/-- Where a link task stands. -/
inductive LinkStage (H : Type) where
  /-- Its open was called but has not reached the camera. -/
  | opening (attempt : Attempt)
  /-- Its open has returned; the task has not gone on. -/
  | opened (attempt : Attempt) (result : Except HardwareError (Connection H))
  /-- A reconnect loop that has not run yet. -/
  | spawned
  /-- A reconnect loop that has made some of its attempts and waits for the
  next, which is due at a time. -/
  | sleeping (made max due : Nat)

/-- A connect or reconnect task. -/
structure LinkTask (H : Type) where
  token : Token
  cancelled : Bool := false
  stage : LinkStage H

/-- Where an upload stands. -/
inductive UploadStage (F : Type) where
  /-- The frame is captured; nothing was sent. -/
  | captured (frame : F)
  /-- The request is out; it is given up at the deadline. -/
  | sent (deadline : Nat)

/-- An upload that has not finished, named by its trigger generation. -/
structure Upload (F : Type) where
  generation : Nat
  mode : TriggerMode
  endpoint : Url
  stage : UploadStage F

/-- How an upload ended. -/
inductive UploadOutcome where
  /-- With an answer. -/
  | answered (status : Nat)
  /-- Without one. -/
  | failed
deriving DecidableEq, Repr

/-- Whether the image was taken. -/
def UploadOutcome.isSuccess : UploadOutcome → Bool
  | .answered status => 200 ≤ status && status < 300
  | .failed => false

-- ==================================================================== log

/-- A request to an image endpoint. -/
structure Request where
  endpoint : Url
  body : String
deriving DecidableEq, Repr

namespace Request

/-- The method of every request. -/
def method : String := "POST"

/-- The content type of every request. Receivers in the field match on it,
even though the body is JSON. -/
def contentType : String := "application/x-www-form-urlencoded; param=value"

/-- The body of an image upload: its size and its bytes in Base64. -/
def envelope (bytes : Bytes) : Json :=
  .obj [("size", .int bytes.length), ("value", .str (String.ofList (Text.Base64.encode bytes)))]

/-- The upload of an image. -/
def ofImage (endpoint : Url) (bytes : Bytes) : Request := ⟨endpoint, (envelope bytes).text⟩

end Request

/-- Something asked of the camera for a device, or sent for it. -/
inductive Event where
  /-- An open, with the number of the connection it gave. -/
  | opened (result : Except HardwareError Nat)
  | read (connection : Nat) (feature : String) (result : Except HardwareError String)
  | written (connection : Nat) (feature value : String) (result : Except HardwareError Unit)
  /-- An image grab, with the number of bytes it gave. -/
  | grabbed (connection : Nat) (format : String) (result : Except HardwareError Nat)
  | freed
  | closed (connection : Nat)
  | posted (request : Request)

-- ================================================================= device

/-- A known device with its unfinished tasks. -/
structure Device (H F : Type) extends Entry (Connection H) where
  /-- The link tasks, in the order they were started. -/
  links : List (LinkTask H) := []
  /-- The uploads, in the order they were started. -/
  uploads : List (Upload F) := []
  /-- The token of the next link task. -/
  nextToken : Token := 0
  /-- Successful opens so far. -/
  opened : Nat := 0
  /-- What happened, the latest first. -/
  log : List Event := []

namespace Device

/-- A device that was never connected. -/
def fresh (id : DeviceId) (format : ImageFormat) (maxRetry : Nat) : Device H F :=
  { toEntry := Entry.fresh id format maxRetry }

/-- Adds to the log. -/
def note (d : Device H F) (e : Event) : Device H F := { d with log := e :: d.log }

/-- Changes the record. -/
def modifyRecord (d : Device H F) (f : Record (Connection H) → Record (Connection H)) :
    Device H F :=
  { d with record := f d.record }

/-- Publishes a status. -/
def announce (d : Device H F) (s : Status) : Device H F := { d with history := s :: d.history }

/-- The link task with a token. -/
def link? (d : Device H F) (token : Token) : Option (LinkTask H) :=
  d.links.find? (·.token == token)

/-- Puts a link task into a stage. -/
def setStage (d : Device H F) (token : Token) (stage : LinkStage H) : Device H F :=
  { d with links := d.links.map fun t => if t.token = token then { t with stage } else t }

/-- Marks a link task as cancelled. -/
def cancel (d : Device H F) (token : Token) : Device H F :=
  { d with links := d.links.map fun t =>
      if t.token = token then { t with cancelled := true } else t }

/-- Ends a link task. -/
def endLink (d : Device H F) (token : Token) : Device H F :=
  { d with links := d.links.filter (·.token ≠ token) }

/-- The upload of a generation. -/
def upload? (d : Device H F) (generation : Nat) : Option (Upload F) :=
  d.uploads.find? (·.generation == generation)

end Device

/-- A device and the camera it hangs on. -/
structure Site (σ H F : Type) where
  camera : σ
  device : Device H F

namespace Site

variable {σ H F : Type} [Camera σ H F]

/-- Changes the device. -/
def onDevice (s : Site σ H F) (f : Device H F → Device H F) : Site σ H F :=
  { s with device := f s.device }

/-- Closes a connection. -/
def close (s : Site σ H F) (c : Connection H) : Site σ H F :=
  { camera := Camera.closeDevice c.handle s.camera
    device := s.device.note (.closed c.number) }

/-- Closes a connection if there is one. -/
def close? (s : Site σ H F) : Option (Connection H) → Site σ H F
  | some c => s.close c
  | none => s

end Site

end CameraDriver
