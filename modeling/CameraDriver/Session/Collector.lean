/-
The receiver of image uploads. It answers each upload with the next of the
replies that were given to it, or takes it as successful if there is none
left. Without a network in between nothing reaches it, and every upload
fails; so does, in any case, an upload to an endpoint that is not plain http.
-/
import CameraDriver.Device.Site

namespace CameraDriver

/-- What the collector does with an upload. -/
inductive Reply where
  /-- Answers with a status. -/
  | status (code : Nat)
  /-- Closes the connection. -/
  | drop
  /-- Keeps it waiting. -/
  | hold
deriving DecidableEq, Repr

/-- The receiver of image uploads. -/
structure Collector where
  /-- Whether uploads reach it. -/
  reachable : Bool
  /-- The replies to come. -/
  replies : List Reply := []
  /-- The uploads kept waiting, the oldest first, by device and generation. -/
  held : List (DeviceId × Nat) := []
  /-- The requests received, the latest first. -/
  received : List Request := []

namespace Collector

/-- How a reply ends an upload, if it does. -/
def outcome : Reply → Option UploadOutcome
  | .status code => some (.answered code)
  | .drop => some .failed
  | .hold => none

/-- Receives the upload of a device; gives its end, unless it is kept
waiting. -/
def receive (c : Collector) (id : DeviceId) (generation : Nat) (request : Request) :
    Option UploadOutcome × Collector :=
  if !c.reachable || !request.endpoint.isHttp then (some .failed, c)
  else
    let reply := c.replies.headD (.status 200)
    let c := { c with replies := c.replies.drop 1, received := request :: c.received }
    match outcome reply with
    | some o => (some o, c)
    | none => (none, { c with held := c.held ++ [(id, generation)] })

/-- Forgets an upload that was given up. -/
def forget (c : Collector) (id : DeviceId) (generation : Nat) : Collector :=
  { c with held := c.held.filter (· ≠ (id, generation)) }

end Collector

end CameraDriver
