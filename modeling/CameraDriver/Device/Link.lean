/-
Connecting a device and keeping it connected.

The status runs from disconnected to connected, and back when the link is
reported down; then it counts reconnect attempts, until one succeeds or the
budget is spent. One link task at most is in charge of a device: the record
holds its token, and while it does, further reports and connects change
nothing. Stopping a device cancels the task; what the task still does
afterwards is to close what its own open returned.

A reconnect loop begins by closing the connection that went down, and waits
before each attempt, the first one included.
-/
import CameraDriver.Device.Site

namespace CameraDriver.Site

variable {σ H F : Type} [Camera σ H F]

-- =============================================================== requests

/-- Starts to connect a device, unless it is connected or a link task is in
charge. The open itself follows when the task runs. -/
def beginConnect (s : Site σ H F) : Option Token × Site σ H F :=
  if s.device.record.linkTask.isSome || s.device.status.isConnected then (none, s)
  else
    let token := s.device.nextToken
    (some token, s.onDevice fun d =>
      { d.modifyRecord ({ · with linkTask := some token }) with
        nextToken := token + 1
        links := d.links ++ [{ token, stage := .opening .first }] })

/-- Reports the link down, as seen on the connection of an epoch. Nothing
happens while a link task is in charge or if the connection was replaced
since; says whether a reconnect loop was started. -/
def linkDown (epoch : Nat) (s : Site σ H F) : Bool × Site σ H F :=
  if s.device.record.linkTask.isSome || s.device.record.linkEpoch ≠ epoch then (false, s)
  else
    let token := s.device.nextToken
    (true, s.onDevice fun d =>
      { (d.modifyRecord fun r =>
            { r with
              linkTask := some token
              retryCount := 0
              reconnectLoops := r.reconnectLoops + 1 }).announce .disconnected with
        nextToken := token + 1
        links := d.links ++ [{ token, stage := .spawned }] })

/-- Stops a device: cancels the link task in charge and closes the
connection. -/
def stop (s : Site σ H F) : Site σ H F :=
  let held := s.device.record.handle
  let s := s.onDevice fun d =>
    let d := match d.record.linkTask with
      | some token => d.cancel token
      | none => d
    (d.modifyRecord ({ · with linkTask := none, retryCount := 0, handle := none })).announce
      .disconnected
  s.close? held

-- ================================================================== opens

/-- The open of a link task reaches the camera. -/
def reach (token : Token) (s : Site σ H F) : Site σ H F :=
  match s.device.link? token with
  | some { stage := .opening attempt, .. } =>
      let (result, camera) := Camera.openDevice s.device.id s.camera
      let number := s.device.opened + 1
      match result with
      | .ok handle =>
          { camera
            device :=
              { (s.device.setStage token (.opened attempt (.ok ⟨number, handle⟩))).note
                  (.opened (.ok number)) with opened := number } }
      | .error e =>
          { camera
            device := (s.device.setStage token (.opened attempt (.error e))).note
              (.opened (.error e)) }
  | _ => s

/-- The open of a link task breaks off before it reaches the camera, which
counts as a soft failure. -/
def lose (token : Token) (s : Site σ H F) : Site σ H F :=
  match s.device.link? token with
  | some { stage := .opening attempt, .. } =>
      s.onDevice (·.setStage token (.opened attempt (.error (.soft "open task failed"))))
  | _ => s

/-- Installs a connection and closes the one it replaces; the device is
connected and no link task is in charge. -/
def install (c : Connection H) (s : Site σ H F) : Site σ H F :=
  let stale := s.device.record.handle
  let s := (s.onDevice (·.modifyRecord (·.install c))).close? stale
  s.onDevice fun d =>
    (d.modifyRecord ({ · with linkTask := none, retryCount := 0 })).announce .connected

/-- A reconnect loop that has spent its attempts leaves the device
disconnected. -/
def giveUp (token : Token) (s : Site σ H F) : Site σ H F :=
  s.onDevice fun d =>
    ((d.modifyRecord ({ · with linkTask := none })).announce .disconnected).endLink token

-- ============================================================ going on

/-- A link task goes on with what its open returned. -/
def settle (interval now : Nat) (task : LinkTask H) (attempt : Attempt)
    (result : Except HardwareError (Connection H)) (s : Site σ H F) : Site σ H F :=
  let token := task.token
  if task.cancelled then
    match result with
    | .ok c => (s.onDevice (·.endLink token)).close c
    | .error _ => s.onDevice (·.endLink token)
  else
    match result with
    | .ok c => (s.onDevice (·.endLink token)).install c
    | .error _ =>
        match attempt with
        | .first => s.onDevice fun d =>
            let d := (d.announce .disconnected).modifyRecord fun r =>
              { r with reconnectLoops := r.reconnectLoops + 1 }
            { d.endLink token with
              links := (d.endLink token).links ++ [{ token, stage := .spawned }] }
        | .retry number max =>
            let s := s.onDevice (·.modifyRecord ({ · with retryCount := number }))
            if number < max then
              s.onDevice (·.setStage token (.sleeping number max (now + interval)))
            else s.giveUp token

/-- The first step of a reconnect loop: it closes the connection that went
down, and waits for its first attempt if it may make any. -/
def startLoop (interval now : Nat) (task : LinkTask H) (s : Site σ H F) : Site σ H F :=
  let stale := s.device.record.handle
  let s := (s.onDevice (·.modifyRecord ({ · with handle := none }))).close? stale
  let max := s.device.record.maxRetry
  if task.cancelled then s.onDevice (·.endLink task.token)
  else if max = 0 then s.giveUp task.token
  else s.onDevice (·.setStage task.token (.sleeping 0 max (now + interval)))

/-- A link task goes on, at a time of the clock, if it can: not while its
open is on the way, nor before its next attempt is due. -/
def resume (interval now : Nat) (token : Token) (s : Site σ H F) : Site σ H F :=
  match s.device.link? token with
  | none => s
  | some task =>
      match task.stage with
      | .opening _ => s
      | .opened attempt result => s.settle interval now task attempt result
      | .spawned => s.startLoop interval now task
      | .sleeping made max due =>
          if task.cancelled then s.onDevice (·.endLink token)
          else if due ≤ now then
            s.onDevice fun d =>
              (d.announce (.reconnecting (made + 1))).setStage token
                (.opening (.retry (made + 1) max))
          else s

end CameraDriver.Site
