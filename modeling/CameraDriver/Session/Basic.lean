/-
A client on a simulated clock.

The clock moves only when a session waits. After every call the tasks that
need neither the clock nor the collector run until they wait: those that
sleep in the order they went to sleep, then the others by device.

# Holding an open

A session can be told to hold the next open of a link task before it reaches
the camera. What began then can be left open while other calls are made, and
is finished later. Only that one open is held; an open that breaks off is not,
and the next one is held in its place.
-/
import CameraDriver.Client.Step
import CameraDriver.Session.Collector

namespace CameraDriver

/-- A link task of a device. -/
abbrev LinkKey := DeviceId × Token

/-- A client on a simulated clock. -/
structure Session (σ H F : Type) where
  client : Client σ H F
  /-- The time, in milliseconds. -/
  clock : Nat := 0
  collector : Collector
  /-- Link tasks that wait for the clock, in the order they went to sleep. -/
  asleep : List LinkKey := []
  /-- The next open is to be held. -/
  armed : Bool := false
  /-- The open that is held. -/
  held : Option LinkKey := none
  /-- The next open is to break off. -/
  breaking : Bool := false

namespace Session

variable {σ H F : Type} [Camera σ H F]

-- ================================================================= access

/-- Takes a step of the client. -/
def apply (s : Session σ H F) (step : Client.Step) : Session σ H F :=
  { s with client := s.client.apply step }

/-- A link task that has not ended. -/
def link? (s : Session σ H F) (key : LinkKey) : Option (LinkTask H) :=
  (s.client.devices.get? key.1).bind fun d => d.link? key.2

/-- Every link task, by device. -/
def links (s : Session σ H F) : List LinkKey :=
  s.client.devices.entries.flatMap fun (id, d) => d.links.map fun t => (id, t.token)

/-- Every upload, by device and generation. -/
def uploads (s : Session σ H F) : List (DeviceId × Upload F) :=
  s.client.devices.entries.flatMap fun (id, d) => d.uploads.map fun u => (id, u)

-- ============================================================== link tasks

/-- Notes whether a link task sleeps now. -/
def noteSleep (s : Session σ H F) (key : LinkKey) : Session σ H F :=
  let others := s.asleep.filter (· ≠ key)
  match s.link? key with
  | some { stage := .sleeping .., .. } => { s with asleep := others ++ [key] }
  | _ => { s with asleep := others }

/-- Moves a link task on by one step; none if it waits. -/
def stepLink (s : Session σ H F) (key : LinkKey) : Option (Session σ H F) :=
  let resume := fun (s : Session σ H F) =>
    some ((s.apply (.device key.1 (.resume s.clock key.2))).noteSleep key)
  match s.link? key with
  | none => none
  | some task =>
      match task.stage with
      | .opening _ =>
          if s.held = some key then none
          else if s.breaking then
            some ({ s with breaking := false }.apply (.device key.1 (.lose key.2)))
          else if s.armed then some { s with armed := false, held := some key }
          else some (s.apply (.device key.1 (.reach key.2)))
      | .opened .. => resume s
      | .spawned => resume s
      | .sleeping _ _ due => if task.cancelled || due ≤ s.clock then resume s else none

/-- The steps that a link task may take before it waits again: it wakes,
opens, goes on, begins a loop, and at the most one open is held or breaks
off. No task needs more (`runLink_waits`). -/
def linkFuel : Nat := 6

/-- Moves a link task on until it waits. -/
def runLink (key : LinkKey) : (fuel : Nat) → Session σ H F → Session σ H F
  | 0, s => s
  | fuel + 1, s =>
      match s.stepLink key with
      | some s => runLink key fuel s
      | none => s

-- ================================================================ uploads

/-- Ends an upload. -/
def finishUpload (s : Session σ H F) (id : DeviceId) (generation : Nat) (outcome : UploadOutcome) :
    Session σ H F :=
  { s with collector := s.collector.forget id generation }.apply
    (.device id (.finishUpload generation outcome))

/-- The request that an upload of a device has just sent. -/
def lastRequest? (s : Session σ H F) (id : DeviceId) : Option Request :=
  (s.client.devices.get? id).bind fun d =>
    match d.log with
    | .posted request :: _ => some request
    | _ => none

/-- Sends an upload, and ends it unless the collector keeps it waiting. -/
def runUpload (s : Session σ H F) (key : DeviceId × Upload F) : Session σ H F :=
  let (id, upload) := key
  match upload.stage with
  | .sent _ => s
  | .captured _ =>
      let s := s.apply (.device id (.sendUpload s.clock upload.generation))
      match s.lastRequest? id with
      | none => s
      | some request =>
          let (outcome, collector) := s.collector.receive id upload.generation request
          let s := { s with collector }
          match outcome with
          | some o => s.finishUpload id upload.generation o
          | none => s

-- =============================================================== settling

/-- Runs every task until it waits for the clock or for the collector. -/
def settle (s : Session σ H F) : Session σ H F :=
  let s := (s.asleep ++ s.links.filter (!s.asleep.contains ·)).foldl
    (fun s key => s.runLink key linkFuel) s
  s.uploads.foldl runUpload s

/-- Makes a call and settles. -/
def call (s : Session σ H F) (f : Client σ H F → α × Client σ H F) : α × Session σ H F :=
  let (a, client) := f s.client
  (a, { s with client }.settle)

-- ================================================================ waiting

/-- When the next thing is due: the link task that went to sleep first, or
an upload's deadline. -/
def nextDue? (s : Session σ H F) : Option Nat :=
  let wakes := s.asleep.filterMap fun key =>
    match s.link? key with
    | some { stage := .sleeping _ _ due, .. } => some due
    | _ => none
  let deadlines := s.uploads.filterMap fun (_, u) =>
    match u.stage with
    | .sent deadline => some deadline
    | .captured _ => none
  (wakes ++ deadlines).min?

/-- Gives up the uploads whose deadline has come. -/
def expire (s : Session σ H F) : Session σ H F :=
  s.uploads.foldl
    (fun s (id, u) => match u.stage with
      | .sent deadline =>
          if deadline ≤ s.clock then s.finishUpload id u.generation .failed else s
      | .captured _ => s)
    s

/-- Lets the time pass until `limit`, taking what is due on the way in order.
Stops early when an open is held. -/
def pass (limit : Nat) : (fuel : Nat) → Session σ H F → Session σ H F
  | 0, s => { s with clock := limit }
  | fuel + 1, s =>
      if s.held.isSome then s
      else
        match s.nextDue? with
        | none => { s with clock := limit }
        | some due =>
            if limit < due then { s with clock := limit }
            else pass limit fuel ({ s with clock := max s.clock due }.expire.settle)

/-- Lets the time pass until `limit`. Each task wakes at most once in a
millisecond, so these turns are enough (`passUntil_rested`). -/
def passUntil (s : Session σ H F) (limit : Nat) : Session σ H F :=
  s.pass limit ((limit - s.clock + 1) * (s.links.length + s.uploads.length + 1))

-- ============================================================== beginnings

/-- What can be begun, left at a held open, and finished. -/
inductive Start where
  | connect (id : DeviceId)
  | init (common : Option Bytes)
  | wait (ms : Nat)

/-- What has been begun. -/
inductive Begun where
  | connect (id : DeviceId)
  | init (result : Except DriverError Unit)
  | wait (limit : Nat)

/-- What has been finished. -/
inductive Finished where
  /-- Connecting, with the status of the device. -/
  | connected (status : Status)
  | initialized (result : Except DriverError Unit)
  | waited

/-- Begins something; it goes on until it is done or its open is held. -/
def start (s : Session σ H F) : Start → Begun × Session σ H F
  | .connect id => (.connect id, (s.apply (.device id .connect)).settle)
  | .init common =>
      let (result, s) := s.call (·.initDevice common)
      (.init (result.map fun _ => ()), s)
  | .wait ms =>
      let limit := s.clock + ms
      (.wait limit, s.passUntil limit)

/-- Finishes what was begun. -/
def finish (s : Session σ H F) : Begun → Finished × Session σ H F
  | .connect id =>
      let s := s.settle
      (.connected ((s.client.status? id).getD .disconnected), s)
  | .init result => (.initialized result, s.settle)
  | .wait limit => (.waited, s.settle.passUntil limit)

/-- Begins and finishes something. -/
def perform (s : Session σ H F) (what : Start) : Finished × Session σ H F :=
  let (begun, s) := s.start what
  s.finish begun

/-- Begins something with the next open held; says whether one is. -/
def startHeld (s : Session σ H F) (what : Start) : Bool × Begun × Session σ H F :=
  let (begun, s) := { s with armed := true }.start what
  (s.held.isSome, begun, { s with armed := false })

/-- Lets the held open go and finishes what was begun. -/
def release (s : Session σ H F) (begun : Begun) : Finished × Session σ H F :=
  { s with held := none }.finish begun

/-- Answers the upload that was kept waiting longest, if there is one. -/
def respond (s : Session σ H F) (reply : Reply) : Bool × Session σ H F :=
  match s.collector.held, Collector.outcome reply with
  | (id, generation) :: _, some outcome => (true, (s.finishUpload id generation outcome).settle)
  | (_, _) :: _, none => (true, s)
  | [], _ => (false, s)

end Session

end CameraDriver
