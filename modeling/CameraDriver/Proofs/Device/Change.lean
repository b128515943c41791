/-
What one step can do to a device, told once.

The steps of `Device/Step` are functions of a device and its camera. Here
each of their branches becomes a constructor of `Device.Change`, a relation
between the device before a step, the calls that the step makes, and the
device after it, with the branch's guard as a premise. Whatever the camera
answers is left open: an answer is a parameter of the constructor it leads to.

# Two kinds of steps

- Reading and writing features, targeting one, and the steps of uploads leave
  everything that link tasks work with alone; `Device.Beside` says so field by
  field. Their calls open and close nothing, and are made on the connection
  that the record holds, if they are made on one at all. A call that fails hard
  also reports the link down (`Device.lost`).
- The other steps are requests to the link and moves of its tasks. They write
  out their calls and the device they end in.

That every step is a change, and that its calls are what the camera was asked,
is `Site.apply_change` (Proofs/Device/Inversion); invariants of devices are
proved over the relation, one case a constructor, and never unfold a step
again.
-/
import CameraDriver.Device.Step
import CameraDriver.Proofs.Device.Calls

namespace CameraDriver

variable {σ H F : Type}

namespace Device

-- =============================================================== endings

/-- Notes that a connection was closed, if there is one. -/
def noteClosed (d : Device H F) : Option (Connection H) → Device H F
  | some c => d.note (.closed c.number)
  | none => d

/-- The call that closes the connection of the record, if there is one. -/
def closing (d : Device H F) : List (Call H) :=
  (d.record.handle.map (Call.closed d.id)).toList

/-- The device without its connection, which is closed. -/
def detached (d : Device H F) : Device H F :=
  (d.modifyRecord ({ · with handle := none })).noteClosed d.record.handle

/-- The device with a new task in charge, from a caller of connect. -/
def begun (d : Device H F) : Device H F :=
  { d.modifyRecord ({ · with linkTask := some d.nextToken }) with
    nextToken := d.nextToken + 1
    links := d.links ++ [{ token := d.nextToken, stage := .opening .first }] }

/-- The device whose link went down, with a reconnect loop in charge. -/
def lost (d : Device H F) : Device H F :=
  { (d.modifyRecord fun r =>
        { r with
          linkTask := some d.nextToken
          retryCount := 0
          reconnectLoops := r.reconnectLoops + 1 }).announce .disconnected with
    nextToken := d.nextToken + 1
    links := d.links ++ [{ token := d.nextToken, stage := .spawned }] }

/-- The device without the task in charge, which is cancelled. -/
def withdrawn (d : Device H F) : Device H F :=
  match d.record.linkTask with
  | some token => d.cancel token
  | none => d

/-- The stopped device. -/
def stopped (d : Device H F) : Device H F :=
  ((d.withdrawn.modifyRecord ({ · with linkTask := none, retryCount := 0, handle := none })).announce
    .disconnected).noteClosed d.record.handle

/-- The device that is connected by what a task's open gave. -/
def connectedBy (d : Device H F) (token : Token) (c : Connection H) : Device H F :=
  ((((d.endLink token).modifyRecord (·.install c)).noteClosed d.record.handle).modifyRecord
    ({ · with linkTask := none, retryCount := 0 })).announce .connected

/-- The device whose connect task has failed and left a loop in charge. -/
def handedOver (d : Device H F) (token : Token) : Device H F :=
  { ((d.announce .disconnected).modifyRecord fun r =>
        { r with reconnectLoops := r.reconnectLoops + 1 }).endLink token with
    links := (d.endLink token).links ++ [{ token, stage := .spawned }] }

/-- The device that a loop has given up on. -/
def givenUp (d : Device H F) (token : Token) : Device H F :=
  ((d.modifyRecord ({ · with linkTask := none })).announce .disconnected).endLink token

-- ================================================================ beside

/-- Nothing that link tasks work with was touched, and the calls that were
made concern the connection that the record holds. -/
structure Beside (d : Device H F) (calls : List (Call H)) (d' : Device H F) : Prop where
  id : d'.id = d.id
  history : d'.history = d.history
  links : d'.links = d.links
  nextToken : d'.nextToken = d.nextToken
  opened : d'.opened = d.opened
  handle : d'.record.handle = d.record.handle
  linkTask : d'.record.linkTask = d.record.linkTask
  linkEpoch : d'.record.linkEpoch = d.record.linkEpoch
  retryCount : d'.record.retryCount = d.record.retryCount
  reconnectLoops : d'.record.reconnectLoops = d.record.reconnectLoops
  log : d'.log = calls.map (·.event) ++ d.log
  calls : ∀ x ∈ calls, x.device = d.id ∧ x.event.opened? = none ∧ x.event.closed? = none ∧
    ∀ n, x.event.on? = some n →
      ∃ c, d.record.handle = some c ∧ c.number = n ∧ x.handle = some c.handle

/-- Nothing was touched, and no call made. -/
theorem Beside.refl (d : Device H F) : d.Beside [] d where
  id := rfl
  history := rfl
  links := rfl
  nextToken := rfl
  opened := rfl
  handle := rfl
  linkTask := rfl
  linkEpoch := rfl
  retryCount := rfl
  reconnectLoops := rfl
  log := rfl
  calls := fun x hx => by cases hx

/-- A status that is not touched. -/
theorem Beside.status {d d' : Device H F} {calls : List (Call H)} (h : d.Beside calls d') :
    d'.status = d.status := by
  unfold Entry.status
  rw [h.history]

/-- A call on the connection that the record holds, and its note. -/
theorem beside_note {d : Device H F} {c : Connection H} {e : Event}
    (hc : d.record.handle = some c) (ho : e.opened? = none) (hcl : e.closed? = none)
    (hu : e.on? = some c.number) :
    d.Beside [{ device := d.id, event := e, handle := some c.handle }] (d.note e) :=
  { Beside.refl d with
    log := rfl
    calls := by
      intro x hx
      rw [List.mem_singleton.mp hx]
      refine ⟨rfl, ho, hcl, ?_⟩
      intro n hn
      rw [hu] at hn
      exact ⟨c, hc, Option.some.inj hn, rfl⟩ }

end Device

-- ================================================================ stages

namespace LinkStage

/-- The connection that an open has given to a task that has not gone on. -/
def connection? : LinkStage H → Option (Connection H)
  | .opened _ (.ok c) => some c
  | _ => none

end LinkStage

/-- Whether a step is about features and uploads only. -/
def Site.Step.isFeature : Site.Step → Bool
  | .read _ => true
  | .write .. => true
  | .target _ => true
  | .sendUpload .. => true
  | .finishUpload .. => true
  | _ => false

namespace Device

-- =============================================================== changes

/-- What a step can do to a device, and the calls it makes. -/
inductive Change (pace : Site.Pace) :
    Site.Step → Device H F → List (Call H) → Device H F → Prop
  /-- The step does not apply. -/
  | still (step : Site.Step) (d : Device H F) : Change pace step d [] d
  | beside {step : Site.Step} {d d' : Device H F} {calls : List (Call H)}
      (hstep : step.isFeature = true) (h : d.Beside calls d') : Change pace step d calls d'
  /-- A feature call fails hard, and the link goes down. -/
  | failed {step : Site.Step} {d m : Device H F} {calls : List (Call H)}
      (hstep : step.isFeature = true) (hs : d.status = .connected) (h : d.Beside calls m)
      (hm : m.record.linkTask = none) : Change pace step d calls m.lost
  | begun {d : Device H F} (hr : d.record.linkTask = none) (hs : d.status ≠ .connected) :
      Change pace .connect d [] d.begun
  | lost {d : Device H F} (hr : d.record.linkTask = none) :
      Change pace (.linkDown d.record.linkEpoch) d [] d.lost
  | stopped (d : Device H F) : Change pace .stop d d.closing d.stopped
  /-- An open reaches the camera and succeeds. -/
  | opened {d : Device H F} {token : Token} {k : LinkTask H} {attempt : Attempt}
      (hk : d.link? token = some k) (hst : k.stage = .opening attempt) (handle : H) :
      Change pace (.reach token) d [.opened d.id ⟨d.opened + 1, handle⟩]
        { (d.setStage token (.opened attempt (.ok ⟨d.opened + 1, handle⟩))).note
            (.opened (.ok (d.opened + 1))) with opened := d.opened + 1 }
  /-- An open reaches the camera and fails. -/
  | refused {d : Device H F} {token : Token} {k : LinkTask H} {attempt : Attempt}
      (hk : d.link? token = some k) (hst : k.stage = .opening attempt) (e : HardwareError) :
      Change pace (.reach token) d [{ device := d.id, event := .opened (.error e) }]
        ((d.setStage token (.opened attempt (.error e))).note (.opened (.error e)))
  /-- An open breaks off. -/
  | broken {d : Device H F} {token : Token} {k : LinkTask H} {attempt : Attempt}
      (hk : d.link? token = some k) (hst : k.stage = .opening attempt) (e : HardwareError) :
      Change pace (.lose token) d [] (d.setStage token (.opened attempt (.error e)))
  /-- A cancelled task closes what its open gave. -/
  | dropped {d : Device H F} {now token : Nat} {k : LinkTask H} {c : Connection H}
      (hk : d.link? token = some k) (hst : k.stage.connection? = some c)
      (hc : k.cancelled = true) :
      Change pace (.resume now token) d [.closed d.id c]
        ((d.endLink token).note (.closed c.number))
  /-- A cancelled task that has nothing to close. -/
  | ended {d : Device H F} {now token : Nat} {k : LinkTask H}
      (hk : d.link? token = some k)
      (hst : (∃ attempt e, k.stage = .opened attempt (.error e))
        ∨ ∃ made max due, k.stage = .sleeping made max due)
      (hc : k.cancelled = true) : Change pace (.resume now token) d [] (d.endLink token)
  /-- A task connects the device. -/
  | connected {d : Device H F} {now token : Nat} {k : LinkTask H} {c : Connection H}
      (hk : d.link? token = some k) (hst : k.stage.connection? = some c)
      (hc : k.cancelled = false) :
      Change pace (.resume now token) d d.closing (d.connectedBy token c)
  | handedOver {d : Device H F} {now token : Nat} {k : LinkTask H} {e : HardwareError}
      (hk : d.link? token = some k) (hst : k.stage = .opened .first (.error e))
      (hc : k.cancelled = false) : Change pace (.resume now token) d [] (d.handedOver token)
  /-- An attempt fails, and another one may be made. -/
  | retried {d : Device H F} {now token number max : Nat} {k : LinkTask H} {e : HardwareError}
      (hk : d.link? token = some k) (hst : k.stage = .opened (.retry number max) (.error e))
      (hc : k.cancelled = false) (hlt : number < max) :
      Change pace (.resume now token) d []
        ((d.modifyRecord ({ · with retryCount := number })).setStage token
          (.sleeping number max (now + pace.interval)))
  /-- The last attempt fails. -/
  | exhausted {d : Device H F} {now token number max : Nat} {k : LinkTask H}
      {e : HardwareError} (hk : d.link? token = some k)
      (hst : k.stage = .opened (.retry number max) (.error e)) (hc : k.cancelled = false)
      (hge : max ≤ number) :
      Change pace (.resume now token) d []
        ((d.modifyRecord ({ · with retryCount := number })).givenUp token)
  /-- A loop that was cancelled before it ran; it closes the connection of
  the moment all the same. -/
  | loopEnded {d : Device H F} {now token : Nat} {k : LinkTask H}
      (hk : d.link? token = some k) (hst : k.stage = .spawned) (hc : k.cancelled = true) :
      Change pace (.resume now token) d d.closing (d.detached.endLink token)
  /-- A loop that may make no attempt. -/
  | loopSpent {d : Device H F} {now token : Nat} {k : LinkTask H}
      (hk : d.link? token = some k) (hst : k.stage = .spawned) (hc : k.cancelled = false)
      (hmax : d.record.maxRetry = 0) :
      Change pace (.resume now token) d d.closing (d.detached.givenUp token)
  | loopBegun {d : Device H F} {now token : Nat} {k : LinkTask H}
      (hk : d.link? token = some k) (hst : k.stage = .spawned) (hc : k.cancelled = false)
      (hmax : 0 < d.record.maxRetry) :
      Change pace (.resume now token) d d.closing
        (d.detached.setStage token (.sleeping 0 d.record.maxRetry (now + pace.interval)))
  /-- The next attempt is due. -/
  | woken {d : Device H F} {now token made max due : Nat} {k : LinkTask H}
      (hk : d.link? token = some k) (hst : k.stage = .sleeping made max due)
      (hc : k.cancelled = false) (hdue : due ≤ now) :
      Change pace (.resume now token) d []
        ((d.announce (.reconnecting (made + 1))).setStage token
          (.opening (.retry (made + 1) max)))

end Device

end CameraDriver
