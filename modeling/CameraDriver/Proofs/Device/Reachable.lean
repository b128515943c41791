/-
The states that a device gets into, under two orders of steps.

`Site.Reachable` takes the steps in any order: a task may be left standing for
as long as one likes, a loop that was spawned may begin after whatever else
has happened. Between the steps of a device anything may happen to its camera,
which other devices share.

`Site.InTurn` takes them as a scheduler with one queue does. A loop that was
spawned stands in the queue, and an open that is started later comes back
behind it: the task of the open goes on only when that loop has begun. To say
so the relation carries, for each open, the loops that stood in the queue when
it was started (`Queue`). Nothing else is ordered; opens of before that moment
come back when they like.

`Reachable.invariant` is the induction for both: an invariant of devices is
proved over `Device.Change` and holds in every state.

`Site.Taken` keeps the steps on the way, for what depends on more than the
last state.
-/
import CameraDriver.Proofs.Device.Inversion
import CameraDriver.Hardware.Simulated

namespace CameraDriver

variable {σ H F : Type}

-- ============================================================= any order

namespace Site

variable [Camera σ H F]

/-- The states of a device whose steps are taken in any order. -/
inductive Reachable : Site σ H F → Prop
  | fresh (camera : σ) (id : DeviceId) (format : ImageFormat) (maxRetry : Nat) :
      Reachable { camera, device := Device.fresh id format maxRetry }
  | step {s : Site σ H F} (pace : Pace) (step : Step) : Reachable s → Reachable (s.apply pace step)
  /-- Something happens to the camera. -/
  | camera {s : Site σ H F} (camera : σ) : Reachable s → Reachable { s with camera }

/-- More steps lead to states that the device gets into. -/
theorem Reachable.run {s : Site σ H F} (h : Reachable s) (pace : Pace) (steps : List Step) :
    Reachable (s.run pace steps) := by
  induction steps generalizing s with
  | nil => exact h
  | cons step rest ih => exact ih (h.step pace step)

/-- What a device has at first and every change keeps, it has in every
state. -/
theorem Reachable.invariant {P : Device H F → Prop}
    (fresh : ∀ id format maxRetry, P (Device.fresh id format maxRetry))
    (kept : ∀ pace step d calls d', P d → Device.Change pace step d calls d' → P d')
    {s : Site σ H F} (h : Reachable s) : P s.device := by
  induction h with
  | fresh camera id format maxRetry => exact fresh id format maxRetry
  | @step s pace step _ ih =>
      obtain ⟨calls, hch⟩ := apply_change pace s step
      exact kept pace step _ calls _ ih hch
  | camera camera _ ih => exact ih

end Site

-- ============================================================ remembered

/-- A step that was taken, with what it found and what it left. -/
structure Moment (σ H F : Type) where
  before : Site σ H F
  step : Site.Step
  after : Site σ H F

namespace Site

variable [Camera σ H F]

/-- The states of a device whose steps are taken in any order, with the steps
on the way, the latest first. -/
inductive Taken : List (Moment σ H F) → Site σ H F → Prop
  | fresh (camera : σ) (id : DeviceId) (format : ImageFormat) (maxRetry : Nat) :
      Taken [] { camera, device := Device.fresh id format maxRetry }
  | step {trace : List (Moment σ H F)} {s : Site σ H F} (pace : Pace) (step : Step) :
      Taken trace s → Taken (⟨s, step, s.apply pace step⟩ :: trace) (s.apply pace step)
  /-- Something happens to the camera. -/
  | camera {trace : List (Moment σ H F)} {s : Site σ H F} (camera : σ) :
      Taken trace s → Taken trace { s with camera }

theorem Taken.reachable {trace : List (Moment σ H F)} {s : Site σ H F}
    (h : Taken trace s) : s.Reachable := by
  induction h with
  | fresh camera id format maxRetry => exact .fresh camera id format maxRetry
  | step pace step _ ih => exact .step pace step ih
  | camera camera _ ih => exact .camera camera ih

/-- Every state has steps that led to it. -/
theorem Reachable.taken {s : Site σ H F} (h : s.Reachable) : ∃ trace, Taken trace s := by
  induction h with
  | fresh camera id format maxRetry => exact ⟨[], .fresh camera id format maxRetry⟩
  | step pace step _ ih =>
      obtain ⟨trace, ih⟩ := ih
      exact ⟨_, .step pace step ih⟩
  | camera camera _ ih =>
      obtain ⟨trace, ih⟩ := ih
      exact ⟨trace, .camera camera ih⟩

end Site

-- =============================================================== in turn

namespace LinkStage

/-- Whether an open is on the way. -/
def isOpening : LinkStage H → Bool
  | .opening _ => true
  | _ => false

/-- Whether an open has come back and the task has not gone on. -/
def isOpened : LinkStage H → Bool
  | .opened .. => true
  | _ => false

/-- Whether a loop has not taken its first step. -/
def isSpawned : LinkStage H → Bool
  | .spawned => true
  | _ => false

end LinkStage

namespace Device

/-- Whether the task with a token has an open on the way. -/
def isOpening (d : Device H F) (token : Token) : Bool :=
  d.links.any fun k => k.token == token && k.stage.isOpening

/-- The loops that have not taken their first step. -/
def spawned (d : Device H F) : List Token :=
  (d.links.filter (·.stage.isSpawned)).map (·.token)

end Device

/-- For each open, by its task, the loops that stood in the queue when it was
started. -/
abbrev Queue := Token → List Token

namespace Queue

/-- Nothing stands in the queue. -/
def empty : Queue := fun _ => []

/-- The queue after a step: an open that the step has started waits for the
loops that are spawned by now. -/
def after (q : Queue) (d d' : Device H F) : Queue := fun token =>
  if d'.isOpening token && !d.isOpening token then d'.spawned else q token

/-- Whether a step keeps to the queue: a task goes on with what its open
returned only if each loop that the open waits for has begun. -/
def Admits (q : Queue) (d : Device H F) : Site.Step → Prop
  | .resume _ token => (d.link? token).any (·.stage.isOpened) = true →
      ∀ t ∈ q token, t ∉ d.spawned
  | _ => True

instance (q : Queue) (d : Device H F) (step : Site.Step) : Decidable (q.Admits d step) := by
  unfold Admits
  split <;> infer_instance

end Queue

namespace Site

variable [Camera σ H F]

/-- The states of a device whose steps keep to the queue. -/
inductive InTurn : Queue → Site σ H F → Prop
  | fresh (camera : σ) (id : DeviceId) (format : ImageFormat) (maxRetry : Nat) :
      InTurn Queue.empty { camera, device := Device.fresh id format maxRetry }
  | step {q : Queue} {s : Site σ H F} (pace : Pace) (step : Step) :
      InTurn q s → q.Admits s.device step →
      InTurn (q.after s.device (s.apply pace step).device) (s.apply pace step)
  /-- Something happens to the camera. -/
  | camera {q : Queue} {s : Site σ H F} (camera : σ) : InTurn q s → InTurn q { s with camera }

/-- Whether steps keep to the queue when they are taken one after the other. -/
def KeepsTurn (pace : Pace) (q : Queue) (s : Site σ H F) : List Step → Prop
  | [] => True
  | step :: rest => q.Admits s.device step ∧
      KeepsTurn pace (q.after s.device (s.apply pace step).device) (s.apply pace step) rest

instance decidableKeepsTurn (pace : Pace) (q : Queue) (s : Site σ H F) :
    (steps : List Step) → Decidable (KeepsTurn pace q s steps)
  | [] => .isTrue trivial
  | _ :: rest => @instDecidableAnd _ _ _ (decidableKeepsTurn pace _ _ rest)

/-- Steps that keep to the queue one after the other lead to states that do. -/
theorem InTurn.run {q : Queue} {s : Site σ H F} (h : InTurn q s) {pace : Pace}
    {steps : List Step} (hk : KeepsTurn pace q s steps) : ∃ q', InTurn q' (s.run pace steps) := by
  induction steps generalizing q s with
  | nil => exact ⟨q, h⟩
  | cons step rest ih => exact ih (h.step pace step hk.1) hk.2

/-- Taking turns is one of the orders. -/
theorem InTurn.reachable {q : Queue} {s : Site σ H F} (h : InTurn q s) : Reachable s := by
  induction h with
  | fresh camera id format maxRetry => exact .fresh camera id format maxRetry
  | step pace step _ _ ih => exact .step pace step ih
  | camera camera _ ih => exact .camera camera ih

/-- The induction for steps that keep to the queue. -/
theorem InTurn.invariant {P : Queue → Device H F → Prop}
    (fresh : ∀ id format maxRetry, P Queue.empty (Device.fresh id format maxRetry))
    (kept : ∀ pace step q d calls d', P q d → q.Admits d step →
      Device.Change pace step d calls d' → P (q.after d d') d')
    {q : Queue} {s : Site σ H F} (h : InTurn q s) : P q s.device := by
  induction h with
  | fresh camera id format maxRetry => exact fresh id format maxRetry
  | @step q s pace step _ hadm ih =>
      obtain ⟨calls, hch⟩ := apply_change pace s step
      exact kept pace step _ _ calls _ ih hadm hch
  | camera camera _ ih => exact ih

-- ============================================================ in memory

/-- A device alone on a camera in memory, for runs that are computed. -/
def simulated (id : DeviceId) (maxRetry : Nat) :
    Site SimulatedCamera SimulatedCamera.Handle Bytes :=
  { camera := ({} : SimulatedCamera).attach id
    device := Device.fresh id .jpeg maxRetry }

end Site

end CameraDriver
