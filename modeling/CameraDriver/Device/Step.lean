/-
Everything that can happen to a device, one step at a time.

A step is the code between two waits. Requests come from callers; the other
steps move a task on, and a scheduler may take them in any order and as late
as it likes. A step that does not apply, such as one of a task that has
ended, changes nothing, so that every list of steps is a run.
-/
import CameraDriver.Device.Feature

namespace CameraDriver.Site

/-- How long a device's tasks wait. -/
structure Pace where
  /-- Pause before each reconnect attempt. -/
  interval : Nat
  /-- Deadline of an upload. -/
  timeout : Nat
deriving DecidableEq, Repr

/-- One thing that happens to a device. -/
inductive Step where
  /-- A caller asks to connect the device. -/
  | connect
  /-- A caller reports the link of an epoch down. -/
  | linkDown (epoch : Nat)
  /-- A caller stops the device. -/
  | stop
  /-- A caller reads a feature. -/
  | read (feature : String)
  /-- A caller writes a feature. -/
  | write (feature : String) (value : Value)
  /-- A configuration targets a feature. -/
  | target (feature : String)
  /-- The open of a link task reaches the camera. -/
  | reach (token : Token)
  /-- The open of a link task breaks off. -/
  | lose (token : Token)
  /-- A link task goes on. -/
  | resume (now : Nat) (token : Token)
  /-- An upload sends its request. -/
  | sendUpload (now generation : Nat)
  /-- An upload ends. -/
  | finishUpload (generation : Nat) (outcome : UploadOutcome)

variable {σ H F : Type} [Camera σ H F]

/-- Takes a step. -/
def apply (pace : Pace) (s : Site σ H F) : Step → Site σ H F
  | .connect => s.beginConnect.2
  | .linkDown epoch => (s.linkDown epoch).2
  | .stop => s.stop
  | .read feature => (s.read feature).2
  | .write feature value => (s.write feature value).2
  | .target feature => s.onDevice (·.modifyRecord ({ · with activeFeature := feature }))
  | .reach token => s.reach token
  | .lose token => s.lose token
  | .resume now token => s.resume pace.interval now token
  | .sendUpload now generation => s.sendUpload pace.timeout now generation
  | .finishUpload generation outcome => s.finishUpload generation outcome

/-- Takes steps one after the other. -/
def run (pace : Pace) (s : Site σ H F) (steps : List Step) : Site σ H F :=
  steps.foldl (apply pace) s

end CameraDriver.Site
