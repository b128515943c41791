/-
A run of a simulated camera: calls and scripts, one after the other, each with the
camera that it finds and the one that it leaves (`Plays`).

What the failures of a queue are taken by depends on the order of calls and
scripts, which the calls alone do not tell; so the scenes of a run are kept. Over a
run the failures that were taken and those that still wait are those that were
queued, in order (`Plays.failures`).
-/
import CameraDriver.Proofs.Hardware.Simulated

namespace CameraDriver

namespace SimulatedCamera

variable {c : SimulatedCamera} {id : DeviceId}

/-- A call on a simulated camera, or a script. -/
inductive Cue where
  | call (x : Call Handle)
  | script (script : Script)

/-- A cue with the camera that it finds and the one that it leaves. -/
structure Scene where
  before : SimulatedCamera
  cue : Cue
  after : SimulatedCamera

namespace Scene

def call? (scene : Scene) : Option (Call Handle) :=
  match scene.cue with
  | .call x => some x
  | .script _ => none

def script? (scene : Scene) : Option Script :=
  match scene.cue with
  | .call _ => none
  | .script script => some script

/-- The failure that is taken off the queue of a device. -/
def spent? (id : DeviceId) (scene : Scene) : Option HardwareError :=
  scene.call?.bind (scene.before.spent? id)

/-- The failure that is put into the queue of a device. -/
def queued? (id : DeviceId) (scene : Scene) : Option HardwareError :=
  scene.script?.bind (Script.queued? id)

end Scene

/-- The scenes that lead a camera from a state to another one, the latest
first. -/
inductive Plays (start : SimulatedCamera) : List Scene → SimulatedCamera → Prop
  | nothing : Plays start [] start
  | call {scenes : List Scene} {m b : SimulatedCamera} {x : Call Handle}
      (h : Plays start scenes m) (hx : Served m [x] b) : Plays start (⟨m, .call x, b⟩ :: scenes) b
  | script {scenes : List Scene} {m : SimulatedCamera} (script : Script)
      (h : Plays start scenes m) :
      Plays start (⟨m, .script script, m.scripted script⟩ :: scenes) (m.scripted script)

namespace Plays

variable {start a b : SimulatedCamera} {scenes : List Scene}

/-- Calls are scenes. -/
theorem served (h : Plays start scenes a) {calls : List (Call Handle)} (hs : Served a calls b) :
    ∃ newer, Plays start (newer ++ scenes) b ∧ newer.filterMap Scene.call? = calls
      ∧ newer.filterMap Scene.script? = [] := by
  induction calls generalizing b with
  | nil =>
      rw [hs.eq_of_nil]
      exact ⟨[], h, rfl, rfl⟩
  | cons x older ih =>
      obtain ⟨m, hm, hx⟩ := hs.split
      obtain ⟨newer, hplays, hcalls, hscripts⟩ := ih hm
      exact ⟨_ :: newer, .call hplays hx, congrArg (x :: ·) hcalls, hscripts⟩

/-- What a scene does that is a call. -/
theorem single (h : Plays start scenes c) {scene : Scene} (hm : scene ∈ scenes)
    {x : Call Handle} (hx : scene.call? = some x) : Single scene.before x scene.after := by
  induction h with
  | nothing => cases hm
  | call _ hserved ih =>
      rcases List.mem_cons.mp hm with rfl | hm
      · cases hx
        exact hserved.single
      · exact ih hm
  | script script _ ih =>
      rcases List.mem_cons.mp hm with rfl | hm
      · cases hx
      · exact ih hm

/-- An open gives a handle on its device. -/
theorem opened_handle (h : Plays start scenes c) {con : Connection Handle}
    (hm : .opened id con ∈ scenes.filterMap Scene.call?) : con.handle = ⟨id⟩ := by
  induction h with
  | nothing => cases hm
  | @call _ _ _ x _ hx ih =>
      rcases List.mem_cons.mp hm with hm | hm
      · exact (hx.opened_handle (List.mem_singleton.mpr hm)).1
      · exact ih hm
  | script script _ ih => exact ih hm

/-- A device that was opened once is attached as long as it is not detached. -/
theorem isAttached (h : Plays start scenes c) (hd : .detach id ∉ scenes.filterMap Scene.script?)
    {con : Connection Handle} (hm : .opened id con ∈ scenes.filterMap Scene.call?) :
    c.isAttached id = true := by
  induction h with
  | nothing => cases hm
  | @call _ _ _ x _ hx ih =>
      rcases List.mem_cons.mp hm with hm | hm
      · exact (hx.opened_handle (List.mem_singleton.mpr hm)).2
      · rw [hx.isAttached]
        exact ih hd hm
  | script script _ ih =>
      obtain ⟨hne, hd⟩ := not_or.mp (mt List.mem_cons.mpr hd)
      exact isAttached_scripted (Ne.symm hne) (ih hd hm)

/-- A scene is the last one of those that it is added to. -/
theorem filterMap_reverse_cons {β : Type} (f : Scene → Option β) (scene : Scene) :
    (scene :: scenes).reverse.filterMap f = scenes.reverse.filterMap f ++ (f scene).toList := by
  rw [List.reverse_cons, List.filterMap_append, List.filterMap_cons]
  cases f scene <;> rfl

/-- The failures that were taken and those that still wait are those that have
waited and those that were queued, in order. -/
theorem failures (h : Plays start scenes c)
    (hd : .detach id ∉ scenes.filterMap Scene.script?) :
    start.failures id ++ scenes.reverse.filterMap (Scene.queued? id)
      = scenes.reverse.filterMap (Scene.spent? id) ++ c.failures id := by
  induction h with
  | nothing => exact List.append_nil _
  | @call scenes m b x _ hx ih =>
      have hqueued : Scene.queued? id ⟨m, .call x, b⟩ = none := rfl
      have hspent : Scene.spent? id ⟨m, .call x, b⟩ = m.spent? id x := rfl
      rw [filterMap_reverse_cons, filterMap_reverse_cons, hqueued, hspent, Option.toList_none,
        List.append_nil, ih hd, hx.single.failures, List.append_assoc]
  | @script scenes m script _ ih =>
      obtain ⟨hne, hd⟩ := not_or.mp (mt List.mem_cons.mpr hd)
      have hqueued : Scene.queued? id ⟨m, .script script, m.scripted script⟩
          = script.queued? id := rfl
      have hspent : Scene.spent? id ⟨m, .script script, m.scripted script⟩ = none := rfl
      rw [filterMap_reverse_cons, filterMap_reverse_cons, hqueued, hspent, Option.toList_none,
        List.append_nil, scripted_failures (Ne.symm hne), ← List.append_assoc, ih hd,
        List.append_assoc]

/-- A failure is taken by one call for a feature or an image of its device, and is
the answer to it; the call changes no feature. -/
theorem spent_answered (h : Plays start scenes c) {scene : Scene} (hm : scene ∈ scenes)
    {e : HardwareError} (he : scene.spent? id = some e) :
    ∃ x, scene.call? = some x ∧ x.asks id = true ∧ x.event.outcome? = some (.error e)
      ∧ ∀ other feature, scene.after.feature? other feature
        = scene.before.feature? other feature := by
  obtain ⟨x, hx, he⟩ := Option.bind_eq_some_iff.mp he
  have hsingle := h.single hm hx
  have hanswer := hsingle.answered id e he
  refine ⟨x, hx, ?_, hanswer, ?_⟩
  · unfold SimulatedCamera.spent? at he
    split at he
    case isTrue hasks => exact hasks
    case isFalse => cases he
  · intro other feature
    rw [hsingle.feature?, Call.stored?_of_error hanswer, Option.none_or]

end Plays

end SimulatedCamera

end CameraDriver
