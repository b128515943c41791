/-
A client on a simulated camera, with scripts in between.

A turn is a step of the client or a script for its camera (`Client.Turn`). `Staged`
is what every run of turns keeps: the camera has come where it is by scenes that are
its scripts, in the order of the turns, and calls that the devices' logs note. From
the calls it follows that a connection of a device holds a handle on this device,
and that the device is attached unless it was detached.

What a turn does to a feature is then what the log of the device notes
(`Staged.turn_feature?`): the calls of a step are those that it notes, and the
simulated camera writes what they say.
-/
import CameraDriver.Proofs.Client.Calls
import CameraDriver.Proofs.Client.Conservation
import CameraDriver.Proofs.Device.Stored
import CameraDriver.Proofs.Hardware.Plays

namespace CameraDriver

open SimulatedCamera (Handle Script Scene Plays)

abbrev SimulatedClient := Client SimulatedCamera Handle Bytes

namespace Client

-- =================================================================== turns

/-- A step of a client, or a script for its camera. -/
inductive Turn where
  | step (step : Step)
  | script (script : Script)

def Turn.script? : Turn → Option Script
  | .step _ => none
  | .script s => some s

/-- Takes a turn. -/
def turn (c : SimulatedClient) : Turn → SimulatedClient
  | .step step => c.apply step
  | .script script => { c with camera := c.camera.scripted script }

/-- Takes turns one after the other. -/
def turns (c : SimulatedClient) (ts : List Turn) : SimulatedClient := ts.foldl turn c

-- ================================================================== staged

/-- The scenes of the camera are those of a client in order. -/
structure Staged (scenes : List Scene) (c : SimulatedClient) : Prop where
  proper : c.Proper
  plays : Plays {} scenes c.camera
  accounted : Accounted (scenes.filterMap Scene.call?) c

namespace Staged

variable {scenes : List Scene} {c : SimulatedClient} {id : DeviceId}

theorem fresh (settings : ClientSettings) :
    Staged [] ({ settings, camera := {} } : SimulatedClient) where
  proper := .fresh settings _
  plays := .nothing
  accounted := ⟨fun id d hd => (by cases hd), fun _ _ => rfl⟩

/-- A connection of a device was opened for it. -/
theorem opened (h : Staged scenes c) {d : Device Handle Bytes}
    (hd : c.devices.get? id = some d) {con : Connection Handle} (hcon : con ∈ d.connections) :
    .opened id con ∈ scenes.filterMap Scene.call? := by
  have hm := (h.accounted.known id d hd).given con hcon
  rw [h.proper.id hd] at hm
  exact (Call.mem_ofDevice.mp hm).1

/-- It holds a handle on the device. -/
theorem handle_eq (h : Staged scenes c) {d : Device Handle Bytes}
    (hd : c.devices.get? id = some d) {con : Connection Handle} (hcon : con ∈ d.connections) :
    con.handle = ⟨id⟩ :=
  h.plays.opened_handle (h.opened hd hcon)

/-- Calls on connections are made on the devices that they are made for. -/
theorem call_handle (h : Staged scenes c) {x : Call Handle}
    (hx : x ∈ scenes.filterMap Scene.call?) {n : Nat} (hn : x.event.on? = some n) :
    x.handle = some ⟨x.device⟩ := by
  have hsound : Call.Sound (Call.ofDevice x.device (scenes.filterMap Scene.call?)) := by
    cases hd : c.devices.get? x.device with
    | none =>
        rw [h.accounted.unknown _ hd]
        trivial
    | some d => exact (h.accounted.known _ d hd).sound
  obtain ⟨handle, hhandle, hm⟩ := hsound.opened_of_mem (Call.mem_ofDevice.mpr ⟨hx, rfl⟩) hn
  have heq : handle = ⟨x.device⟩ := h.plays.opened_handle (Call.mem_ofDevice.mp hm).1
  rw [hhandle, heq]

theorem store (h : Staged scenes c) (store : Store) : Staged scenes { c with store } :=
  ⟨h.proper.store store, h.plays, h.accounted.known, h.accounted.unknown⟩

theorem register (h : Staged scenes c) (id : DeviceId) : Staged scenes (c.register id) :=
  ⟨h.proper.register id, h.plays, h.accounted.register id⟩

/-- A step of a device adds its calls. -/
theorem act (h : Staged scenes c) (id : DeviceId) (step : Site.Step) :
    ∃ newer, Staged (newer ++ scenes) (c.onDevice id (·.apply c.settings.pace step))
      ∧ newer.filterMap Scene.script? = []
      ∧ (∀ x ∈ newer.filterMap Scene.call?, x.device = id)
      ∧ Served c.camera (newer.filterMap Scene.call?)
          (c.onDevice id (·.apply c.settings.pace step)).camera := by
  obtain ⟨new, hserved, hown, haccounted⟩ := h.accounted.act h.proper id step
  obtain ⟨newer, hplays, rfl, hscripts⟩ := h.plays.served hserved
  rw [← List.filterMap_append] at haccounted
  exact ⟨newer, ⟨h.proper.act id step, hplays, haccounted⟩, hscripts, hown, hserved⟩

/-- Scripts leave the client alone. -/
theorem script (h : Staged scenes c) (script : Script) :
    Staged (⟨c.camera, .script script, c.camera.scripted script⟩ :: scenes)
      (c.turn (.script script)) :=
  ⟨⟨h.proper.ascending, h.proper.id, fun hd => (h.proper.reachable hd).camera _⟩,
    .script script h.plays, h.accounted.known, h.accounted.unknown⟩

/-- What the three kinds of moves keep of a client with its scenes. Moves add no
scripts. -/
theorem keeps {P : SimulatedClient → Prop} (h : Staged scenes c) {c' : SimulatedClient}
    {acts : List (DeviceId × Site.Step)} (hmoves : Moves c acts c') (hP : P c)
    (hstore : ∀ c store, P c → P { c with store })
    (hregister : ∀ c id, P c → P (c.register id))
    (hact : ∀ (scenes : List Scene) (c : SimulatedClient) (id : DeviceId) (step : Site.Step),
      (id, step) ∈ acts → Staged scenes c → P c →
      P (c.onDevice id (·.apply c.settings.pace step))) :
    ∃ newer, Staged (newer ++ scenes) c' ∧ newer.filterMap Scene.script? = [] ∧ P c' := by
  refine hmoves.keeps
    (P := fun c => ∃ newer, Staged (newer ++ scenes) c ∧ newer.filterMap Scene.script? = [] ∧ P c)
    ?_ ?_ ?_ ⟨[], h, rfl, hP⟩
  · intro c store ⟨newer, h, hscripts, hP⟩
    exact ⟨newer, h.store store, hscripts, hstore c store hP⟩
  · intro c id ⟨newer, h, hscripts, hP⟩
    exact ⟨newer, h.register id, hscripts, hregister c id hP⟩
  · intro c id step hm ⟨newer, h, hscripts, hP⟩
    obtain ⟨newest, hnext, hnone, -⟩ := h.act id step
    rw [← List.append_assoc] at hnext
    refine ⟨newest ++ newer, hnext, ?_, hact _ c id step hm h hP⟩
    rw [List.filterMap_append, hnone, hscripts]
    rfl

/-- A turn leaves a client staged, with the scene of its script. -/
theorem turn (h : Staged scenes c) (t : Turn) :
    ∃ newer, Staged (newer ++ scenes) (c.turn t)
      ∧ newer.filterMap Scene.script? = t.script?.toList := by
  cases t with
  | step step =>
      obtain ⟨acts, hmoves, -⟩ := apply_acts c step
      obtain ⟨newer, hnext, hscripts, -⟩ := h.keeps (P := fun _ => True) hmoves trivial
        (fun _ _ _ => trivial) (fun _ _ _ => trivial) (fun _ _ _ _ _ _ _ => trivial)
      exact ⟨newer, hnext, hscripts⟩
  | script script => exact ⟨[_], h.script script, rfl⟩

/-- A run adds its scripts, in their order. -/
theorem turns (h : Staged scenes c) (ts : List Turn) :
    ∃ newer, Staged (newer ++ scenes) (c.turns ts)
      ∧ newer.reverse.filterMap Scene.script? = ts.filterMap Turn.script? := by
  induction ts generalizing c scenes with
  | nil => exact ⟨[], h, rfl⟩
  | cons t rest ih =>
      obtain ⟨newer, ht, hscripts⟩ := h.turn t
      obtain ⟨newest, hrest, hrests⟩ := ih ht
      rw [← List.append_assoc] at hrest
      refine ⟨newest ++ newer, hrest, ?_⟩
      have hone : newer.reverse.filterMap Scene.script? = t.script?.toList := by
        rw [List.filterMap_reverse, hscripts]
        cases t.script? <;> rfl
      rw [List.reverse_append, List.filterMap_append, hone, hrests, List.filterMap_cons]
      cases t.script? <;> rfl

end Staged

-- ================================================================= features

end Client

/-- Calls that are made on the devices that they are made for store in a feature what
their notes say. -/
theorem Call.findSome?_stored? {calls : List (Call Handle)} {other : DeviceId}
    (hown : ∀ x ∈ calls, x.device = other)
    (hhandle : ∀ x ∈ calls, ∀ n, x.event.on? = some n → x.handle = some ⟨x.device⟩)
    (id : DeviceId) (feature : String) :
    calls.findSome? (·.stored? id feature)
      = if other = id then (calls.map (·.event)).findSome? (Event.stored? feature) else none := by
  induction calls with
  | nil => exact (ite_self _).symm
  | cons x older ih =>
      have hx : x.stored? id feature
          = if other = id then x.event.stored? feature else none := by
        cases hs : x.event.stored? feature with
        | none =>
            unfold Call.stored?
            rw [hs, ite_self, ite_self]
        | some text =>
            obtain ⟨n, hn⟩ := Event.on?_of_stored? hs
            have hdevice := hhandle x List.mem_cons_self n hn
            rw [hown x List.mem_cons_self] at hdevice
            rw [stored?_of_handle hdevice, hs]
            simp only [eq_comm]
      have hold := ih (fun y hy => hown y (List.mem_cons_of_mem _ hy))
        (fun y hy => hhandle y (List.mem_cons_of_mem _ hy))
      rw [List.findSome?_cons, hx, hold, List.map_cons, List.findSome?_cons]
      by_cases heq : other = id
      · simp only [heq, if_true]
      · simp only [heq, if_false]

namespace Client

namespace Staged

variable {scenes : List Scene} {c : SimulatedClient} {id other : DeviceId} {feature : String}

/-- A step of a device does to the features of the camera what it does to those of
the device. -/
theorem act_feature? (h : Staged scenes c) (hf : VirtualFeature.ofName? feature = none)
    {d : Device Handle Bytes} (hd : c.devices.get? other = some d) (id : DeviceId)
    (step : Site.Step) :
    let s : Site SimulatedCamera Handle Bytes := { camera := c.camera, device := d }
    (s.apply c.settings.pace step).camera.feature? id feature
      = (if other = id then s.stores? feature step else none).or
          (c.camera.feature? id feature) := by
  intro s
  obtain ⟨newer, hstaged, -, hown, hserved⟩ := h.act other step
  obtain ⟨events, hlog, hstores⟩ :=
    (h.proper.reachable hd).apply_stores hf c.settings.pace step
  have hbefore := h.accounted.noted other
  have hafter := hstaged.accounted.noted other
  have hhandle : ∀ x ∈ newer.filterMap Scene.call?, ∀ n, x.event.on? = some n →
      x.handle = some ⟨x.device⟩ := by
    intro x hx n hn
    refine hstaged.call_handle ?_ hn
    rw [List.filterMap_append]
    exact List.mem_append_left _ hx
  rw [onDevice_known hd] at hserved hafter
  -- the calls of the step are those that its log notes
  have hevents : (newer.filterMap Scene.call?).map (·.event) = events := by
    rw [List.filterMap_append, Call.ofDevice_append_own hown, List.map_append, hbefore, hd,
      Registry.get?_insert_self] at hafter
    exact List.append_cancel_right (hafter.trans hlog)
  have hfeature := hserved.feature? id feature
  rw [Call.findSome?_stored? hown hhandle, hevents, hstores] at hfeature
  exact hfeature

end Staged

end Client

end CameraDriver
