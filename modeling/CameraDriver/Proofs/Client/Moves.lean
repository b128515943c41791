/-
What a client's step does, told in moves: it stores a configuration, makes a
device known, and takes steps of devices.

`apply_moves` takes every step of a client apart into moves and names the
steps of devices among them, its acts. What the three kinds of moves keep, a
run keeps (`Moves.keeps`, `run_keeps`); in particular each known device stands
in a reachable state, whatever the other devices have done to the camera in
between (`Proper`).
-/
import CameraDriver.Client.Step
import CameraDriver.Proofs.Device.Halted
import CameraDriver.Proofs.Device.Ledger
import CameraDriver.Proofs.Registry

namespace CameraDriver

variable {σ H F : Type}

namespace Client

-- ================================================================ devices

/-- What is done with a known device is done with its state and the camera. -/
theorem atDevice?_known {α : Type} {c : Client σ H F} {id : DeviceId} {d : Device H F}
    (h : c.devices.get? id = some d) (f : Site σ H F → α × Site σ H F) :
    c.atDevice? id f =
      (some (f { camera := c.camera, device := d }).1,
        { c with
          camera := (f { camera := c.camera, device := d }).2.camera
          devices := c.devices.insert id (f { camera := c.camera, device := d }).2.device }) := by
  unfold atDevice?
  rw [h]

theorem onDevice_known {c : Client σ H F} {id : DeviceId} {d : Device H F}
    (h : c.devices.get? id = some d) (f : Site σ H F → Site σ H F) :
    c.onDevice id f =
      { c with
        camera := (f { camera := c.camera, device := d }).camera
        devices := c.devices.insert id (f { camera := c.camera, device := d }).device } := by
  unfold onDevice atDevice?
  rw [h]

theorem onDevice_unknown {c : Client σ H F} {id : DeviceId}
    (h : c.devices.get? id = none) (f : Site σ H F → Site σ H F) : c.onDevice id f = c := by
  unfold onDevice atDevice?
  rw [h]

/-- What is done with a device changes the client by its effect alone. -/
theorem atDevice?_snd {α : Type} (c : Client σ H F) (id : DeviceId)
    (f : Site σ H F → α × Site σ H F) :
    (c.atDevice? id f).2 = c.onDevice id fun s => (f s).2 := by
  unfold onDevice atDevice?
  split <;> rfl

/-- A device that is known is not made again. -/
theorem register_known {c : Client σ H F} {id : DeviceId} {d : Device H F}
    (h : c.devices.get? id = some d) : c.register id = c := by
  unfold register Registry.getOrInsert
  rw [h]

/-- A device that is not known is made, with the settings of the client. -/
theorem register_unknown {c : Client σ H F} {id : DeviceId}
    (h : c.devices.get? id = none) :
    c.register id =
      { c with
        devices := c.devices.insert id
          (Device.fresh id c.settings.imageFormat c.settings.maxRetry) } := by
  unfold register Registry.getOrInsert
  rw [h]

/-- A device that is made known is the known one or a fresh one. -/
theorem get?_register_self (c : Client σ H F) (id : DeviceId) :
    (c.register id).devices.get? id = some ((c.devices.get? id).getD
      (Device.fresh id c.settings.imageFormat c.settings.maxRetry)) := by
  cases hd : c.devices.get? id with
  | some d =>
      rw [register_known hd]
      exact hd
  | none =>
      rw [register_unknown hd]
      exact Registry.get?_insert_self _ _ _

/-- What every known device has, all have after another one has become known, if a fresh
device has it. -/
theorem forall_get?_register {P : DeviceId → Device H F → Prop} {c : Client σ H F} {id : DeviceId}
    (hfresh : P id (Device.fresh id c.settings.imageFormat c.settings.maxRetry))
    (h : ∀ other d, c.devices.get? other = some d → P other d) :
    ∀ other d, (c.register id).devices.get? other = some d → P other d := by
  cases hd : c.devices.get? id with
  | some d =>
      rw [register_known hd]
      exact h
  | none =>
      rw [register_unknown hd]
      exact Registry.forall_get?_insert hfresh h

/-- What every known device has, all have after something was done with one, if that one
still has it. -/
theorem forall_get?_onDevice {P : DeviceId → Device H F → Prop} {c : Client σ H F} {id : DeviceId}
    {f : Site σ H F → Site σ H F}
    (hself : ∀ d, c.devices.get? id = some d → P id (f { camera := c.camera, device := d }).device)
    (h : ∀ other d, c.devices.get? other = some d → P other d) :
    ∀ other d, (c.onDevice id f).devices.get? other = some d → P other d := by
  cases hd : c.devices.get? id with
  | some d =>
      rw [onDevice_known hd]
      exact Registry.forall_get?_insert (hself d hd) h
  | none =>
      rw [onDevice_unknown hd]
      exact h

/-- A merge changes what is stored. -/
theorem merge_snd {c c' : Client σ H F} {blobs : Blobs} {configuration : Configuration}
    (h : c.merge blobs = .ok (configuration, c')) : ∃ store, c' = { c with store } := by
  unfold merge at h
  split at h
  next configuration' _ store _ =>
    injection h with h
    injection h with _ h
    exact ⟨store, h.symm⟩
  next => cases h

-- ================================================================== moves

variable [Camera σ H F]

/-- Moves from a client, with the steps of devices among them. -/
inductive Moves (c : Client σ H F) : List (DeviceId × Site.Step) → Client σ H F → Prop
  | nothing : Moves c [] c
  | store {acts : List (DeviceId × Site.Step)} {c' : Client σ H F} (store : Store)
      (h : Moves c acts c') : Moves c acts { c' with store }
  | register {acts : List (DeviceId × Site.Step)} {c' : Client σ H F} (id : DeviceId)
      (h : Moves c acts c') : Moves c acts (c'.register id)
  | act {acts : List (DeviceId × Site.Step)} {c' : Client σ H F} (id : DeviceId)
      (step : Site.Step) (h : Moves c acts c') :
      Moves c (acts ++ [(id, step)]) (c'.onDevice id (·.apply c'.settings.pace step))

/-- What the three kinds of moves keep. -/
theorem Moves.keeps {P : Client σ H F → Prop} {c c' : Client σ H F}
    {acts : List (DeviceId × Site.Step)} (h : Moves c acts c')
    (hstore : ∀ c store, P c → P { c with store })
    (hregister : ∀ c id, P c → P (c.register id))
    (hact : ∀ (c : Client σ H F) (id : DeviceId) (step : Site.Step), (id, step) ∈ acts →
      P c → P (c.onDevice id (·.apply c.settings.pace step)))
    (hc : P c) : P c' := by
  induction h with
  | nothing => exact hc
  | store store _ ih => exact hstore _ store (ih hact)
  | register id _ ih => exact hregister _ id (ih hact)
  | act id step _ ih =>
      refine hact _ id step List.mem_concat_self (ih ?_)
      intro c id step hm
      exact hact c id step (List.mem_append_left _ hm)

/-- Targeting a device makes it known and is a step of it. -/
theorem target_moves {c c' : Client σ H F} {acts : List (DeviceId × Site.Step)}
    (h : Moves c acts c') (configuration : Configuration) :
    ∃ acts', Moves c (acts ++ acts') (c'.target configuration).2
      ∧ ∀ a ∈ acts', ∃ feature, a.2 = .target feature := by
  unfold target
  cases configuration.deviceId with
  | error e => exact ⟨[], by rw [List.append_nil]; exact h, fun a ha => by cases ha⟩
  | ok id =>
      refine ⟨[(id, .target configuration.featureName)], (h.register id).act id _, ?_⟩
      intro a ha
      rw [List.mem_singleton.mp ha]
      exact ⟨_, rfl⟩

/-- So is what is done with the device that is targeted. -/
theorem onTarget_moves {α : Type} (c : Client σ H F) (blobs : Blobs)
    {f : String → Site σ H F → Except DriverError α × Site σ H F} (step : String → Site.Step)
    (hf : ∀ feature pace (s : Site σ H F), (f feature s).2 = s.apply pace (step feature)) :
    ∃ acts, Moves c acts (c.onTarget blobs f).2
      ∧ ∀ a ∈ acts, ∃ feature, a.2 = .target feature ∨ a.2 = step feature := by
  unfold onTarget
  split
  next => exact ⟨[], .nothing, fun a ha => by cases ha⟩
  next configuration c₁ hm =>
    obtain ⟨store, rfl⟩ := merge_snd hm
    obtain ⟨acts, hmoves, hacts⟩ :=
      target_moves ((Moves.nothing (c := c)).store store) configuration
    rw [List.nil_append] at hmoves
    have htargets : ∀ a ∈ acts, ∃ feature, a.2 = .target feature ∨ a.2 = step feature := by
      intro a ha
      obtain ⟨feature, heq⟩ := hacts a ha
      exact ⟨feature, .inl heq⟩
    split
    next heq =>
      rw [heq] at hmoves
      exact ⟨acts, hmoves, htargets⟩
    next id c₂ heq =>
      rw [heq] at hmoves
      have hmoves' := hmoves.act id (step configuration.featureName)
      have hsnd : c₂.onDevice id (·.apply c₂.settings.pace (step configuration.featureName))
          = (c₂.atDevice? id (f configuration.featureName)).2 := by
        rw [atDevice?_snd]
        congr 1
        funext s
        exact (hf _ _ s).symm
      refine ⟨acts ++ [(id, step configuration.featureName)], ?_, ?_⟩
      · dsimp only at hmoves'
        rw [hsnd] at hmoves'
        split
        next heq' =>
          rw [heq'] at hmoves'
          exact hmoves'
        next heq' =>
          rw [heq'] at hmoves'
          exact hmoves'
      · intro a ha
        rcases List.mem_append.mp ha with ha | ha
        · exact htargets a ha
        · rw [List.mem_singleton.mp ha]
          exact ⟨_, .inr rfl⟩

/-- Stopping devices one after the other. -/
theorem stops_moves (c : Client σ H F) (ids : List DeviceId) :
    ∃ acts, Moves c acts (ids.foldl (fun c id => c.onDevice id Site.stop) c)
      ∧ ∀ a ∈ acts, a.2 = .stop := by
  suffices hall : ∀ (c' : Client σ H F) (acts : List (DeviceId × Site.Step)),
      Moves c acts c' → (∀ a ∈ acts, a.2 = .stop) →
      ∃ acts', Moves c acts' (ids.foldl (fun c id => c.onDevice id Site.stop) c')
        ∧ ∀ a ∈ acts', a.2 = .stop from
    hall c [] .nothing (fun a ha => by cases ha)
  induction ids with
  | nil =>
      intro c' acts h hacts
      exact ⟨acts, h, hacts⟩
  | cons id rest ih =>
      intro c' acts h hacts
      refine ih _ _ (h.act id .stop) ?_
      intro a ha
      rcases List.mem_append.mp ha with ha | ha
      · exact hacts a ha
      · rw [List.mem_singleton.mp ha]

/-- Initialising a device makes it known and connects it. -/
theorem initDevice_moves (c : Client σ H F) (common : Option Bytes) :
    ∃ acts, Moves c acts (c.initDevice common).2
      ∧ ∀ a ∈ acts, a.2 = .connect ∧ ∃ r, (c.initDevice common).1 = .ok r ∧ r.1 = a.1 := by
  unfold initDevice
  split
  next => exact ⟨[], .nothing, fun a ha => by cases ha⟩
  next configuration c₁ hm =>
    obtain ⟨store, rfl⟩ := merge_snd hm
    split
    next => exact ⟨[], Moves.nothing.store store, fun a ha => by cases ha⟩
    next id hid =>
      refine ⟨[(id, .connect)], ?_, ?_⟩
      · dsimp only
        rw [atDevice?_snd]
        exact ((Moves.nothing.store store).register id).act id .connect
      · intro a ha
        rw [List.mem_singleton.mp ha]
        exact ⟨rfl, _, rfl, rfl⟩

/-- The steps of devices that a step may take. -/
def Step.Acts (c : Client σ H F) : Step → DeviceId × Site.Step → Prop
  | .initDevice common, a =>
      a.2 = .connect ∧ ∃ r, (c.initDevice common).1 = .ok r ∧ r.1 = a.1
  | .setConfig _, a => ∃ feature, a.2 = .target feature
  | .readDeviceData _, a => ∃ feature, a.2 = .target feature ∨ a.2 = .read feature
  | .writeDeviceData value _, a => ∃ feature, a.2 = .target feature ∨ a.2 = .write feature value
  | .getDeviceStatus _, _ => False
  | .stop id, a => a = (id, .stop)
  | .stopDevice, a => a.2 = .stop
  | .device id step, a => a = (id, step)

/-- Every step is moves. -/
theorem apply_acts (c : Client σ H F) (step : Step) :
    ∃ acts, Moves c acts (c.apply step) ∧ ∀ a ∈ acts, step.Acts c a := by
  cases step with
  | initDevice common => exact initDevice_moves c common
  | setConfig blobs =>
      show ∃ acts, Moves c acts (c.setConfig blobs).2 ∧ _
      unfold setConfig
      split
      next => exact ⟨[], .nothing, fun a ha => by cases ha⟩
      next configuration c₁ hm =>
        obtain ⟨store, rfl⟩ := merge_snd hm
        obtain ⟨acts, hmoves, hacts⟩ :=
          target_moves ((Moves.nothing (c := c)).store store) configuration
        rw [List.nil_append] at hmoves
        refine ⟨acts, ?_, hacts⟩
        split <;> next heq => rw [heq] at hmoves; exact hmoves
  | readDeviceData blobs => exact onTarget_moves c blobs .read fun _ _ _ => rfl
  | writeDeviceData value blobs =>
      exact onTarget_moves c blobs (.write · value) fun _ _ _ => rfl
  | getDeviceStatus blobs => exact ⟨[], .nothing, fun a ha => by cases ha⟩
  | stop id =>
      show ∃ acts, Moves c acts (c.stop id).2 ∧ _
      unfold stop
      split
      next => exact ⟨[], .nothing, fun a ha => by cases ha⟩
      next => exact ⟨[(id, .stop)], Moves.nothing.act id .stop, fun a => List.mem_singleton.mp⟩
  | stopDevice => exact stops_moves c c.devices.ids
  | device id step =>
      exact ⟨[(id, step)], Moves.nothing.act id step, fun a => List.mem_singleton.mp⟩

/-- Whether a step leaves a device alone: it does not initialise the device,
nor ask for a connection in another way. -/
def Spares (id : DeviceId) (c : Client σ H F) : Step → Prop
  | .initDevice common => ∀ r, (c.initDevice common).1 = .ok r → r.1 ≠ id
  | .device other step => other = id → step.startsLink = false
  | _ => True

omit [Camera σ H F] in
/-- What a step that spares a device does with it asks for no connection. -/
theorem Step.Acts.startsLink {c : Client σ H F} {step : Step} {a : DeviceId × Site.Step}
    (h : step.Acts c a) (hspares : Spares a.1 c step) : a.2.startsLink = false := by
  cases step with
  | initDevice common =>
      obtain ⟨-, r, hr, hid⟩ := h
      exact absurd hid (hspares r hr)
  | setConfig blobs =>
      obtain ⟨feature, heq⟩ := h
      rw [heq]
      rfl
  | readDeviceData blobs =>
      obtain ⟨feature, heq | heq⟩ := h <;> rw [heq] <;> rfl
  | writeDeviceData value blobs =>
      obtain ⟨feature, heq | heq⟩ := h <;> rw [heq] <;> rfl
  | getDeviceStatus blobs => cases h
  | stop id =>
      cases h
      rfl
  | stopDevice =>
      have heq : a.2 = .stop := h
      rw [heq]
      rfl
  | device id step =>
      cases h
      exact hspares rfl

/-- Every step is moves. If it spares a device, none of its acts asks for a
connection of the device. -/
theorem apply_moves (c : Client σ H F) (step : Step) :
    ∃ acts, Moves c acts (c.apply step)
      ∧ ∀ id, Spares id c step → ∀ a ∈ acts, a.1 = id → a.2.startsLink = false := by
  obtain ⟨acts, hmoves, hacts⟩ := apply_acts c step
  refine ⟨acts, hmoves, ?_⟩
  rintro id hspares a ha rfl
  exact (hacts a ha).startsLink hspares

/-- What moves keep, a run keeps. -/
theorem run_keeps {P : Client σ H F → Prop} {c : Client σ H F} (steps : List Step)
    (hstore : ∀ c store, P c → P { c with store })
    (hregister : ∀ c id, P c → P (c.register id))
    (hact : ∀ (c : Client σ H F) (id : DeviceId) (step : Site.Step), P c →
      P (c.onDevice id (·.apply c.settings.pace step)))
    (hc : P c) : P (c.run steps) := by
  induction steps generalizing c with
  | nil => exact hc
  | cons step rest ih =>
      obtain ⟨acts, hmoves, -⟩ := apply_moves c step
      refine ih (hmoves.keeps hstore hregister ?_ hc)
      intro c id step _
      exact hact c id step

-- ============================================================= reachable

/-- The states that a client gets into. -/
def Reachable (c : Client σ H F) : Prop :=
  ∃ settings camera steps, c = ({ settings, camera } : Client σ H F).run steps

/-- More steps lead to states that the client gets into. -/
theorem Reachable.run {c : Client σ H F} (h : c.Reachable) (steps : List Step) :
    (c.run steps).Reachable := by
  obtain ⟨settings, camera, before, rfl⟩ := h
  exact ⟨settings, camera, before ++ steps, List.foldl_append.symm⟩

/-- The registry is in order, and each known device stands under its own
identifier in a state that it gets into by steps of its own. -/
structure Proper (c : Client σ H F) : Prop where
  ascending : c.devices.Ascending
  id : ∀ {id d}, c.devices.get? id = some d → d.id = id
  reachable : ∀ {id d}, c.devices.get? id = some d →
    Site.Reachable { camera := c.camera, device := d }

namespace Proper

theorem fresh (settings : ClientSettings) (camera : σ) :
    (({ settings, camera } : Client σ H F)).Proper where
  ascending := Registry.ascending_empty
  id := fun h => by cases h
  reachable := fun h => by cases h

theorem store {c : Client σ H F} (h : c.Proper) (store : Store) : { c with store }.Proper :=
  ⟨h.ascending, h.id, h.reachable⟩

theorem register {c : Client σ H F} (h : c.Proper) (id : DeviceId) : (c.register id).Proper where
  ascending := by
    cases hd : c.devices.get? id with
    | some d =>
        rw [register_known hd]
        exact h.ascending
    | none =>
        rw [register_unknown hd]
        exact h.ascending.insert _ _
  id := forall_get?_register (P := fun other d => d.id = other) rfl
    (fun _ _ hget => h.id hget) _ _
  reachable := forall_get?_register (P := fun _ d => Site.Reachable { camera := _, device := d })
    (.fresh _ id _ _) (fun _ _ hget => (h.reachable hget).camera _) _ _

/-- A step of a device leaves a client in order. -/
theorem act {c : Client σ H F} (h : c.Proper) (id : DeviceId) (step : Site.Step) :
    (c.onDevice id (·.apply c.settings.pace step)).Proper where
  ascending := by
    cases hd : c.devices.get? id with
    | some d =>
        rw [onDevice_known hd]
        exact h.ascending.insert _ _
    | none =>
        rw [onDevice_unknown hd]
        exact h.ascending
  id := by
    refine forall_get?_onDevice (P := fun other d => d.id = other) ?_ (fun _ _ hget => h.id hget) _ _
    intro d hd
    exact ((h.reachable hd).apply_id _ step).trans (h.id hd)
  reachable := by
    -- the other devices have seen their camera change
    refine forall_get?_onDevice (P := fun _ d => Site.Reachable { camera := _, device := d }) ?_
      (fun _ _ hget => (h.reachable hget).camera _) _ _
    intro d hd
    exact ((h.reachable hd).step _ step).camera _

/-- Every run leaves a client in order. -/
theorem run {c : Client σ H F} (h : c.Proper) (steps : List Step) : (c.run steps).Proper := by
  refine run_keeps steps ?_ ?_ ?_ h
  · intro c store h
    exact h.store store
  · intro c id h
    exact h.register id
  · intro c id step h
    exact h.act id step

end Proper

/-- What moves keep of a client in order, they keep along with the order. -/
theorem Moves.keeps_proper {P : Client σ H F → Prop} {c c' : Client σ H F}
    {acts : List (DeviceId × Site.Step)} (h : Moves c acts c') (hp : c.Proper) (hc : P c)
    (hstore : ∀ c store, c.Proper → P c → P { c with store })
    (hregister : ∀ c id, c.Proper → P c → P (c.register id))
    (hact : ∀ (c : Client σ H F) (id : DeviceId) (step : Site.Step), (id, step) ∈ acts →
      c.Proper → P c → P (c.onDevice id (·.apply c.settings.pace step))) :
    c'.Proper ∧ P c' := by
  refine h.keeps (P := fun c => c.Proper ∧ P c) ?_ ?_ ?_ ⟨hp, hc⟩
  · intro c store ⟨hp, hc⟩
    exact ⟨hp.store store, hstore c store hp hc⟩
  · intro c id ⟨hp, hc⟩
    exact ⟨hp.register id, hregister c id hp hc⟩
  · intro c id step hm ⟨hp, hc⟩
    exact ⟨hp.act id step, hact c id step hm hp hc⟩

omit [Camera σ H F] in
/-- A device that is known stays as it is when another one becomes known. -/
theorem get?_register_of_known {c : Client σ H F} {id : DeviceId} {d : Device H F}
    (h : c.devices.get? id = some d) (other : DeviceId) :
    (c.register other).devices.get? id = some d := by
  cases ho : c.devices.get? other with
  | some d' =>
      rw [register_known ho]
      exact h
  | none =>
      rw [register_unknown ho]
      refine (Registry.get?_insert_ne _ _ ?_).trans h
      rintro rfl
      rw [h] at ho
      cases ho

/-- What the acts on a known device keep of it, moves keep of it. -/
theorem Moves.keeps_device {P : Device H F → Prop} {c c' : Client σ H F}
    {acts : List (DeviceId × Site.Step)} (h : Moves c acts c') (hp : c.Proper) {id : DeviceId}
    {d : Device H F} (hd : c.devices.get? id = some d) (hP : P d)
    (hact : ∀ (s : Site σ H F) (pace : Site.Pace) (step : Site.Step), (id, step) ∈ acts →
      s.Reachable → P s.device → P (s.apply pace step).device) :
    ∃ d', c'.devices.get? id = some d' ∧ P d' := by
  refine (h.keeps_proper (P := fun c => ∃ d, c.devices.get? id = some d ∧ P d) hp
    ⟨d, hd, hP⟩ ?_ ?_ ?_).2
  · -- another store
    intro c store _ h
    exact h
  · -- a device is registered
    rintro c other _ ⟨d, hd, hP⟩
    exact ⟨d, get?_register_of_known hd other, hP⟩
  · -- a step of a device, this one or another
    rintro c other step hm hp ⟨d, hd, hP⟩
    by_cases heq : other = id
    · subst heq
      refine ⟨_, ?_, hact { camera := c.camera, device := d } c.settings.pace step hm
        (hp.reachable hd) hP⟩
      rw [onDevice_known hd]
      exact Registry.get?_insert_self _ _ _
    · refine ⟨d, ?_, hP⟩
      cases ho : c.devices.get? other with
      | none =>
          rw [onDevice_unknown ho]
          exact hd
      | some d' =>
          rw [onDevice_known ho]
          exact (Registry.get?_insert_ne _ _ (Ne.symm heq)).trans hd

/-- In every state a client is in order. -/
theorem Reachable.proper {c : Client σ H F} (h : c.Reachable) : c.Proper := by
  obtain ⟨settings, camera, steps, rfl⟩ := h
  exact (Proper.fresh settings camera).run steps

end Client

end CameraDriver
