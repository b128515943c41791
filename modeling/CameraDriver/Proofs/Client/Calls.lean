/-
The calls of a client as what they do at one site.

A call whose merge names a device finds the device together with the camera: its
site (`Client.found`). What the call does there is a function of the site, and
what it leaves is put back (`Client.withSite`); nothing else of the client is
looked at but the merged configuration. Each call that merges has one equation
here that says so, and one for a merge that fails or names no device. Proofs about
calls start from these equations and do not unfold a call again.
-/
import CameraDriver.Proofs.Client.Moves

namespace CameraDriver

variable {σ H F : Type}

namespace Client

-- ================================================================== sites

/-- The site of a device as a call finds it; a device that is not known is new. -/
def found (c : Client σ H F) (id : DeviceId) : Site σ H F :=
  { camera := c.camera
    device := (c.devices.get? id).getD (.fresh id c.settings.imageFormat c.settings.maxRetry) }

/-- The site with a feature targeted. -/
def targeted (c : Client σ H F) (id : DeviceId) (feature : String) : Site σ H F :=
  (c.found id).onDevice (·.modifyRecord ({ · with activeFeature := feature }))

/-- The client that has stored a configuration, with what a call left at a
site. -/
def withSite (c : Client σ H F) (store : Store) (id : DeviceId) (s : Site σ H F) : Client σ H F :=
  { c with store, camera := s.camera, devices := c.devices.insert id s.device }

/-- The device that the configuration merged by a call names. -/
def named? (c : Client σ H F) (blobs : Blobs) : Option DeviceId :=
  match c.merge blobs with
  | .ok (configuration, _) => configuration.deviceId.toOption
  | .error _ => none

variable {c c₁ : Client σ H F} {blobs : Blobs} {configuration : Configuration} {id : DeviceId}

/-- A known device is found as it is. -/
theorem found_of_get? {d : Device H F} (h : c.devices.get? id = some d) :
    c.found id = { camera := c.camera, device := d } := by
  unfold found
  rw [h]
  rfl

/-- Where a site was put it is found. -/
theorem found_withSite (c : Client σ H F) (store : Store) (id : DeviceId) (s : Site σ H F) :
    (c.withSite store id s).found id = s :=
  found_of_get? (Registry.get?_insert_self _ _ _)

theorem get?_withSite_ne {other : DeviceId} (h : other ≠ id) (store : Store) (s : Site σ H F) :
    (c.withSite store id s).devices.get? other = c.devices.get? other :=
  Registry.get?_insert_ne _ _ h

/-- The blobs of a call name a device exactly if they can be merged and the merged
configuration names it. -/
theorem named?_eq_some : c.named? blobs = some id ↔
    ∃ configuration c₁, c.merge blobs = .ok (configuration, c₁)
      ∧ configuration.deviceId = .ok id := by
  unfold named?
  cases hm : c.merge blobs with
  | error e => simp
  | ok r =>
      obtain ⟨configuration, c₁⟩ := r
      cases hid : configuration.deviceId with
      | error e => simp [hid, Except.toOption]
      | ok other => simp [hid, Except.toOption]

/-- They name none exactly if they cannot be merged, or the merged configuration names none.
-/
theorem named?_eq_none : c.named? blobs = none ↔
    (∃ e, c.merge blobs = .error e) ∨ ∃ configuration c₁ e,
      c.merge blobs = .ok (configuration, c₁) ∧ configuration.deviceId = .error e := by
  unfold named?
  cases hm : c.merge blobs with
  | error e => simp
  | ok r =>
      obtain ⟨configuration, c₁⟩ := r
      cases hid : configuration.deviceId with
      | error e => simp [hid, Except.toOption]
      | ok other => simp [hid, Except.toOption]

-- =============================================================== equations

/-- A device that is made known is found. -/
theorem atDevice?_register {α : Type} (c : Client σ H F) (id : DeviceId)
    (f : Site σ H F → α × Site σ H F) :
    (c.register id).atDevice? id f =
      (some (f (c.found id)).1, c.withSite c.store id (f (c.found id)).2) := by
  rw [atDevice?_known (get?_register_self c id)]
  cases hd : c.devices.get? id with
  | some d =>
      rw [register_known hd, found_of_get? hd]
      rfl
  | none =>
      rw [register_unknown hd]
      unfold withSite found
      rw [hd]
      dsimp only
      rw [Registry.insert_insert]

/-- A call that initialises a device makes it known and begins to connect it. -/
theorem initDevice_eq {common : Option Bytes}
    (hm : c.merge { common } = .ok (configuration, c₁)) (hid : configuration.deviceId = .ok id) :
    c.initDevice common =
      (.ok (id, (c.found id).beginConnect.1),
        c.withSite c₁.store id (c.found id).beginConnect.2) := by
  obtain ⟨store, rfl⟩ := merge_snd hm
  unfold initDevice
  rw [hm]
  dsimp only
  rw [hid]
  dsimp only
  rw [atDevice?_register]
  rfl

/-- Targeting makes a device known and records the feature. -/
theorem target_eq (hid : configuration.deviceId = .ok id) :
    c.target configuration =
      (.ok id, c.withSite c.store id (c.targeted id configuration.featureName)) := by
  unfold target
  rw [hid]
  unfold onDevice
  dsimp only
  rw [atDevice?_register]
  rfl

/-- A configuration that names no device leaves the client alone. -/
theorem target_of_unnamed {e : DriverError} (hid : configuration.deviceId = .error e) :
    c.target configuration = (.error e, c) := by
  unfold target
  rw [hid]

/-- A call that sets the configuration stores it and targets the device that is named. -/
theorem setConfig_eq (hm : c.merge blobs = .ok (configuration, c₁))
    (hid : configuration.deviceId = .ok id) :
    c.setConfig blobs =
      (.ok (), c.withSite c₁.store id (c.targeted id configuration.featureName)) := by
  obtain ⟨store, rfl⟩ := merge_snd hm
  unfold setConfig
  rw [hm]
  dsimp only
  rw [target_eq hid]
  rfl

/-- A read or a write is done at the site, with the feature targeted. -/
theorem onTarget_eq {α : Type} (f : String → Site σ H F → Except DriverError α × Site σ H F)
    (hm : c.merge blobs = .ok (configuration, c₁)) (hid : configuration.deviceId = .ok id) :
    c.onTarget blobs f =
      ((f configuration.featureName (c.targeted id configuration.featureName)).1,
        c.withSite c₁.store id
          (f configuration.featureName (c.targeted id configuration.featureName)).2) := by
  obtain ⟨store, rfl⟩ := merge_snd hm
  unfold onTarget
  rw [hm]
  dsimp only
  rw [target_eq hid]
  dsimp only
  rw [atDevice?_known (Registry.get?_insert_self _ _ _)]
  unfold withSite
  dsimp only
  rw [Registry.insert_insert]
  rfl

-- ================================================================ unnamed

/-- A merge that fails changes nothing, and one that names no device stores at
most. -/
theorem initDevice_of_unnamed {common : Option Bytes} (h : c.named? { common } = none) :
    ∃ e store, c.initDevice common = (.error e, { c with store }) := by
  unfold initDevice
  rcases named?_eq_none.mp h with ⟨e, hm⟩ | ⟨configuration, c₁, e, hm, hid⟩ <;> rw [hm]
  · exact ⟨e, c.store, rfl⟩
  · obtain ⟨store, rfl⟩ := merge_snd hm
    dsimp only
    rw [hid]
    exact ⟨e, store, rfl⟩

/-- If no device is named a call that sets the configuration at most stores it. -/
theorem setConfig_of_unnamed (h : c.named? blobs = none) :
    ∃ store, (c.setConfig blobs).2 = { c with store } := by
  unfold setConfig
  rcases named?_eq_none.mp h with ⟨e, hm⟩ | ⟨configuration, c₁, e, hm, hid⟩ <;> rw [hm]
  · exact ⟨c.store, rfl⟩
  · obtain ⟨store, rfl⟩ := merge_snd hm
    dsimp only
    rw [target_of_unnamed hid]
    cases e <;> exact ⟨store, rfl⟩

/-- What is to be done with the device that is targeted fails without one, and at most the
configuration is stored. -/
theorem onTarget_of_unnamed {α : Type}
    (f : String → Site σ H F → Except DriverError α × Site σ H F) (h : c.named? blobs = none) :
    ∃ e store, c.onTarget blobs f = (.error e, { c with store }) := by
  unfold onTarget
  rcases named?_eq_none.mp h with ⟨e, hm⟩ | ⟨configuration, c₁, e, hm, hid⟩ <;> rw [hm]
  · exact ⟨e, c.store, rfl⟩
  · obtain ⟨store, rfl⟩ := merge_snd hm
    dsimp only
    rw [target_of_unnamed hid]
    exact ⟨e, store, rfl⟩

-- ================================================================== states

variable [Camera σ H F]

/-- A device that is found, or made, stands in a state that it gets into. -/
theorem Proper.found_reachable (h : c.Proper) (id : DeviceId) : (c.found id).Reachable := by
  unfold found
  cases hd : c.devices.get? id with
  | some d => exact h.reachable hd
  | none => exact .fresh _ _ _ _

/-- A device that has been targeted stands in a state that it gets into. -/
theorem Proper.targeted_reachable (h : c.Proper) (id : DeviceId) (feature : String) :
    (c.targeted id feature).Reachable :=
  (h.found_reachable id).step c.settings.pace (.target feature)

/-- A device that is found stands under its own identifier. -/
theorem Proper.found_id (h : c.Proper) (id : DeviceId) : (c.found id).device.id = id := by
  unfold found
  cases hd : c.devices.get? id with
  | some d => exact h.id hd
  | none => rfl

end Client

end CameraDriver
