/-
Stopping at the client: what `stop` and `stopDevice` do to the devices, in
whatever order the devices are stopped, and which steps leave a device that
was stopped alone.
-/
import CameraDriver.Proofs.Client.Moves

namespace CameraDriver

variable {σ H F : Type}

namespace Client

-- ================================================================= look-up

/-- A change of a device is seen at that device. -/
theorem get?_onDevice (c : Client σ H F) (id other : DeviceId) (f : Site σ H F → Site σ H F) :
    (c.onDevice id f).devices.get? other =
      if other = id then
        (c.devices.get? id).map fun d => (f { camera := c.camera, device := d }).device
      else c.devices.get? other := by
  cases hd : c.devices.get? id with
  | none =>
      rw [onDevice_unknown hd]
      split
      case isTrue heq => rw [heq, hd]; rfl
      case isFalse => rfl
  | some d =>
      rw [onDevice_known hd]
      split
      case isTrue heq => rw [heq]; exact Registry.get?_insert_self _ _ _
      case isFalse hne => exact Registry.get?_insert_ne _ _ hne

theorem get?_onDevice_ne {c : Client σ H F} {id other : DeviceId} (h : other ≠ id)
    (f : Site σ H F → Site σ H F) :
    (c.onDevice id f).devices.get? other = c.devices.get? other := by
  rw [get?_onDevice, if_neg h]

theorem onDevice_store (c : Client σ H F) (id : DeviceId) (f : Site σ H F → Site σ H F) :
    (c.onDevice id f).store = c.store := by
  unfold onDevice atDevice?
  split <;> rfl

theorem onDevice_settings (c : Client σ H F) (id : DeviceId) (f : Site σ H F → Site σ H F) :
    (c.onDevice id f).settings = c.settings := by
  unfold onDevice atDevice?
  split <;> rfl

-- =========================================================== stopping many

/-- The calls that close what the record of a device holds. -/
def closing (c : Client σ H F) (id : DeviceId) : List (Call H) :=
  ((c.devices.get? id).map Device.closing).getD []

variable [Camera σ H F]

/-- Devices are stopped one after the other. -/
def stopAll (c : Client σ H F) (ids : List DeviceId) : Client σ H F :=
  ids.foldl (fun c id => c.onDevice id Site.stop) c

/-- The call that stops the client stops every known device. -/
theorem stopDevice_eq (c : Client σ H F) : c.stopDevice = c.stopAll c.devices.ids := rfl

theorem stopAll_store (c : Client σ H F) (ids : List DeviceId) :
    (c.stopAll ids).store = c.store := by
  induction ids generalizing c with
  | nil => rfl
  | cons id rest ih => exact (ih _).trans (onDevice_store c id _)

/-- Stopping devices leaves the settings. -/
theorem stopAll_settings (c : Client σ H F) (ids : List DeviceId) :
    (c.stopAll ids).settings = c.settings := by
  induction ids generalizing c with
  | nil => rfl
  | cons id rest ih => exact (ih _).trans (onDevice_settings c id _)

/-- Each device of the list is stopped, the others stay. -/
theorem get?_stopAll {ids : List DeviceId} (h : ids.Nodup) (c : Client σ H F)
    (other : DeviceId) :
    (c.stopAll ids).devices.get? other =
      if other ∈ ids then (c.devices.get? other).map Device.stopped else c.devices.get? other := by
  induction ids generalizing c with
  | nil => rfl
  | cons id rest ih =>
      obtain ⟨hid, hrest⟩ := List.nodup_cons.mp h
      show ((c.onDevice id Site.stop).stopAll rest).devices.get? other = _
      rw [ih hrest, get?_onDevice]
      by_cases heq : other = id
      · subst heq
        rw [if_neg hid, if_pos rfl, if_pos List.mem_cons_self]
        congr 1
        funext d
        exact Site.stop_device _
      · rw [if_neg heq]
        by_cases hm : other ∈ rest
        · rw [if_pos hm, if_pos (List.mem_cons_of_mem _ hm)]
        · rw [if_neg hm, if_neg (fun h => (List.mem_cons.mp h).elim heq hm)]

/-- The camera is asked to close what the records hold, in the order of the
list. -/
theorem stopAll_served {ids : List DeviceId} (h : ids.Nodup) (c : Client σ H F) :
    Served c.camera (ids.reverse.flatMap c.closing) (c.stopAll ids).camera := by
  induction ids generalizing c with
  | nil => exact .nothing
  | cons id rest ih =>
      obtain ⟨hid, hrest⟩ := List.nodup_cons.mp h
      have hfirst : Served c.camera (c.closing id) (c.onDevice id Site.stop).camera := by
        unfold closing
        cases hd : c.devices.get? id with
        | none =>
            rw [onDevice_unknown hd]
            exact .nothing
        | some d =>
            rw [onDevice_known hd]
            exact Site.stop_served { camera := c.camera, device := d }
      -- the devices that follow hold what they held
      have hsame : rest.reverse.flatMap (c.onDevice id Site.stop).closing
          = rest.reverse.flatMap c.closing := by
        refine List.flatMap_congr ?_
        intro other hm
        unfold closing
        rw [get?_onDevice_ne]
        rintro rfl
        exact hid (List.mem_reverse.mp hm)
      have hlast := ih hrest (c.onDevice id Site.stop)
      rw [hsame] at hlast
      rw [List.reverse_cons, List.flatMap_append, List.flatMap_singleton]
      exact hfirst.append hlast

/-- The registry stays in order. -/
theorem Proper.stopAll {c : Client σ H F} (h : c.Proper) (ids : List DeviceId) :
    (c.stopAll ids).Proper := by
  induction ids generalizing c with
  | nil => exact h
  | cons id rest ih => exact ih (h.act id .stop)

/-- Stopping all devices in another order leaves the same devices, and asks
the camera for the same closes. -/
theorem stopAll_order {c : Client σ H F} (h : c.Proper) {order : List DeviceId}
    (horder : order.Perm c.devices.ids) :
    (c.stopAll order).devices = c.stopDevice.devices
      ∧ (c.stopAll order).store = c.stopDevice.store
      ∧ (c.stopAll order).settings = c.stopDevice.settings
      ∧ ∃ calls calls', calls.Perm calls'
        ∧ Served c.camera calls (c.stopAll order).camera
        ∧ Served c.camera calls' c.stopDevice.camera := by
  have hids := h.ascending.keys_nodup
  have hnodup := horder.nodup_iff.mpr hids
  rw [stopDevice_eq]
  refine ⟨?_, ?_, ?_, ?_⟩
  · refine (h.stopAll order).ascending.ext (h.stopAll _).ascending ?_
    intro id
    rw [get?_stopAll hnodup, get?_stopAll hids]
    simp only [horder.mem_iff]
  · rw [stopAll_store, stopAll_store]
  · rw [stopAll_settings, stopAll_settings]
  · refine ⟨_, _, ?_, stopAll_served hnodup c, stopAll_served hids c⟩
    exact ((order.reverse_perm.trans horder).trans (List.reverse_perm _).symm).flatMap_right _

-- ================================================================= sparing

/-- Whether a step asks for a connection of any device. -/
def Step.startsLink : Step → Bool
  | .initDevice _ => true
  | .device _ step => step.startsLink
  | _ => false

omit [Camera σ H F] in
/-- A step that asks for no connection spares every device. -/
theorem spares_of_startsLink {c : Client σ H F} {step : Step} (h : step.startsLink = false)
    (id : DeviceId) : Spares id c step := by
  cases step with
  | initDevice common => cases h
  | device other step => exact fun _ => h
  | _ => trivial

/-- Whether steps spare a device when they are taken one after the other. -/
def SparesAll (id : DeviceId) (c : Client σ H F) : List Step → Prop
  | [] => True
  | step :: rest => Spares id c step ∧ SparesAll id (c.apply step) rest

/-- A device that rests goes on resting while it is spared. -/
theorem rests_run {c : Client σ H F} {id : DeviceId} {d₀ d : Device H F} (hp : c.Proper)
    (hd : c.devices.get? id = some d) (h : d₀.Rests d) {steps : List Step}
    (hs : SparesAll id c steps) : ∃ d', (c.run steps).devices.get? id = some d' ∧ d₀.Rests d' := by
  induction steps generalizing c d with
  | nil => exact ⟨d, hd, h⟩
  | cons step rest ih =>
      obtain ⟨acts, hmoves, hacts⟩ := apply_moves c step
      have hkept : ∃ d', (c.apply step).devices.get? id = some d' ∧ d₀.Rests d' := by
        refine hmoves.keeps_device hp hd h ?_
        intro s pace act hm hr hrests
        obtain ⟨calls, hch⟩ := Site.apply_change pace s act
        exact hrests.trans (hrests.retired.change hr.exclusive (hacts id hs.1 _ hm rfl) hch)
      obtain ⟨d₁, hd₁, hrests⟩ := hkept
      exact ih (hp.run [step]) hd₁ hrests hs.2

/-- Every known device is halted. -/
def AllHalted (c : Client σ H F) : Prop := ∀ id d, c.devices.get? id = some d → d.Halted

/-- Stopping all devices halts them all. -/
theorem allHalted_stopDevice {c : Client σ H F} (h : c.Proper) : c.stopDevice.AllHalted := by
  intro id d hd
  rw [stopDevice_eq, get?_stopAll h.ascending.keys_nodup] at hd
  split at hd
  case isTrue =>
    obtain ⟨d', -, rfl⟩ := Option.map_eq_some_iff.mp hd
    exact .of_stop d'
  case isFalse hm =>
    -- a device that is known is in the list
    exact absurd (List.mem_map_of_mem (h.ascending.mem_entries.mpr hd)) hm

namespace AllHalted

variable {c : Client σ H F}

omit [Camera σ H F] in
/-- There is nothing to close. -/
theorem closing_eq (h : c.AllHalted) (id : DeviceId) : c.closing id = [] := by
  unfold closing
  cases hd : c.devices.get? id with
  | none => rfl
  | some d => exact (h id d hd).closing_eq

/-- Stopping all devices again asks nothing of the camera. -/
theorem stopDevice_camera (h : c.AllHalted) (hp : c.Proper) : c.stopDevice.camera = c.camera := by
  have hserved := stopAll_served hp.ascending.keys_nodup c
  have hnone : c.devices.ids.reverse.flatMap c.closing = [] := by
    rw [List.flatMap_eq_nil_iff]
    exact fun id _ => h.closing_eq id
  rw [hnone] at hserved
  exact hserved.eq_of_nil

omit [Camera σ H F] in
/-- A device that becomes known is halted. -/
theorem register (h : c.AllHalted) (id : DeviceId) : (c.register id).AllHalted :=
  forall_get?_register (P := fun _ (d : Device H F) => d.Halted) (.fresh _ _ _) h

/-- Steps that ask for no connection leave every device halted. -/
theorem act (h : c.AllHalted) (hp : c.Proper) (id : DeviceId) {step : Site.Step}
    (hstep : step.startsLink = false) :
    (c.onDevice id (·.apply c.settings.pace step)).AllHalted := by
  refine forall_get?_onDevice (P := fun _ (d : Device H F) => d.Halted) ?_ h
  intro d hd
  obtain ⟨calls, hch⟩ :=
    Site.apply_change c.settings.pace { camera := c.camera, device := d } step
  exact (h id d hd).rests ((h id d hd).retired.change (hp.reachable hd).exclusive hstep hch)

/-- They stay so while no connection is asked for. -/
theorem run (h : c.AllHalted) (hp : c.Proper) {steps : List Step}
    (hs : ∀ step ∈ steps, step.startsLink = false) : (c.run steps).AllHalted := by
  induction steps generalizing c with
  | nil => exact h
  | cons step rest ih =>
      obtain ⟨acts, hmoves, hacts⟩ := apply_moves c step
      have hfree := hs step List.mem_cons_self
      have hboth := hmoves.keeps_proper (P := AllHalted) hp h ?_ ?_ ?_
      · refine ih hboth.2 hboth.1 ?_
        intro step hm
        exact hs step (List.mem_cons_of_mem _ hm)
      · intro c store _ h
        exact h
      · intro c id _ h
        exact h.register id
      · intro c id act hm hp h
        exact h.act hp id (hacts id (spares_of_startsLink hfree id) _ hm rfl)

end AllHalted

end Client

end CameraDriver
