/-
A read gives what was stored last, across the whole stack.

Between a client and a feature of a simulated device stand the merge of the blobs,
the dispatch of the feature, the connection and the camera. `Client.stores?` says
which turns store something: a script that sets the feature, and a write of the
device that succeeds. Over a run the last one of them counts
(`Client.lastStored?`), whatever else has happened.

A read reaches the device if it is connected and its record holds a connection. The
second follows from the first unless a cancelled loop has begun late
(Proofs/Device/Late); with one queue none does. Where one has, the read is refused
(`read_after_late_loop`).
-/
import CameraDriver.Proofs.Client.Scripted
import CameraDriver.Proofs.Client.Refusal
import CameraDriver.Proofs.Device.Late

namespace CameraDriver

open SimulatedCamera (Handle Script Scene Plays)

-- ================================================================ one site

namespace Site

def Step.isWrite : Step → Bool
  | .write .. => true
  | _ => false

variable {σ H F : Type} [Camera σ H F]

/-- What is no write stores nothing. -/
theorem stores?_of_isWrite {s : Site σ H F} {feature : String} {step : Step}
    (h : step.isWrite = false) : s.stores? feature step = none := by
  cases step with
  | write target value => cases h
  | _ => rfl

/-- A device that is not connected stores nothing. -/
theorem stores?_of_not_connected {s : Site σ H F} (hs : s.device.status ≠ .connected)
    (feature : String) (step : Step) : s.stores? feature step = none := by
  cases step with
  | write target value =>
      have hrefused : (s.write target value).1.isOk = false := by
        unfold write
        split
        next => rfl
        next =>
          split
          next => rfl
          next hc => exact absurd (status_of_isConnected (by simpa using hc)) hs
      rw [stores?_write, hrefused, if_neg (fun h => by cases h.2)]
  | _ => rfl

/-- What a read of a device answers, by what the feature holds. -/
def recalled (id : DeviceId) (feature : String) : Option String → Except DriverError Value
  | some text => .ok (.text text)
  | none =>
      .error (.softHardware id
        ("get " ++ feature ++ " from device " ++ id.text ++ " failed: "
          ++ ("feature " ++ feature ++ " not found")))

/-- A connected device on which no failure waits answers a read from its table. -/
theorem read_recalls {s : Site SimulatedCamera Handle Bytes} {feature : String}
    {con : Connection Handle} (hf : VirtualFeature.ofName? feature = none)
    (hs : s.device.status = .connected) (hc : s.device.record.handle = some con)
    (hcon : con.handle = ⟨s.device.id⟩) (hattached : s.camera.isAttached s.device.id = true)
    (hq : s.camera.failures s.device.id = []) :
    (s.read feature).1 = recalled s.device.id feature (s.camera.feature? s.device.id feature) := by
  have hanswer := SimulatedCamera.readFeature_fst hattached hq feature
  rw [← hcon] at hanswer
  have hconnection : s.connection = .ok con := by
    unfold connection
    rw [hs, hc]
    rfl
  unfold Site.read
  rw [hs, hf, hconnection]
  dsimp only [Status.isConnected]
  unfold readDevice
  have hread : Camera.readFeature con.handle feature s.camera
      = SimulatedCamera.readFeature con.handle feature s.camera := rfl
  rw [hread]
  generalize SimulatedCamera.readFeature con.handle feature s.camera = r at hanswer ⊢
  obtain ⟨result, camera⟩ := r
  dsimp only at hanswer ⊢
  rw [hanswer]
  cases s.camera.feature? s.device.id feature with
  | some text => rfl
  | none => rfl

end Site

-- ================================================================ one turn

namespace Client

variable {σ H F : Type}

/-- The device and the feature that a call targets. -/
def targets? (c : Client σ H F) (blobs : Blobs) : Option (DeviceId × String) :=
  match c.merge blobs with
  | .ok (configuration, _) =>
      configuration.deviceId.toOption.map fun id => (id, configuration.featureName)
  | .error _ => none

/-- Blobs target a device and a feature if the merged configuration names them. -/
theorem targets?_eq_some {c : Client σ H F} {blobs : Blobs} {id : DeviceId}
    {feature : String} : c.targets? blobs = some (id, feature) ↔
      ∃ configuration c₁, c.merge blobs = .ok (configuration, c₁)
        ∧ configuration.deviceId = .ok id ∧ configuration.featureName = feature := by
  unfold targets?
  cases hm : c.merge blobs with
  | error e => simp
  | ok r =>
      obtain ⟨configuration, c₁⟩ := r
      cases hid : configuration.deviceId with
      | error e => simp [hid, Except.toOption]
      | ok other => simp [hid, Except.toOption]

/-- What a call of the client does with devices is no late step, and it is a write
only if the call is one. -/
theorem Step.Acts.of_call {c : Client σ H F} {step : Step} {a : DeviceId × Site.Step}
    (h : step.Acts c a) (hown : ∀ id own, step ≠ .device id own) :
    (∀ d : Device H F, d.isLate a.2 = false)
      ∧ (a.2.isWrite = true → ∃ value blobs, step = .writeDeviceData value blobs) := by
  cases step with
  | initDevice common =>
      rw [h.1]
      exact ⟨fun _ => rfl, fun hw => by cases hw⟩
  | setConfig blobs =>
      obtain ⟨target, ha⟩ := h
      rw [ha]
      exact ⟨fun _ => rfl, fun hw => by cases hw⟩
  | readDeviceData blobs =>
      obtain ⟨target, ha | ha⟩ := h <;> rw [ha] <;> exact ⟨fun _ => rfl, fun hw => by cases hw⟩
  | writeDeviceData value blobs =>
      obtain ⟨target, ha | ha⟩ := h <;> rw [ha] <;> exact ⟨fun _ => rfl, fun _ => ⟨_, _, rfl⟩⟩
  | getDeviceStatus blobs => cases h
  | stop other =>
      cases h
      exact ⟨fun _ => rfl, fun hw => by cases hw⟩
  | stopDevice =>
      have ha : a.2 = .stop := h
      rw [ha]
      exact ⟨fun _ => rfl, fun hw => by cases hw⟩
  | device other own => exact absurd rfl (hown other own)

/-- What a turn stores in a feature of a device: a script sets it, or a write
succeeds. -/
def stores? (c : SimulatedClient) (id : DeviceId) (feature : String) : Turn → Option String
  | .script script => script.stored? id feature
  | .step (.writeDeviceData value blobs) =>
      if c.targets? blobs = some (id, feature) ∧ (c.writeDeviceData value blobs).1.isOk then
        value.wire.toOption
      else none
  | .step (.device other step) =>
      if other = id then (c.found id).stores? feature step else none
  | _ => none

namespace Staged

variable {scenes : List Scene} {c : SimulatedClient} {id : DeviceId} {feature : String}

/-- Acts that are no writes leave the features. -/
theorem moves_feature? (h : Staged scenes c) (hf : VirtualFeature.ofName? feature = none)
    (id : DeviceId) {c' : SimulatedClient} {acts : List (DeviceId × Site.Step)}
    (hmoves : Moves c acts c') (hacts : ∀ a ∈ acts, a.2.isWrite = false) :
    c'.camera.feature? id feature = c.camera.feature? id feature := by
  have hkept := h.keeps
    (P := fun c' => c'.camera.feature? id feature = c.camera.feature? id feature)
    hmoves rfl (fun _ _ hc => hc) (fun _ _ hc => hc)
  refine (hkept ?_).elim fun _ hall => hall.2.2
  intro scenes c' other step hm hstaged hc
  rw [← hc]
  cases hd : c'.devices.get? other with
  | none => rw [onDevice_unknown hd]
  | some d =>
      have hact := hstaged.act_feature? hf hd id step
      rw [onDevice_known hd]
      dsimp only at hact ⊢
      rw [hact, Site.stores?_of_isWrite (hacts _ hm), ite_self, Option.none_or]

/-- A write of the client is a write of the device that it targets. -/
theorem write_feature? (h : Staged scenes c) (hf : VirtualFeature.ofName? feature = none)
    (id : DeviceId) (value : Value) (blobs : Blobs) :
    (c.apply (.writeDeviceData value blobs)).camera.feature? id feature
      = (c.stores? id feature (.step (.writeDeviceData value blobs))).or
          (c.camera.feature? id feature) := by
  have hstores : c.stores? id feature (.step (.writeDeviceData value blobs))
      = if c.targets? blobs = some (id, feature) ∧ (c.writeDeviceData value blobs).1.isOk then
          value.wire.toOption
        else none := rfl
  have hafter : c.apply (.writeDeviceData value blobs) = (c.writeDeviceData value blobs).2 := rfl
  rw [hstores, hafter]
  cases hnamed : c.named? blobs with
  | none =>
      obtain ⟨e, store, heq⟩ :=
        onTarget_of_unnamed (fun feature s => Site.write feature value s) hnamed
      have heq : c.writeDeviceData value blobs = (.error e, { c with store }) := heq
      rw [heq, if_neg fun hand => by cases hand.2]
      rfl
  | some other =>
      obtain ⟨configuration, c₁, hm, hid⟩ := named?_eq_some.mp hnamed
      have heq : c.writeDeviceData value blobs = _ :=
        onTarget_eq (fun feature s => Site.write feature value s) hm hid
      have htargets : c.targets? blobs = some (other, configuration.featureName) :=
        targets?_eq_some.mpr ⟨configuration, c₁, hm, hid, rfl⟩
      -- the feature is targeted first, as by a configuration alone
      have hset : c.apply (.setConfig blobs)
          = c.withSite c₁.store other (c.targeted other configuration.featureName) :=
        congrArg Prod.snd (setConfig_eq hm hid)
      obtain ⟨newer, hstaged, -⟩ := h.turn (.step (.setConfig blobs))
      have hstaged : Staged (newer ++ scenes) (c.apply (.setConfig blobs)) := hstaged
      rw [hset] at hstaged
      have hact := hstaged.act_feature? hf (Registry.get?_insert_self _ _ _) id
        (.write configuration.featureName value)
      rw [heq, htargets]
      refine hact.trans ?_
      rw [Site.stores?_write]
      congr 1
      by_cases hother : other = id
      · simp only [hother, Option.some.injEq, Prod.mk.injEq, true_and]
        rw [if_pos trivial]
        rfl
      · simp [hother]

/-- A step of a device that stores a text for the feature leaves that text, and any other
step the text that was there. If the device is not known, the step does nothing. -/
theorem device_feature? (h : Staged scenes c) (hf : VirtualFeature.ofName? feature = none)
    (id other : DeviceId) (step : Site.Step) :
    (c.apply (.device other step)).camera.feature? id feature
      = (c.stores? id feature (.step (.device other step))).or
          (c.camera.feature? id feature) := by
  have hstores : c.stores? id feature (.step (.device other step))
      = if other = id then (c.found id).stores? feature step else none := rfl
  have hafter : c.apply (.device other step)
      = c.onDevice other (·.apply c.settings.pace step) := rfl
  rw [hstores, hafter]
  cases hd : c.devices.get? other with
  | none =>
      rw [onDevice_unknown hd]
      split
      case isTrue heq =>
        subst heq
        rw [Site.stores?_of_not_connected, Option.none_or]
        unfold found
        rw [hd]
        exact fun hs => by cases hs
      case isFalse => rfl
  | some d =>
      rw [onDevice_known hd]
      refine (h.act_feature? hf hd id step).trans ?_
      split
      case isTrue heq => rw [← heq, found_of_get? hd]
      case isFalse => rfl

/-- What a step of the client stores, the camera has afterwards. -/
theorem step_feature? (h : Staged scenes c) (hf : VirtualFeature.ofName? feature = none)
    (id : DeviceId) (step : Step) :
    (c.apply step).camera.feature? id feature
      = (c.stores? id feature (.step step)).or (c.camera.feature? id feature) := by
  by_cases hwrite : ∃ value blobs, step = .writeDeviceData value blobs
  · obtain ⟨value, blobs, rfl⟩ := hwrite
    exact h.write_feature? hf id value blobs
  by_cases hown : ∃ other own, step = .device other own
  · obtain ⟨other, own, rfl⟩ := hown
    exact h.device_feature? hf id other own
  · have hnone : c.stores? id feature (.step step) = none := by
      cases step with
      | writeDeviceData value blobs => exact absurd ⟨_, _, rfl⟩ hwrite
      | device other own => exact absurd ⟨_, _, rfl⟩ hown
      | _ => rfl
    obtain ⟨acts, hmoves, hacts⟩ := apply_acts c step
    rw [hnone, Option.none_or]
    refine h.moves_feature? hf id hmoves ?_
    intro a ha
    rw [Bool.eq_false_iff]
    exact mt ((hacts a ha).of_call fun other own heq => hown ⟨other, own, heq⟩).2 hwrite

/-- What a turn stores, the camera has afterwards. -/
theorem turn_feature? (h : Staged scenes c) (hf : VirtualFeature.ofName? feature = none)
    {t : Turn} (hd : t ≠ .script (.detach id)) :
    (c.turn t).camera.feature? id feature
      = (c.stores? id feature t).or (c.camera.feature? id feature) := by
  cases t with
  | step step => exact h.step_feature? hf id step
  | script script =>
      refine SimulatedCamera.scripted_feature? ?_ feature
      rintro rfl
      exact hd rfl

end Staged

-- =================================================================== a run

/-- What the turns of a run have stored last in a feature of a device. -/
def lastStored? (id : DeviceId) (feature : String) : SimulatedClient → List Turn → Option String
  | _, [] => none
  | c, t :: rest => (lastStored? id feature (c.turn t) rest).or (c.stores? id feature t)

/-- Over a run the camera has what was stored last. -/
theorem Staged.turns_feature? {scenes : List Scene} {c : SimulatedClient} {id : DeviceId}
    {feature : String} (h : Staged scenes c) (hf : VirtualFeature.ofName? feature = none)
    (ts : List Turn) (hd : .script (.detach id) ∉ ts) :
    (c.turns ts).camera.feature? id feature
      = (lastStored? id feature c ts).or (c.camera.feature? id feature) := by
  induction ts generalizing c scenes with
  | nil => rfl
  | cons t rest ih =>
      obtain ⟨hne, hd⟩ := not_or.mp (mt List.mem_cons.mpr hd)
      obtain ⟨newer, hnext, -⟩ := h.turn t
      refine (ih hnext hd).trans ?_
      rw [h.turn_feature? hf (Ne.symm hne), ← Option.or_assoc]
      rfl

-- ==================================================================== held

/-- Whether the record of a device holds a connection. -/
def holds (c : SimulatedClient) (id : DeviceId) : Bool :=
  ((c.devices.get? id).map (·.record.handle.isSome)).getD false

/-- Whether a turn is a late step of a device. -/
def isLate (c : SimulatedClient) (id : DeviceId) : Turn → Bool
  | .step (.device other step) => other == id && (c.found id).device.isLate step
  | _ => false

/-- No turn of a run is a late step of a device. -/
def Timely (id : DeviceId) : SimulatedClient → List Turn → Prop
  | _, [] => True
  | c, t :: rest => c.isLate id t = false ∧ Timely id (c.turn t) rest

instance decidableTimely (id : DeviceId) : (c : SimulatedClient) → (ts : List Turn) →
    Decidable (Timely id c ts)
  | _, [] => .isTrue trivial
  | c, t :: rest => @instDecidableAnd _ _ _ (decidableTimely id (c.turn t) rest)

/-- While a device is connected its record holds a connection. -/
def Held (c : SimulatedClient) (id : DeviceId) : Prop :=
  ∀ d, c.devices.get? id = some d → d.Held

section

variable {c : SimulatedClient} {id : DeviceId}

theorem Held.register (h : c.Held id) (other : DeviceId) : (c.register other).Held id := by
  refine fun d hget => forall_get?_register (P := fun other d => other = id → d.Held) ?_ ?_
    id d hget rfl
  · exact fun _ => .of_down fun hs => by cases hs
  · rintro _ d hd rfl
    exact h d hd

/-- A step that is not late leaves a connected device with its connection. -/
theorem Held.act (h : c.Held id) (hp : c.Proper) {other : DeviceId} {step : Site.Step}
    (hlate : other = id → (c.found id).device.isLate step = false) :
    (c.onDevice other (·.apply c.settings.pace step)).Held id := by
  refine fun d hget => forall_get?_onDevice (P := fun other d => other = id → d.Held) ?_ ?_
    id d hget rfl
  · rintro d hd rfl
    rw [found_of_get? hd] at hlate
    obtain ⟨calls, hch⟩ :=
      Site.apply_change c.settings.pace { camera := c.camera, device := d } step
    exact (hp.reachable hd).phased.held_change (hlate rfl) hch (h d hd)
  · rintro _ d hd rfl
    exact h d hd

theorem Held.turn (h : c.Held id) (hp : c.Proper) {t : Turn} (hlate : c.isLate id t = false) :
    (c.turn t).Held id := by
  cases t with
  | script script => exact h
  | step step =>
      by_cases hown : ∃ other own, step = .device other own
      · -- a step of a device, which is not late if it is this one
        obtain ⟨other, own, rfl⟩ := hown
        refine h.act hp ?_
        rintro rfl
        have hlate : (other == other && (c.found other).device.isLate own) = false := hlate
        rwa [beq_self_eq_true, Bool.true_and] at hlate
      · -- any other step does nothing late
        obtain ⟨acts, hmoves, hacts⟩ := apply_acts c step
        refine (hmoves.keeps_proper (P := fun c => c.Held id) hp h ?_ ?_ ?_).2
        · exact fun _ _ _ h => h
        · exact fun _ other _ h => h.register other
        · intro c' other act hm hp h
          have hcall := (hacts _ hm).of_call fun other own heq => hown ⟨other, own, heq⟩
          exact h.act hp fun _ => hcall.1 _

/-- So does a run in which none is late. -/
theorem Held.turns {scenes : List Scene} (h : c.Held id) (hstaged : Staged scenes c)
    (ts : List Turn) (htimely : Timely id c ts) : (c.turns ts).Held id := by
  induction ts generalizing c scenes with
  | nil => exact h
  | cons t rest ih =>
      obtain ⟨newer, hnext, -⟩ := hstaged.turn t
      exact ih (h.turn hstaged.proper htimely.1) hnext htimely.2

end

-- =================================================================== reads

/-- A connected device whose record holds a connection is read from its table. -/
theorem Staged.read_recalls {scenes : List Scene} {c : SimulatedClient} {id : DeviceId}
    {feature : String} (h : Staged scenes c) (hf : VirtualFeature.ofName? feature = none)
    (hd : .detach id ∉ scenes.filterMap Scene.script?) (hs : c.status? id = some .connected)
    (hc : c.holds id = true) (hq : c.camera.failures id = []) :
    let answer := Site.recalled id feature (c.camera.feature? id feature)
    ((c.found id).read feature).1 = answer
      ∧ ∀ blobs, c.targets? blobs = some (id, feature) → (c.readDeviceData blobs).1 = answer := by
  intro answer
  obtain ⟨d, hget, hs⟩ := Option.map_eq_some_iff.mp hs
  unfold holds at hc
  rw [hget] at hc
  obtain ⟨con, hcon⟩ := Option.isSome_iff_exists.mp hc
  have hmem : con ∈ d.connections := by
    refine List.mem_append_left _ ?_
    unfold Device.held
    rw [hcon]
    exact List.mem_singleton_self con
  have hid := h.proper.id hget
  have hattached := h.plays.isAttached hd (h.opened hget hmem)
  have hread : ∀ s : Site SimulatedCamera Handle Bytes, s.camera = c.camera →
      s.device.status = d.status → s.device.record.handle = d.record.handle →
      s.device.id = d.id → (s.read feature).1 = answer := by
    intro s hcamera hstatus hhandle hdevice
    have hsite := Site.read_recalls hf (hstatus.trans hs) (hhandle.trans hcon)
    rw [hdevice, hid, hcamera] at hsite
    exact hsite (h.handle_eq hget hmem) hattached hq
  refine ⟨?_, ?_⟩
  · rw [found_of_get? hget]
    exact hread _ rfl rfl rfl rfl
  · intro blobs htargets
    obtain ⟨configuration, c₁, hm, hname, rfl⟩ := targets?_eq_some.mp htargets
    have heq : c.readDeviceData blobs = _ := onTarget_eq Site.read hm hname
    rw [heq]
    have hsite := hread (c.targeted id configuration.featureName)
    unfold targeted at hsite ⊢
    rw [found_of_get? hget] at hsite ⊢
    exact hsite rfl rfl rfl rfl

/-- Over every run of a client on a simulated camera, whatever its turns are, as long
as they do not detach a device: if the device is connected and no failure waits for
its next call, a read of a feature that the device itself has gives the text that was
stored last, by a write that succeeded or by a script, and is a soft failure if none
was. This needs the record to hold a connection, and it does unless a turn of the run
was a late step of the device, which no step is that keeps to the queue.

Each failure that is scripted for the device is taken by one call for a feature or an
image of the device, in the order in which they were scripted, or still waits. The
call answers the failure and changes no feature of any device. The calls are those
that the logs of the devices note. -/
theorem reads_return_last_write (settings : ClientSettings) (ts : List Turn) {id : DeviceId}
    {feature : String} (hf : VirtualFeature.ofName? feature = none)
    (hd : .script (.detach id) ∉ ts) :
    let start : SimulatedClient := { settings, camera := {} }
    let c := start.turns ts
    let answer := Site.recalled id feature (start.lastStored? id feature ts)
    (c.status? id = some .connected → c.camera.failures id = [] →
        (Timely id start ts → c.holds id = true)
          ∧ (c.holds id = true →
              ((c.found id).read feature).1 = answer
                ∧ ∀ blobs, c.targets? blobs = some (id, feature) →
                  (c.readDeviceData blobs).1 = answer))
      ∧ (∀ (q : Queue) (s : Site SimulatedCamera Handle Bytes), Site.InTurn q s →
          ∀ step, s.device.isLate step = false)
      ∧ ∃ scenes, Plays {} scenes c.camera
        ∧ scenes.reverse.filterMap Scene.script? = ts.filterMap Turn.script?
        ∧ (∀ other, (Call.ofDevice other (scenes.filterMap Scene.call?)).map (·.event)
            = ((c.devices.get? other).map (·.log)).getD [])
        ∧ (ts.filterMap Turn.script?).filterMap (Script.queued? id)
            = scenes.reverse.filterMap (Scene.spent? id) ++ c.camera.failures id
        ∧ ∀ scene ∈ scenes, ∀ e, scene.spent? id = some e →
            ∃ x, scene.call? = some x ∧ x.device = id
              ∧ x.event.outcome? = some (.error e)
              ∧ ∀ other target, scene.after.feature? other target
                = scene.before.feature? other target := by
  intro start c answer
  have hfresh := Staged.fresh settings
  obtain ⟨scenes, hstaged, hscripts⟩ := hfresh.turns ts
  rw [List.append_nil] at hstaged
  have hdetach : .detach id ∉ scenes.filterMap Scene.script? := by
    rw [← List.mem_reverse, ← List.filterMap_reverse, hscripts]
    intro hm
    obtain ⟨t, ht, hscript⟩ := List.mem_filterMap.mp hm
    cases t with
    | step step => cases hscript
    | script script =>
        cases hscript
        exact hd ht
  have hstored : c.camera.feature? id feature = start.lastStored? id feature ts :=
    (hfresh.turns_feature? hf ts hd).trans Option.or_none
  refine ⟨?_, fun q s h => h.isLate_eq_false, scenes, hstaged.plays, hscripts,
    hstaged.accounted.noted, ?_, ?_⟩
  · -- a connected device with no failure queued
    intro hs hq
    refine ⟨?_, ?_⟩
    · -- timely turns keep a connection behind a connected device
      intro htimely
      have hheld : start.Held id := fun d hd => by cases hd
      obtain ⟨d, hget, hs⟩ := Option.map_eq_some_iff.mp hs
      have hc := hheld.turns hfresh ts htimely d hget hs
      show ((c.devices.get? id).map (·.record.handle.isSome)).getD false = true
      rw [hget]
      exact hc
    · -- the camera recalls what was stored last
      intro hc
      have hread := hstaged.read_recalls hf hdetach hs hc hq
      rwa [hstored] at hread
  · -- each failure that was queued was spent, or is still there
    have hfailures := hstaged.plays.failures hdetach
    rw [← hscripts, List.filterMap_filterMap]
    exact hfailures
  · -- the call that a failure answered
    intro scene hm e he
    obtain ⟨x, hx, hasks, houtcome, hfeatures⟩ := hstaged.plays.spent_answered hm he
    refine ⟨x, hx, ?_, houtcome, hfeatures⟩
    obtain ⟨n, hn⟩ := Event.on?_of_outcome? houtcome
    have hhandle := hstaged.call_handle (List.mem_filterMap.mpr ⟨scene, hm, hx⟩) hn
    have hid := Call.handle_of_asks hasks
    rw [hhandle] at hid
    exact congrArg Handle.device (Option.some.inj hid)

/-- A feature that was written, on a device that is connected and on which no failure
waits, and yet a read answers that the device is not connected: a loop that was
cancelled before it began begins when the device has been initialized anew, and
closes the new connection. -/
theorem read_after_late_loop :
    let id : DeviceId := ⟨"a"⟩
    let common := Text.Utf8.encode "\x7b\"customizedValues\":\x7b\"deviceSN\":\"a\"\x7d\x7d"
    let visitor := Text.Utf8.encode "\x7b\"configData\":\x7b\"FeatureName\":\"Gain\"\x7d\x7d"
    let blobs : Blobs := { visitor := some visitor }
    let ts : List Turn :=
      [.script (.attach id), .step (.initDevice (some common)), .step (.device id (.reach 0)),
        .step (.device id (.resume 0 0)), .step (.writeDeviceData (.text "7") blobs),
        .script (.failNextCall id (.hard "gone")), .step (.readDeviceData blobs),
        .step (.stop id), .step (.initDevice (some common)), .step (.device id (.reach 2)),
        .step (.device id (.resume 0 2)), .step (.device id (.resume 0 1))]
    let start : SimulatedClient := { settings := .default, camera := {} }
    let c := start.turns ts
    VirtualFeature.ofName? "Gain" = none ∧ .script (.detach id) ∉ ts
      ∧ start.lastStored? id "Gain" ts = some "7" ∧ c.targets? blobs = some (id, "Gain")
      ∧ c.status? id = some .connected ∧ c.camera.failures id = []
      ∧ (c.readDeviceData blobs).1 = .error (.notConnected id) := by
  intro id common visitor blobs ts start c
  have hd : .script (.detach id) ∉ ts := by simp [ts]
  have hstored : start.lastStored? id "Gain" ts = some "7" := by decide +kernel
  have htargets : c.targets? blobs = some (id, "Gain") := by decide +kernel
  have hs : c.status? id = some .connected := by decide +kernel
  have hq : c.camera.failures id = [] := by decide +kernel
  have hfailure : c.failure? (.readDeviceData blobs) = some (.notConnected id) := by
    decide +kernel
  exact ⟨by decide, hd, hstored, htargets, hs, hq, errorOf?_eq_some.mp hfailure⟩

/-- A feature that was written reads back after the link has gone down and come up
again. -/
theorem reads_return_last_write_of_reconnect :
    let id : DeviceId := ⟨"a"⟩
    let common := Text.Utf8.encode "\x7b\"customizedValues\":\x7b\"deviceSN\":\"a\"\x7d\x7d"
    let visitor := Text.Utf8.encode "\x7b\"configData\":\x7b\"FeatureName\":\"Gain\"\x7d\x7d"
    let blobs : Blobs := { visitor := some visitor }
    let ts : List Turn :=
      [.script (.attach id), .script (.setFeature id "Gain" "3"),
        .step (.initDevice (some common)), .step (.device id (.reach 0)),
        .step (.device id (.resume 0 0)), .step (.writeDeviceData (.text "7") blobs),
        .script (.failNextCall id (.hard "gone")), .step (.readDeviceData blobs),
        .step (.device id (.resume 0 1)), .step (.device id (.resume 100000 1)),
        .step (.device id (.reach 1)), .step (.device id (.resume 100000 1))]
    let c := Client.turns { settings := .default, camera := {} } ts
    VirtualFeature.ofName? "Gain" = none ∧ .script (.detach id) ∉ ts
      ∧ c.status? id = some .connected ∧ (c.readDeviceData blobs).1 = .ok (.text "7") := by
  intro id common visitor blobs ts c
  have hf : VirtualFeature.ofName? "Gain" = none := by decide
  have hd : .script (.detach id) ∉ ts := by simp [ts]
  have hs : c.status? id = some .connected := by decide +kernel
  have hq : c.camera.failures id = [] := by decide +kernel
  have htimely : Timely id { settings := .default, camera := {} } ts := by decide +kernel
  have htargets : c.targets? blobs = some (id, "Gain") := by decide +kernel
  have hstored : lastStored? id "Gain" { settings := .default, camera := {} } ts = some "7" := by
    decide +kernel
  obtain ⟨hreads, -⟩ := reads_return_last_write .default ts hf hd
  obtain ⟨hholds, hread⟩ := hreads hs hq
  have hanswer := (hread (hholds htimely)).2 blobs htargets
  rw [hstored] at hanswer
  exact ⟨hf, hd, hs, hanswer⟩

end Client

end CameraDriver
