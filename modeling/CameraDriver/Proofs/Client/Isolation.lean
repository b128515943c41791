/-
A step is about one device, and all other devices stay as they are.

# Which device

The devices of a client share what is stored, so a call without blobs goes to
whatever device was named last. But it names it once: the device that a call is
about is the one that its own merge names (`Client.named?`), and the tasks that
it starts stand in that device's list. A step of a task is about the device in
whose list the task stands; it does not look at what is stored
(`device_store`). So it does not matter what other calls store meanwhile.

# What is left alone

`Client.OnlyAt` is the frame of such a step: every look-up of another device
gives what it gave before, and the calls are those of the one device, made on
connections that it has. A run that is never about a device keeps it
(`run_frame`), an open on the way included.
-/
import CameraDriver.Proofs.Client.Calls

namespace CameraDriver

variable {σ H F : Type}

-- ================================================================== one site

namespace Site

variable [Camera σ H F]

/-- The calls that lead from one state of a device to a later one are for the
device and noted in its log, and those on a connection are on one that it has. -/
structure Minds (s : Site σ H F) (calls : List (Call H)) (s' : Site σ H F) : Prop where
  served : Served s.camera calls s'.camera
  log : s'.device.log = calls.map (·.event) ++ s.device.log
  own : ∀ x ∈ calls, x.device = s.device.id
  made : ∀ x ∈ calls, ∀ n, x.event.on? = some n →
    ∃ con ∈ s.device.connections, con.number = n ∧ x.handle = some con.handle

theorem Minds.refl (s : Site σ H F) : s.Minds [] s where
  served := .nothing
  log := rfl
  own := by simp
  made := by simp

/-- Every step of a device minds that device, in every state. -/
theorem Reachable.minds {s : Site σ H F} (h : s.Reachable) (pace : Pace) (step : Step) :
    ∃ calls, s.Minds calls (s.apply pace step) := by
  obtain ⟨calls, hch, hserved⟩ := apply_does pace s step
  have hcons := h.exclusive.conserves hch
  exact ⟨calls, hserved, hcons.log, hcons.own, hcons.made⟩

omit [Camera σ H F] in
/-- A connect that starts a task has begun the device. -/
theorem beginConnect_starts {s : Site σ H F} {token : Token}
    (h : s.beginConnect.1 = some token) :
    token = s.device.nextToken ∧ s.beginConnect.2.device = s.device.begun := by
  unfold beginConnect at h ⊢
  split
  case isTrue hn =>
    rw [if_pos hn] at h
    cases h
  case isFalse hn =>
    rw [if_neg hn] at h
    exact ⟨(Option.some.inj h).symm, rfl⟩

/-- An open that is on the way reaches the camera for its own device. -/
theorem reach_camera {s : Site σ H F} {token : Token} {k : LinkTask H} {attempt : Attempt}
    (hk : s.device.link? token = some k) (hst : k.stage = .opening attempt) :
    (s.reach token).camera = (Camera.openDevice s.device.id s.camera).2 := by
  obtain ⟨t, cancelled, stage⟩ := k
  dsimp only at hst
  subst hst
  unfold reach
  rw [hk]
  dsimp only
  generalize Camera.openDevice s.device.id s.camera = answer
  obtain ⟨result, camera⟩ := answer
  cases result <;> rfl

end Site

namespace Client

-- ================================================================= subjects

/-- The device that a step is about: the one that its own merge names, or the
one that it is taken for. Stopping all devices is about no single one. -/
def Step.subject? (c : Client σ H F) : Step → Option DeviceId
  | .initDevice common => c.named? { common }
  | .setConfig blobs => c.named? blobs
  | .readDeviceData blobs => c.named? blobs
  | .writeDeviceData _ blobs => c.named? blobs
  | .getDeviceStatus _ => none
  | .stop id => some id
  | .stopDevice => none
  | .device id _ => some id

variable {c c₁ : Client σ H F} {step : Step} {id other : DeviceId}

variable [Camera σ H F]

-- =============================================================== one device

/-- Two clients that differ at one device, apart from what is stored, and by
calls for this device. -/
structure OnlyAt (c : Client σ H F) (id : DeviceId) (c' : Client σ H F) : Prop where
  settings : c'.settings = c.settings
  others : ∀ other, other ≠ id → c'.devices.get? other = c.devices.get? other
  calls : ∃ calls, (c.found id).Minds calls (c'.found id)

theorem OnlyAt.refl (c : Client σ H F) (id : DeviceId) : c.OnlyAt id c :=
  ⟨rfl, fun _ _ => rfl, [], .refl _⟩

/-- A client whose device was put into another state has changed there only. -/
theorem onlyAt_withSite (store : Store) {s : Site σ H F}
    (h : ∃ calls, (c.found id).Minds calls s) : c.OnlyAt id (c.withSite store id s) where
  settings := rfl
  others := fun _ hne => get?_withSite_ne hne store s
  calls := by
    rw [found_withSite]
    exact h

/-- A step of a device is taken at the device alone. -/
theorem Proper.onlyAt_act (hp : c.Proper) (id : DeviceId) (step : Site.Step) :
    c.OnlyAt id (c.onDevice id (·.apply c.settings.pace step)) := by
  cases hd : c.devices.get? id with
  | none =>
      rw [onDevice_unknown hd]
      exact .refl c id
  | some d =>
      have hminds := (hp.found_reachable id).minds c.settings.pace step
      rw [found_of_get? hd] at hminds
      rw [onDevice_known hd]
      refine onlyAt_withSite c.store ?_
      rw [found_of_get? hd]
      exact hminds

/-- Targeting a feature changes no connection and notes nothing. -/
theorem minds_of_targeted {feature : String} {s : Site σ H F}
    (h : ∃ calls, (c.targeted id feature).Minds calls s) :
    ∃ calls, (c.found id).Minds calls s := by
  obtain ⟨calls, h⟩ := h
  exact ⟨calls, h.served, h.log, h.own, h.made⟩

/-- A step that is about a device changes nothing but that device and what is
stored. -/
theorem Proper.apply_onlyAt (hp : c.Proper) (h : step.subject? c = some id) :
    c.OnlyAt id (c.apply step) := by
  have hfound := hp.found_reachable id
  cases step with
  | initDevice common =>
      obtain ⟨configuration, c₁, hm, hid⟩ := named?_eq_some.mp h
      show c.OnlyAt id (c.initDevice common).2
      rw [initDevice_eq hm hid]
      exact onlyAt_withSite c₁.store (hfound.minds c.settings.pace .connect)
  | setConfig blobs =>
      obtain ⟨configuration, c₁, hm, hid⟩ := named?_eq_some.mp h
      show c.OnlyAt id (c.setConfig blobs).2
      rw [setConfig_eq hm hid]
      exact onlyAt_withSite c₁.store (hfound.minds c.settings.pace (.target _))
  | readDeviceData blobs =>
      obtain ⟨configuration, c₁, hm, hid⟩ := named?_eq_some.mp h
      have htargeted := hp.targeted_reachable id configuration.featureName
      show c.OnlyAt id (c.onTarget blobs Site.read).2
      rw [onTarget_eq Site.read hm hid]
      exact onlyAt_withSite c₁.store
        (minds_of_targeted (htargeted.minds c.settings.pace (.read _)))
  | writeDeviceData value blobs =>
      obtain ⟨configuration, c₁, hm, hid⟩ := named?_eq_some.mp h
      have htargeted := hp.targeted_reachable id configuration.featureName
      show c.OnlyAt id (c.onTarget blobs fun feature s => s.write feature value).2
      rw [onTarget_eq (fun feature s => Site.write feature value s) hm hid]
      exact onlyAt_withSite c₁.store
        (minds_of_targeted (htargeted.minds c.settings.pace (.write _ value)))
  | getDeviceStatus blobs => cases h
  | stop named =>
      cases h
      show c.OnlyAt id (c.stop id).2
      unfold stop
      split
      · exact .refl c id
      · exact hp.onlyAt_act id .stop
  | stopDevice => cases h
  | device named act =>
      cases h
      exact hp.onlyAt_act id act

/-- A call whose merge fails or names no device stores at most. -/
theorem apply_of_unnamed (h : step.subject? c = none) (hstop : step ≠ .stopDevice) :
    ∃ store, c.apply step = { c with store } := by
  cases step with
  | initDevice common =>
      obtain ⟨e, store, hcall⟩ := initDevice_of_unnamed h
      exact ⟨store, congrArg Prod.snd hcall⟩
  | setConfig blobs => exact setConfig_of_unnamed h
  | readDeviceData blobs =>
      obtain ⟨e, store, hcall⟩ := onTarget_of_unnamed Site.read h
      exact ⟨store, congrArg Prod.snd hcall⟩
  | writeDeviceData value blobs =>
      obtain ⟨e, store, hcall⟩ :=
        onTarget_of_unnamed (fun feature s => Site.write feature value s) h
      exact ⟨store, congrArg Prod.snd hcall⟩
  | getDeviceStatus blobs => exact ⟨c.store, rfl⟩
  | stop named => cases h
  | stopDevice => exact absurd rfl hstop
  | device named act => cases h

/-- What is stored makes no difference to a step of a device. -/
theorem device_store (c : Client σ H F) (store : Store) (id : DeviceId) (act : Site.Step) :
    Client.apply { c with store } (.device id act) = { c.apply (.device id act) with store } := by
  show onDevice { c with store } id _ = { c.onDevice id _ with store }
  unfold onDevice atDevice?
  dsimp only
  cases c.devices.get? id <;> rfl

-- ================================================================== one run

/-- No step of a run is about a device, each taken where it stands in the run. -/
def Avoids (other : DeviceId) (c : Client σ H F) : List Step → Prop
  | [] => True
  | step :: rest =>
      step.subject? c ≠ some other ∧ step ≠ .stopDevice ∧ Avoids other (c.apply step) rest

/-- A step that is not about a device keeps it. -/
theorem Proper.apply_frame (hp : c.Proper) (h : step.subject? c ≠ some other)
    (hstop : step ≠ .stopDevice) :
    (c.apply step).devices.get? other = c.devices.get? other := by
  cases hs : step.subject? c with
  | none =>
      obtain ⟨store, happly⟩ := apply_of_unnamed hs hstop
      rw [happly]
  | some id =>
      refine (hp.apply_onlyAt hs).others other ?_
      rintro rfl
      exact h hs

/-- A run that avoids a device keeps it. -/
theorem Proper.run_frame (hp : c.Proper) {steps : List Step} (h : Avoids other c steps) :
    (c.run steps).devices.get? other = c.devices.get? other := by
  induction steps generalizing c with
  | nil => rfl
  | cons step rest ih =>
      obtain ⟨hsubject, hstop, hrest⟩ := h
      have hnext : (c.apply step).Proper := hp.run [step]
      exact (ih hnext hrest).trans (hp.apply_frame hsubject hstop)

-- =============================================================== in flight

/-- An initialisation that starts a task leaves its open on the way, in the list
of the device that its merge has named. -/
theorem Proper.initDevice_pending (hp : c.Proper) {common : Option Bytes} {token : Token}
    (h : (c.initDevice common).1 = .ok (id, some token)) :
    c.named? { common } = some id
      ∧ ∃ d, (c.apply (.initDevice common)).devices.get? id = some d
        ∧ d.link? token = some { token, stage := .opening .first } := by
  cases hn : c.named? { common } with
  | none =>
      obtain ⟨e, store, hcall⟩ := initDevice_of_unnamed hn
      rw [hcall] at h
      cases h
  | some named =>
      obtain ⟨configuration, c₁, hm, hid⟩ := named?_eq_some.mp hn
      have heq := initDevice_eq hm hid
      rw [heq] at h
      obtain ⟨rfl, hstarted⟩ := Prod.mk.inj (Except.ok.inj h)
      obtain ⟨rfl, hbegun⟩ := Site.beginConnect_starts hstarted
      have hx := ((hp.found_reachable named).step c.settings.pace .connect).exclusive
      have hx : (c.found named).beginConnect.2.device.Exclusive := hx
      refine ⟨rfl, (c.found named).device.begun, ?_, ?_⟩
      · show (c.initDevice common).2.devices.get? named = _
        rw [heq, ← hbegun]
        exact Registry.get?_insert_self _ _ _
      · rw [hbegun] at hx
        exact hx.link?_eq (List.mem_concat_self)

-- =============================================================== isolation

/-- A step that is about a device, be it a call whose own merge names it, a stop
of it, or a step of one of its tasks, changes no other device in anything, makes
no other device known, and makes calls for this device only, on connections that
the device has. A call whose merge fails or names no device changes at most what
is stored, and a status query not even that. A step of a task does not depend on
what is stored. So a run that is never about a device keeps the device as it is;
and an open that an initialisation has started stays on the way while other calls
name other devices, and reaches the camera for the device that was named by the
initialisation. -/
theorem Reachable.device_isolation (h : c.Reachable) :
    (∀ (step : Step) (id : DeviceId), step.subject? c = some id → c.OnlyAt id (c.apply step))
      ∧ (∀ step : Step, step.subject? c = none → step ≠ .stopDevice →
          ∃ store, c.apply step = { c with store })
      ∧ (∀ blobs, c.apply (.getDeviceStatus blobs) = c)
      ∧ (∀ (store : Store) (id : DeviceId) (act : Site.Step),
          Client.apply { c with store } (.device id act)
            = { c.apply (.device id act) with store })
      ∧ (∀ (steps : List Step) (other : DeviceId), Avoids other c steps →
          (c.run steps).devices.get? other = c.devices.get? other)
      ∧ ∀ (common : Option Bytes) (id : DeviceId) (token : Token) (steps : List Step),
          (c.initDevice common).1 = .ok (id, some token) →
          Avoids id (c.apply (.initDevice common)) steps →
          let c' := (c.apply (.initDevice common)).run steps
          (Step.initDevice common).subject? c = some id
            ∧ (∃ d, c'.devices.get? id = some d
              ∧ d.link? token = some { token, stage := .opening .first })
            ∧ (c'.apply (.device id (.reach token))).camera
              = (Camera.openDevice id c'.camera).2 := by
  have hp := h.proper
  refine ⟨fun step id => hp.apply_onlyAt, fun step => apply_of_unnamed, fun _ => rfl,
    device_store c, fun steps other => hp.run_frame, ?_⟩
  intro common id token steps hinit havoids c'
  obtain ⟨hnamed, d, hd, hk⟩ := hp.initDevice_pending hinit
  have hnext : (c.apply (.initDevice common)).Proper := hp.run [.initDevice common]
  have hd' : c'.devices.get? id = some d := (hnext.run_frame havoids).trans hd
  refine ⟨hnamed, ⟨d, hd', hk⟩, ?_⟩
  have hid : d.id = id := (hnext.run steps).id hd'
  show (c'.onDevice id fun s => s.apply c'.settings.pace (.reach token)).camera = _
  rw [onDevice_known hd']
  have hreach := Site.reach_camera (s := { camera := c'.camera, device := d }) hk rfl
  rw [hid] at hreach
  exact hreach

/-- While the open of a device is on the way, another one is named and
initialised, and read while it connects: the first open is for the first
device. -/
theorem Reachable.device_isolation_while_opening :
    let common := fun serial : String => some (Text.Utf8.encode
      ("\x7b\"customizedValues\":\x7b\"deviceSN\":\"" ++ serial ++ "\"\x7d\x7d"))
    let c : Client SimulatedCamera SimulatedCamera.Handle Bytes :=
      { settings := .default, camera := (({} : SimulatedCamera).attach ⟨"a"⟩).attach ⟨"b"⟩ }
    let begun := c.apply (.initDevice (common "a"))
    let others : List Step :=
      [.initDevice (common "b"), .device ⟨"b"⟩ (.reach 0), .readDeviceData {},
        .device ⟨"b"⟩ (.resume 0 0), .readDeviceData {}, .setConfig {}]
    let c' := begun.run others
    c'.store.current.deviceId = .ok ⟨"b"⟩ ∧ c'.status? ⟨"b"⟩ = some .connected
      ∧ c'.devices.get? ⟨"a"⟩ = begun.devices.get? ⟨"a"⟩
      ∧ (c'.apply (.device ⟨"a"⟩ (.reach 0))).camera = (Camera.openDevice ⟨"a"⟩ c'.camera).2
      ∧ c'.OnlyAt ⟨"b"⟩ (c'.apply (.readDeviceData {})) := by
  intro common c begun others c'
  have hc : c.Reachable := ⟨_, _, [], rfl⟩
  have hbegun : begun.Reachable := ⟨_, _, [.initDevice (common "a")], rfl⟩
  have hinit : (c.initDevice (common "a")).1 = .ok (⟨"a"⟩, some 0) := by decide +kernel
  have havoids : Avoids ⟨"a"⟩ begun others := by
    refine ⟨?_, nofun, ?_, nofun, ?_, nofun, ?_, nofun, ?_, nofun, ?_, nofun, trivial⟩
    all_goals decide +kernel
  have hnamed : (Step.readDeviceData {}).subject? c' = some ⟨"b"⟩ := by decide +kernel
  obtain ⟨-, -, -, -, hframe, -⟩ := Reachable.device_isolation hbegun
  obtain ⟨-, -, -, -, -, hflight⟩ := Reachable.device_isolation hc
  obtain ⟨hat, -, -, -, -, -⟩ := Reachable.device_isolation (hbegun.run others)
  obtain ⟨-, -, hreach⟩ := hflight _ _ _ _ hinit havoids
  exact ⟨by decide +kernel, by decide +kernel, hframe _ _ havoids, hreach, hat _ _ hnamed⟩

end Client

end CameraDriver
