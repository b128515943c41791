/-
Stopping is final: a device that was stopped stays as the stop has left it,
whatever happens later, until it is initialised again.

The stop may come at any moment. The tasks it finds are cancelled and go on
being scheduled; what they can still do is in `Device.Halted`. Here it is put
together for a client: the run before the stop is any run, and so is the run
after it, except that it spares the device (`SparesAll`).
-/
import CameraDriver.Hardware.Simulated
import CameraDriver.Proofs.Client.Conservation

namespace CameraDriver

variable {σ H F : Type} [Camera σ H F]

namespace Client

/-- Whether a step stops a device. -/
def Step.Stops (id : DeviceId) (step : Step) : Prop := step = .stop id ∨ step = .stopDevice

theorem apply_stop {c : Client σ H F} {id : DeviceId} {d : Device H F}
    (h : c.devices.get? id = some d) : c.apply (.stop id) = c.onDevice id Site.stop := by
  show (c.stop id).2 = _
  unfold stop Registry.get
  rw [h]

/-- A device that a step stops is stopped. -/
theorem get?_apply_stops {c : Client σ H F} (hp : c.Proper) {step : Step} {id : DeviceId}
    {d : Device H F} (h : c.devices.get? id = some d) (hs : step.Stops id) :
    (c.apply step).devices.get? id = some d.stopped := by
  rcases hs with rfl | rfl
  · rw [apply_stop h, get?_onDevice, if_pos rfl, h]
    exact congrArg some (Site.stop_device _)
  · show c.stopDevice.devices.get? id = _
    have hm : id ∈ c.devices.ids := List.mem_map_of_mem (hp.ascending.mem_entries.mpr h)
    rw [stopDevice_eq, get?_stopAll hp.ascending.keys_nodup, if_pos hm, h]
    rfl

/-- Stopping a halted device publishes its status again; nothing else
changes. -/
theorem stop_of_halted {c : Client σ H F} {id : DeviceId} {d : Device H F}
    (h : c.devices.get? id = some d) (hhalted : d.Halted) :
    c.onDevice id Site.stop
      = { c with devices := c.devices.insert id (d.announce .disconnected) } := by
  have hcamera : (Site.stop { camera := c.camera, device := d }).camera = c.camera := by
    have hserved := Site.stop_served { camera := c.camera, device := d }
    rw [hhalted.closing_eq] at hserved
    exact hserved.eq_of_nil
  rw [onDevice_known h, hcamera, Site.stop_device, hhalted.stopped_eq]

/-- A task of a halted device closes what its open has given. -/
theorem resume_of_halted {c : Client σ H F} (hp : c.Proper) {id : DeviceId} {d : Device H F}
    (h : c.devices.get? id = some d) (hhalted : d.Halted) {k : LinkTask H} (hk : k ∈ d.links)
    {con : Connection H} (hst : k.stage.connection? = some con) (now : Nat) :
    c.apply (.device id (.resume now k.token))
      = { c with
          camera := Camera.closeDevice con.handle c.camera
          devices := c.devices.insert id ((d.endLink k.token).note (.closed con.number)) } := by
  have hresume := Site.resume_of_halted (s := { camera := c.camera, device := d }) hhalted
    (hp.reachable h).exclusive hk hst c.settings.pace.interval now
  show c.onDevice id (·.apply c.settings.pace (.resume now k.token)) = _
  rw [onDevice_known h]
  show { c with
    camera := (Site.resume c.settings.pace.interval now k.token _).camera
    devices := c.devices.insert id (Site.resume c.settings.pace.interval now k.token _).device } = _
  rw [hresume]
  rfl

/-- What an open has given to a halted device is closed, or waits in the result
of a task. -/
theorem closed_or_waiting {c : Client σ H F} (hc : c.Reachable) {id : DeviceId}
    {d : Device H F} (h : c.devices.get? id = some d) (hhalted : d.Halted) {n : Nat}
    (hn : Event.opened (.ok n) ∈ d.log) :
    Event.closed n ∈ d.log
      ∨ ∃ k ∈ d.links, ∃ con, k.stage.connection? = some con ∧ con.number = n := by
  obtain ⟨settings, camera, steps, rfl⟩ := hc
  obtain ⟨calls, htracked⟩ := Tracked.run (H := H) (F := F) settings camera steps
  rcases (htracked.known id d h).closed_or_has hn with hclosed | ⟨con, hcon, hnum⟩
  · exact .inl hclosed
  · rcases List.mem_append.mp hcon with hheld | hwaiting
    · -- the record holds nothing
      unfold Device.held at hheld
      rw [hhalted.handle] at hheld
      cases hheld
    · obtain ⟨k, hk, hst⟩ := List.mem_filterMap.mp hwaiting
      exact .inr ⟨k, hk, con, hst, hnum⟩

/-- Stopping again, at once, asks nothing of the camera, and publishes the
status of what was stopped again. -/
theorem stop_again {c : Client σ H F} (hp : c.Proper) {halt : Step} {id : DeviceId}
    {d₁ : Device H F} (hknown : c.devices.get? id = some d₁) (hhalt : halt.Stops id) :
    ((c.apply halt).apply halt).camera = (c.apply halt).camera
      ∧ ∀ other d, (c.apply halt).devices.get? other = some d →
        ((c.apply halt).apply halt).devices.get? other = some d
          ∨ d.status = .disconnected
            ∧ ((c.apply halt).apply halt).devices.get? other
              = some (d.announce .disconnected) := by
  have hd₁ := get?_apply_stops hp hknown hhalt
  rcases hhalt with rfl | rfl
  · rw [apply_stop hd₁, stop_of_halted hd₁ (.of_stop d₁)]
    refine ⟨rfl, ?_⟩
    intro other d hd
    by_cases heq : other = id
    · subst heq
      rw [hd₁] at hd
      rw [← Option.some.inj hd]
      exact .inr ⟨Device.stopped_status d₁, Registry.get?_insert_self _ _ _⟩
    · exact .inl ((Registry.get?_insert_ne _ _ heq).trans hd)
  · have hall := allHalted_stopDevice hp
    have hp' : c.stopDevice.Proper := hp.stopAll _
    refine ⟨hall.stopDevice_camera hp', ?_⟩
    intro other d hd
    have hhalted := hall other d hd
    have hm : other ∈ c.stopDevice.devices.ids :=
      List.mem_map_of_mem (hp'.ascending.mem_entries.mpr hd)
    refine .inr ⟨hhalted.status, ?_⟩
    show (c.stopDevice.stopAll c.stopDevice.devices.ids).devices.get? other = _
    have hd' : c.stopDevice.devices.get? other = some d := hd
    rw [get?_stopAll hp'.ascending.keys_nodup, if_pos hm, hd']
    exact congrArg some hhalted.stopped_eq

/-- Stopping is final. Take a client in any state, and a step that stops a
device that is known, alone or with all others; and take any steps after it
that spare the device. Then the device is disconnected, it holds nothing and
no task is in charge. No connection was installed since the stop, and an open
that is on the way was so then. What opens have given is closed or waits in the
result of a cancelled task, which closes it when it goes on and does nothing
else. Another stop asks nothing of the camera and publishes the status again,
be it at once for all devices or at any later time for the one. And whatever
the order in which all devices are stopped, it leaves the same devices and
closes the same connections. -/
theorem Reachable.stop_is_final {c : Client σ H F} (hc : c.Reachable) {halt : Step}
    {id : DeviceId} (hknown : (c.devices.get? id).isSome = true) (hhalt : halt.Stops id)
    (later : List Step) (hlater : SparesAll id (c.apply halt) later) :
    let s := c.apply halt
    let e := s.run later
    (∃ d₀ d, s.devices.get? id = some d₀ ∧ e.devices.get? id = some d
      ∧ d.status = .disconnected ∧ d.record.handle = none ∧ d.record.linkTask = none
      ∧ d.record.linkEpoch = d₀.record.linkEpoch
      ∧ (∀ k ∈ d.links, k.cancelled = true ∧ (k.stage.isOpening = true → k ∈ d₀.links))
      ∧ (∀ n, Event.opened (.ok n) ∈ d.log → Event.closed n ∈ d.log
          ∨ ∃ k ∈ d.links, ∃ con, k.stage.connection? = some con ∧ con.number = n)
      ∧ (∀ k ∈ d.links, ∀ con, k.stage.connection? = some con → ∀ now,
          e.apply (.device id (.resume now k.token)) =
            { e with
              camera := Camera.closeDevice con.handle e.camera
              devices := e.devices.insert id
                ((d.endLink k.token).note (.closed con.number)) })
      ∧ e.apply (.stop id) =
          { e with devices := e.devices.insert id (d.announce .disconnected) })
    ∧ (s.apply halt).camera = s.camera
    ∧ (∀ other d, s.devices.get? other = some d →
        (s.apply halt).devices.get? other = some d
          ∨ d.status = .disconnected
            ∧ (s.apply halt).devices.get? other = some (d.announce .disconnected))
    ∧ ∀ order : List DeviceId, order.Perm c.devices.ids →
        (c.stopAll order).devices = c.stopDevice.devices
          ∧ (c.stopAll order).store = c.stopDevice.store
          ∧ (c.stopAll order).settings = c.stopDevice.settings
          ∧ ∃ calls calls', calls.Perm calls'
            ∧ Served c.camera calls (c.stopAll order).camera
            ∧ Served c.camera calls' c.stopDevice.camera := by
  intro s e
  obtain ⟨d₁, hd₁⟩ := Option.isSome_iff_exists.mp hknown
  have hp := hc.proper
  have hs : s.Reachable := hc.run [halt]
  have he : e.Reachable := hs.run later
  have hd₀ : s.devices.get? id = some d₁.stopped := get?_apply_stops hp hd₁ hhalt
  have hstopped := Device.Halted.of_stop d₁
  obtain ⟨d, hd, hrests⟩ := rests_run hs.proper hd₀ (.refl hstopped.retired) hlater
  have hhalted := hstopped.rests hrests
  have hx := (he.proper.reachable hd).exclusive
  obtain ⟨hcamera, hdevices⟩ := stop_again hp hd₁ hhalt
  refine ⟨⟨d₁.stopped, d, hd₀, hd, hhalted.status, hhalted.handle, hhalted.linkTask,
    hrests.idles.linkEpoch, ?_, ?_, ?_, ?_⟩, hcamera, hdevices, ?_⟩
  · -- every task is cancelled, and opens nothing but what it was opening
    intro k hk
    exact ⟨hhalted.cancelled hx hk, hrests.idles.opening k hk⟩
  · -- each connection that was given is closed, or waits for its task
    intro n hn
    exact closed_or_waiting he hd hhalted hn
  · -- which closes it when it goes on
    intro k hk con hst now
    exact resume_of_halted he.proper hd hhalted hk hst now
  · -- another stop does no more than announce itself
    rw [apply_stop hd]
    exact stop_of_halted hd hhalted
  · -- the order of the devices does not matter
    intro order horder
    exact stopAll_order hp horder

/-- A device that is stopped while it is opened. -/
theorem Reachable.stop_is_final_while_opening :
    let common := Text.Utf8.encode "\x7b\"customizedValues\":\x7b\"deviceSN\":\"a\"\x7d\x7d"
    let c : Client SimulatedCamera SimulatedCamera.Handle Bytes :=
      Client.run { settings := .default, camera := ({} : SimulatedCamera).attach ⟨"a"⟩ }
        [.initDevice (some common)]
    let e := (c.apply (.stop ⟨"a"⟩)).run [.device ⟨"a"⟩ (.reach 0), .device ⟨"a"⟩ (.resume 0 0)]
    e.camera.calls.opens = 1 ∧ e.camera.openHandles ⟨"a"⟩ = 0
      ∧ ∃ d, e.devices.get? ⟨"a"⟩ = some d ∧ d.status = .disconnected
        ∧ d.record.handle = none := by
  intro common c e
  have hopens : e.camera.calls.opens = 1 := by decide +kernel
  have hhandles : e.camera.openHandles ⟨"a"⟩ = 0 := by decide +kernel
  have hknown : (c.devices.get? ⟨"a"⟩).isSome = true := by decide +kernel
  have hc : c.Reachable := ⟨_, _, _, rfl⟩
  obtain ⟨⟨_, d, -, hd, hs, hh, -⟩, -⟩ := Reachable.stop_is_final hc hknown (.inl rfl)
    [.device ⟨"a"⟩ (.reach 0), .device ⟨"a"⟩ (.resume 0 0)]
    ⟨fun _ => rfl, fun _ => rfl, trivial⟩
  exact ⟨hopens, hhandles, d, hd, hs, hh⟩

end Client

end CameraDriver
