/-
What becomes of the devices that the vendor's library hands out to a client.

A device that an open reports as opened becomes a connection, and
`Client.Tracked` tells where that is: the device's record holds it, it waits in
the result of an open whose task has not gone on, or it was closed. `Booked`
brings this back to the library's own ledger. A device that comes with a
failure code becomes no connection, and nobody closes it.
-/
import CameraDriver.Proofs.Client.Stop
import CameraDriver.Proofs.Hardware.Devices

namespace CameraDriver.Client

namespace Tracked

section

variable {σ H F : Type} [Camera σ H F] {start : σ} {calls : List (Call H)} {c : Client σ H F}

/-- A connection that an open gave was closed, or the device has it. -/
theorem closed_or_has (h : Tracked start calls c) {id : DeviceId} {connection : Connection H}
    (hm : .opened id connection ∈ calls) :
    (Call.closes calls).count (id, connection.number) = 1 ∨
      (Call.closes calls).count (id, connection.number) = 0 ∧
        ∃ d, c.devices.get? id = some d ∧ connection ∈ d.connections := by
  have hown : .opened id connection ∈ Call.ofDevice id calls := Call.mem_ofDevice.mpr ⟨hm, rfl⟩
  cases hd : c.devices.get? id with
  | none =>
    rw [h.unknown id hd] at hown
    cases hown
  | some d =>
    have haccounted := h.known id d hd
    have hid := h.proper.id hd
    have hopened : (id, connection.number) ∈ Call.opens (Call.ofDevice id calls) :=
      Call.mem_tickets.mpr ⟨_, hown, rfl, rfl⟩
    have hone := List.count_eq_one_of_mem haccounted.nodup hopened
    have hbalance := haccounted.balance.count_eq (id, connection.number)
    rw [List.count_append, hone] at hbalance
    have hcloses := Call.count_tickets Event.closed? calls (id, connection.number)
    unfold Call.closes at hbalance ⊢
    rw [hcloses] at hbalance
    by_cases hhas : (id, connection.number) ∈ d.connections.map d.ticket
    · have hpos := List.count_pos_iff.mpr hhas
      obtain ⟨other, ho, hticket⟩ := List.mem_map.mp hhas
      have hgiven := haccounted.given other ho
      have heq := eq_of_filterMap_nodup haccounted.nodup hgiven hown
        (b := (id, connection.number)) (congrArg some hticket) rfl
      simp only [Call.opened, Call.mk.injEq, Event.opened.injEq, Except.ok.injEq,
        Option.some.injEq] at heq
      obtain ⟨-, hnumber, hhandle⟩ := heq
      have hsame : other = connection := by
        cases other
        cases connection
        simp_all
      exact .inr ⟨by omega, d, rfl, hsame ▸ ho⟩
    · have hzero := List.count_eq_zero.mpr hhas
      exact .inl (by omega)

end

variable {start : Vendor} {calls : List (Call Nat)} {c : Client Vendor Nat Native.Frame}
  {device : OpenedDevice}

/-- A device that the library reported as opened was closed, or its device has
it. -/
theorem device_closed_or_has (h : Tracked start calls c) (hstart : start.book = {})
    (hd : device ∈ c.camera.book.handed) (hcode : device.code = 0) :
    ∃ id : DeviceId, id.text = device.serial ∧
      (c.camera.book.closed.count device.number = 1 ∨
        c.camera.book.closed.count device.number = 0 ∧
          ∃ d, c.devices.get? id = some d ∧ ∃ con ∈ d.connections, con.handle = device.number) := by
  have hbooked := h.served.booked hstart
  obtain ⟨id, number, hid, hm⟩ := hbooked.serial device hd hcode
  have hcount := h.sound.count_closed h.opens_nodup hbooked.handles_nodup hm
  rw [hbooked.closed, hcount]
  refine ⟨id, hid, ?_⟩
  rcases h.closed_or_has hm with hone | ⟨hzero, d, hget, hhas⟩
  · exact .inl hone
  · exact .inr ⟨hzero, d, hget, _, hhas, rfl⟩

end Tracked

/-- A device that was stopped has no connection left once nothing waits for
it. -/
theorem connections_of_stopped {σ H F : Type} [Camera σ H F] {c : Client σ H F} (hp : c.Proper)
    {halt : Step} {id : DeviceId} (hknown : (c.devices.get? id).isSome = true)
    (hhalt : halt.Stops id) {later : List Step} (hlater : SparesAll id (c.apply halt) later) :
    ∀ d, ((c.apply halt).run later).devices.get? id = some d → d.waiting = [] →
      d.connections = [] := by
  intro d hd hwaiting
  obtain ⟨d₁, hd₁⟩ := Option.isSome_iff_exists.mp hknown
  have hstopped := Device.Halted.of_stop d₁
  obtain ⟨d', hd', hrests⟩ := rests_run (hp.run [halt]) (get?_apply_stops hp hd₁ hhalt)
    (.refl hstopped.retired) hlater
  have heq : d = d' := Option.some.inj (hd.symm.trans hd')
  have hhandle := (hstopped.rests hrests).handle
  unfold Device.connections Device.held
  rw [hwaiting, heq, hhandle]
  rfl

/-- Over every run of a client on the vendor's library, whatever the library
answers: a device that an open reported as opened was closed once, or the
record of its device holds it, or it waits in the result of an open; nothing
else is closed, and no device that came with a failure code is. So once a
device was stopped, is not asked for again and nothing waits for it, what the
library handed out for it is closed, once, if the open reported success, and
stays open for good if it reported a failure. -/
theorem run_closes_devices (settings : ClientSettings) (script : List VendorAnswer)
    (steps : List Step) :
    let c := ({ settings, camera := { script } } : Client Vendor Nat Native.Frame).run steps
    let book := c.camera.book
    book.handed.map (·.number) = (List.range book.next).reverse
      ∧ (∀ device ∈ book.handed, device.code = 0 → ∃ id : DeviceId, id.text = device.serial ∧
          (book.closed.count device.number = 1 ∨ book.closed.count device.number = 0 ∧
            ∃ d, c.devices.get? id = some d ∧ ∃ con ∈ d.connections, con.handle = device.number))
      ∧ (∀ n ∈ book.closed, ∃ device ∈ book.handed, device.number = n ∧ device.code = 0)
      ∧ ∀ before halt later id, steps = before ++ halt :: later →
          let stopped :=
            ({ settings, camera := { script } } : Client Vendor Nat Native.Frame).run before
          (stopped.devices.get? id).isSome = true → halt.Stops id →
          SparesAll id (stopped.apply halt) later →
          (∀ d, c.devices.get? id = some d → d.waiting = []) →
          ∀ device ∈ book.handed, device.serial = id.text →
            book.closed.count device.number = if device.code = 0 then 1 else 0 := by
  intro c book
  obtain ⟨calls, h⟩ : ∃ calls, Tracked { script } calls c := Tracked.run settings _ steps
  have hbooked : Booked calls book := h.served.booked rfl
  refine ⟨hbooked.numbers, fun device hd hcode => h.device_closed_or_has rfl hd hcode,
    fun n hn => hbooked.accepted_of_closed h.sound hn, ?_⟩
  intro before halt later id hsteps stopped hknown hhalt hlater hwaiting device hd hserial
  have hrun : c = (stopped.apply halt).run later := by
    show Client.run _ steps = _
    rw [hsteps]
    exact List.foldl_append
  have hnone : ∀ d, c.devices.get? id = some d → d.connections = [] := by
    intro d hget
    have hproper := (Proper.fresh settings ({ script } : Vendor)).run before
    exact connections_of_stopped hproper hknown hhalt hlater d (hrun ▸ hget) (hwaiting d hget)
  split
  · -- code 0: the device was closed, as no record holds it
    rename_i hcode
    obtain ⟨id', hid, hone | ⟨-, d, hget, con, hcon, -⟩⟩ := h.device_closed_or_has rfl hd hcode
    · exact hone
    · -- the serial number tells the device
      have heq : id' = id := by
        cases id'
        cases id
        exact congrArg DeviceId.mk (hid.trans hserial)
      rw [hnone d (heq ▸ hget)] at hcon
      cases hcon
  · -- any other code: nobody was told of the device
    rename_i hcode
    exact List.count_eq_zero.mpr (hbooked.not_closed_of_rejected h.sound hd hcode)

/-- An open reports the failure code 2 and hands out a device all the same.
The device is stopped, nothing is under way, and the library's device is not
closed. -/
theorem rejected_device_stays_open :
    let common := Text.Utf8.encode "\x7b\"customizedValues\":\x7b\"deviceSN\":\"a\"\x7d\x7d"
    let c := ({ settings := .default, camera := { script := [{ code := 2 }] } } :
      Client Vendor Nat Native.Frame).run
        [.initDevice (some common), .device ⟨"a"⟩ (.reach 0), .device ⟨"a"⟩ (.resume 0 0),
          .stop ⟨"a"⟩, .device ⟨"a"⟩ (.resume 0 0)]
    c.camera.book.handed = [⟨0, "a", 2⟩] ∧ c.camera.book.closed = []
      ∧ ∃ d, c.devices.get? ⟨"a"⟩ = some d ∧ d.status = .disconnected ∧ d.links.length = 0 := by
  intro common c
  have hhanded : c.camera.book.handed = [⟨0, "a", 2⟩] := by decide +kernel
  have hclosed : c.camera.book.closed = [] := by decide +kernel
  have hd : (c.devices.get? ⟨"a"⟩).map (fun d => (d.status, d.links.length))
      = some (.disconnected, 0) := by decide +kernel
  obtain ⟨d, hget, hd⟩ := Option.map_eq_some_iff.mp hd
  exact ⟨hhanded, hclosed, d, hget, congrArg Prod.fst hd, congrArg Prod.snd hd⟩

end CameraDriver.Client
