/-
No connection is lost and none is closed twice, over all devices of a client.

What is accounted for device by device (`Device.Accounted`) is put together
here: the camera is shared, and its calls are those of all devices in the
order in which they were made. A device's part of them is what its own log
notes.

The three places of a connection are lists of tickets: `held` by the record of
the device it was opened for, `waiting` in the result of an open whose task has
not gone on, and the closes among the calls.
-/
import CameraDriver.Proofs.Client.Halt

namespace CameraDriver

variable {σ H F : Type}

namespace Client

-- ================================================================= places

/-- The connections that the records hold, each under the device of the
record. -/
def held (c : Client σ H F) : List Ticket :=
  c.devices.entries.flatMap fun e => e.2.held.map fun con => (e.1, con.number)

/-- The connections in the results of opens whose tasks have not gone on. -/
def waiting (c : Client σ H F) : List Ticket :=
  c.devices.entries.flatMap fun e => e.2.waiting.map fun con => (e.1, con.number)

/-- The number of records that hold a connection. -/
def holders (c : Client σ H F) : Nat :=
  c.devices.entries.countP fun e => e.2.record.handle.isSome

theorem length_held (c : Client σ H F) : c.held.length = c.holders := by
  unfold held holders
  induction c.devices.entries with
  | nil => rfl
  | cons e rest ih =>
      rw [List.flatMap_cons, List.length_append, ih, List.countP_cons, List.length_map,
        Nat.add_comm]
      congr 1
      unfold Device.held
      cases e.2.record.handle <;> rfl

/-- The camera has come where it is by the calls that the devices' logs
note. -/
structure Made [Camera σ H F] (start : σ) (calls : List (Call H)) (c : Client σ H F) : Prop where
  served : Served start calls c.camera
  noted : ∀ id, (Call.ofDevice id calls).map (·.event)
    = ((c.devices.get? id).map (·.log)).getD []

/-- The calls are accounted for, device by device. -/
structure Accounted (calls : List (Call H)) (c : Client σ H F) : Prop where
  known : ∀ id d, c.devices.get? id = some d → d.Accounted (Call.ofDevice id calls)
  unknown : ∀ id, c.devices.get? id = none → Call.ofDevice id calls = []

namespace Accounted

variable {calls : List (Call H)} {c : Client σ H F}

/-- The calls for a device are those that its log notes. -/
theorem noted (h : Accounted calls c) (id : DeviceId) :
    (Call.ofDevice id calls).map (·.event)
      = ((c.devices.get? id).map (·.log)).getD [] := by
  cases hd : c.devices.get? id with
  | none =>
      rw [h.unknown id hd]
      rfl
  | some d => exact (h.known id d hd).log.symm

/-- A new device has made no calls. -/
theorem register (h : Accounted calls c) (id : DeviceId) : Accounted calls (c.register id) := by
  cases hd : c.devices.get? id with
  | some d =>
      rw [register_known hd]
      exact h
  | none =>
      rw [register_unknown hd]
      refine ⟨?_, ?_⟩
      · refine Registry.forall_get?_insert
          (P := fun other (d : Device H F) => d.Accounted (Call.ofDevice other calls)) ?_ h.known
        rw [h.unknown id hd]
        exact .fresh _ _ _
      · intro other hget
        exact h.unknown other (Registry.get?_of_insert_eq_none hget).2

/-- A step of a device makes calls of its own. -/
theorem act [Camera σ H F] (h : Accounted calls c) (hp : c.Proper) (id : DeviceId)
    (step : Site.Step) :
    ∃ new, Served c.camera new (c.onDevice id (·.apply c.settings.pace step)).camera
      ∧ (∀ x ∈ new, x.device = id)
      ∧ Accounted (new ++ calls) (c.onDevice id (·.apply c.settings.pace step)) := by
  cases hd : c.devices.get? id with
  | none =>
      rw [onDevice_unknown hd]
      exact ⟨[], .nothing, fun x hx => (by cases hx), h⟩
  | some d =>
      obtain ⟨new, hch, hserved⟩ :=
        Site.apply_does c.settings.pace { camera := c.camera, device := d } step
      have hcons := (hp.reachable hd).exclusive.conserves hch
      have hown : ∀ x ∈ new, x.device = id := fun x hx => (hcons.own x hx).trans (hp.id hd)
      rw [onDevice_known hd]
      refine ⟨new, hserved, hown, ?_, ?_⟩
      · intro other d' hget
        by_cases heq : other = id
        · rw [heq, Registry.get?_insert_self] at hget
          rw [← Option.some.inj hget, heq, Call.ofDevice_append_own hown]
          exact (h.known id d hd).step hcons
        · rw [Registry.get?_insert_ne _ _ heq] at hget
          rw [Call.ofDevice_append_other heq hown]
          exact h.known other d' hget
      · intro other hget
        obtain ⟨heq, hget⟩ := Registry.get?_of_insert_eq_none hget
        rw [Call.ofDevice_append_other heq hown]
        exact h.unknown other hget

end Accounted

variable [Camera σ H F]

/-- All connections of all devices are accounted for. -/
structure Tracked (start : σ) (calls : List (Call H)) (c : Client σ H F) : Prop where
  proper : c.Proper
  served : Served start calls c.camera
  known : ∀ id d, c.devices.get? id = some d → d.Accounted (Call.ofDevice id calls)
  unknown : ∀ id, c.devices.get? id = none → Call.ofDevice id calls = []

namespace Tracked

variable {start : σ} {calls : List (Call H)} {c : Client σ H F}

theorem accounted (h : Tracked start calls c) : Accounted calls c :=
  ⟨h.known, h.unknown⟩

theorem made (h : Tracked start calls c) : Made start calls c where
  served := h.served
  noted := h.accounted.noted

/-- A new device has made no calls. -/
theorem register (h : Tracked start calls c) (id : DeviceId) :
    Tracked start calls (c.register id) := by
  obtain ⟨hknown, hunknown⟩ := h.accounted.register id
  exact ⟨h.proper.register id, h.served, hknown, hunknown⟩

/-- A step of a device makes calls of its own. -/
theorem act (h : Tracked start calls c) (id : DeviceId) (step : Site.Step) :
    ∃ new, Tracked start (new ++ calls) (c.onDevice id (·.apply c.settings.pace step)) := by
  obtain ⟨new, hserved, -, hknown, hunknown⟩ := h.accounted.act h.proper id step
  exact ⟨new, h.proper.act id step, h.served.append hserved, hknown, hunknown⟩

/-- Every run of a new client is tracked. -/
theorem run (settings : ClientSettings) (camera : σ) (steps : List Step) :
    ∃ calls, Tracked camera calls (({ settings, camera } : Client σ H F).run steps) := by
  refine run_keeps (P := fun c => ∃ calls, Tracked camera calls c) steps ?_ ?_ ?_ ?_
  · intro c store ⟨calls, h⟩
    exact ⟨calls, h.proper.store store, h.served, h.known, h.unknown⟩
  · intro c id ⟨calls, h⟩
    exact ⟨calls, h.register id⟩
  · intro c id step ⟨calls, h⟩
    obtain ⟨new, h⟩ := h.act id step
    exact ⟨new ++ calls, h⟩
  · refine ⟨[], .fresh settings camera, .nothing, ?_, fun _ _ => rfl⟩
    intro id d hd
    cases hd

/-- The calls are sound, since those of each device are. -/
theorem sound (h : Tracked start calls c) : Call.Sound calls := by
  refine Call.sound_of_devices ?_
  intro id
  cases hd : c.devices.get? id with
  | none =>
      rw [h.unknown id hd]
      trivial
  | some d => exact (h.known id d hd).sound

/-- Every connection that was opened is in one place. -/
theorem balance (h : Tracked start calls c) :
    (c.held ++ c.waiting ++ Call.closes calls).Perm (Call.opens calls) := by
  rw [List.perm_iff_count]
  intro t
  have hkeys : ∀ (places : Device H F → List (Connection H)) (e : DeviceId × Device H F),
      ∀ t ∈ (places e.2).map fun con => ((e.1, con.number) : Ticket), t.1 = e.1 := by
    intro places e t ht
    obtain ⟨con, -, rfl⟩ := List.mem_map.mp ht
    rfl
  have hheld := h.proper.ascending.count_flatMap _ (hkeys Device.held) t
  have hwaiting := h.proper.ascending.count_flatMap _ (hkeys Device.waiting) t
  have hopens := Call.count_tickets Event.opened? calls t
  have hcloses := Call.count_tickets Event.closed? calls t
  unfold held waiting Call.opens Call.closes
  rw [List.count_append, List.count_append, hheld, hwaiting, ← hopens, ← hcloses]
  cases hd : c.devices.get? t.1 with
  | none =>
      rw [h.unknown t.1 hd]
      rfl
  | some d =>
      have hbalance := (List.perm_iff_count.mp (h.known t.1 d hd).balance) t
      have hticket : d.ticket = fun con => (t.1, con.number) := by
        unfold Device.ticket
        rw [h.proper.id hd]
      unfold Device.connections Call.opens Call.closes at hbalance
      rw [hticket, List.map_append, List.count_append, List.count_append] at hbalance
      exact hbalance

/-- No connection is opened twice. -/
theorem opens_nodup (h : Tracked start calls c) : (Call.opens calls).Nodup := by
  rw [List.nodup_iff_count_le_one]
  intro t
  unfold Call.opens
  rw [← Call.count_tickets]
  cases hd : c.devices.get? t.1 with
  | none =>
      rw [h.unknown t.1 hd]
      exact Nat.zero_le _
  | some d => exact List.nodup_iff_count_le_one.mp (h.known t.1 d hd).nodup t

/-- A connection that was opened is in exactly one place. -/
theorem one_place (h : Tracked start calls c) {t : Ticket} (ht : t ∈ Call.opens calls) :
    c.held.count t + c.waiting.count t + (Call.closes calls).count t = 1 := by
  have hcount := List.perm_iff_count.mp h.balance t
  rw [List.count_append, List.count_append] at hcount
  rw [hcount]
  exact List.count_eq_one_of_mem h.opens_nodup ht

/-- Opens less closes are the connections that are held or wait. -/
theorem length_opens (h : Tracked start calls c) :
    (Call.opens calls).length = c.holders + c.waiting.length + (Call.closes calls).length := by
  have hlen := h.balance.length_eq
  rw [List.length_append, List.length_append, length_held] at hlen
  exact hlen.symm

end Tracked

/-- No record of a halted client holds a connection. -/
theorem AllHalted.holders_eq {c : Client σ H F} (h : c.AllHalted) (hp : c.Proper) :
    c.holders = 0 := by
  unfold holders
  rw [List.countP_eq_zero]
  rintro ⟨id, d⟩ hm
  have hd := hp.ascending.mem_entries.mp hm
  rw [(h id d hd).handle]
  exact Bool.false_ne_true

-- ========================================================== conservation

/-- Over every run of a client on every camera, the calls that are made on the
camera are such that each connection which an open gave is in one place at the
end: held by the record of the device that it was opened for, waiting in the
result of an open whose task has not gone on, or closed. No other connection is
anywhere. Every call passes the handle that the open of its connection gave;
none comes after the close, and no connection is closed twice. So if nothing
waits, the opens are as many as the closes and the records that hold a
connection together, and as many as the closes if all devices were stopped and
no connection was asked for since. -/
theorem run_conserves (settings : ClientSettings) (camera : σ) (steps : List Step) :
    let c := ({ settings, camera } : Client σ H F).run steps
    ∃ calls, Made camera calls c
      ∧ Call.Sound calls
      ∧ (Call.opens calls).Nodup
      ∧ (∀ t ∈ Call.opens calls,
          c.held.count t + c.waiting.count t + (Call.closes calls).count t = 1)
      ∧ (∀ t, t ∈ c.held ∨ t ∈ c.waiting ∨ t ∈ Call.closes calls → t ∈ Call.opens calls)
      ∧ (c.waiting = [] →
          (Call.opens calls).length = (Call.closes calls).length + c.holders)
      ∧ ∀ before later, steps = before ++ .stopDevice :: later →
          (∀ step ∈ later, step.startsLink = false) → c.waiting = [] →
          c.holders = 0 ∧ (Call.opens calls).length = (Call.closes calls).length := by
  intro c
  obtain ⟨calls, h⟩ : ∃ calls, Tracked camera calls c := Tracked.run settings camera steps
  refine ⟨calls, h.made, h.sound, h.opens_nodup, fun t ht => h.one_place ht, ?_, ?_, ?_⟩
  · -- what is held, waits or was closed was opened
    intro t ht
    rw [← h.balance.mem_iff, List.mem_append, List.mem_append]
    rcases ht with ht | ht | ht
    · -- nothing waits: the opens are the closes and the holders
      exact .inl (.inl ht)
    · -- the stop halts every device, and no later step starts one
      exact .inl (.inr ht)
    · exact .inr ht
  · intro hw
    have hlen := h.length_opens
    rw [hw, List.length_nil] at hlen
    omega
  · intro before later hsteps hlater hw
    have hbefore := (Proper.fresh (H := H) (F := F) settings camera).run before
    have hhalted : c.AllHalted := by
      have hrun : c = (Client.run { settings, camera } before).stopDevice.run later := by
        show Client.run _ steps = _
        rw [hsteps]
        exact List.foldl_append
      rw [hrun]
      exact (allHalted_stopDevice hbefore).run (hbefore.stopAll _) hlater
    have hzero := hhalted.holders_eq h.proper
    have hlen := h.length_opens
    rw [hw, hzero, List.length_nil] at hlen
    refine ⟨hzero, ?_⟩
    omega

end Client

end CameraDriver
