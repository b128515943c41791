/-
Sessions keep to the queue.

Whatever a session does to its client it does step by step, with the tasks of its
devices in between (Proofs/Session/Runs). Here the states that it gets into
(`Session.Reachable`) are shown to be among those of the devices whose steps keep to the
queue (`Reachable.inTurn`). What is needed for it holds between any two operations
(`Session.Idle`): every loop has begun. So a stop, which only a caller asks for, never
cancels a loop that stands in the queue, and every device is prompt.

Between two operations every link task waits, too (`Reachable.waits`): neither the steps
that a session gives a task nor the turns that it takes for a time to pass have run out.
-/
import CameraDriver.Proofs.Device.Prompt
import CameraDriver.Proofs.Session.Passing

namespace CameraDriver

variable {σ H F : Type}

-- ================================================================== steps

/-- Only a task puts a loop to sleep. -/
theorem Device.Change.sleeping {d d' : Device H F} {calls : List (Call H)} {pace : Site.Pace}
    {step : Site.Step} (hch : Change pace step d calls d') (hstep : step.isTask = false)
    {k : LinkTask H} (hk : k ∈ d'.links) (hst : k.stage.isSleeping = true) :
    ∃ k₀ ∈ d.links, k₀.token = k.token ∧ k₀.stage.isSleeping = true := by
  have hadded : ∀ {links : List (LinkTask H)} {new : LinkTask H}, links = d.links →
      new.stage.isSleeping = false → k ∈ links ++ [new] →
      ∃ k₀ ∈ d.links, k₀.token = k.token ∧ k₀.stage.isSleeping = true := by
    intro links new hlinks hnew hk
    rcases List.mem_append.mp hk with hk | hk
    · exact ⟨k, hlinks ▸ hk, rfl, hst⟩
    · rw [List.mem_singleton.mp hk, hnew] at hst
      cases hst
  cases hch with
  | still => exact ⟨k, hk, rfl, hst⟩
  | beside _ hb => exact ⟨k, hb.links ▸ hk, rfl, hst⟩
  | failed _ _ hb _ => exact hadded hb.links rfl hk
  | begun _ _ => exact hadded rfl rfl hk
  | lost _ => exact hadded rfl rfl hk
  | stopped =>
      rw [stopped_links] at hk
      obtain ⟨k₀, hk₀, ht, hstage, -⟩ := mem_withdrawn hk
      exact ⟨k₀, hk₀, ht.symm, hstage ▸ hst⟩
  -- the other changes are those of tasks
  | _ => cases hstep

/-- The loops of a device that sleep are among those of a list. -/
def Device.SleepsIn (d : Device H F) (id : DeviceId) (asleep : List LinkKey) : Prop :=
  ∀ k ∈ d.links, k.stage.isSleeping = true → (id, k.token) ∈ asleep

namespace Client

variable {c c' : Client σ H F} {step : Step} {a : DeviceId × Site.Step}

/-- Whether a step stops devices. -/
def Step.stops : Step → Bool
  | .stop _ => true
  | .stopDevice => true
  | .device _ .stop => true
  | _ => false

/-- A task stops no device. -/
theorem Step.stops_of_isTask (h : step.isTask = true) : step.stops = false := by
  cases step with
  | device id own =>
      cases own with
      | stop => cases h
      | _ => rfl
  | _ => cases h

/-- No loop of a known device stands in a queue. -/
def Unqueued (c : Client σ H F) : Prop :=
  ∀ id d, c.devices.get? id = some d → d.spawned = []

/-- The loops of known devices that sleep are among those of a list. -/
def SleepIn (c : Client σ H F) (asleep : List LinkKey) : Prop :=
  ∀ id d, c.devices.get? id = some d → d.SleepsIn id asleep

variable [Camera σ H F]

omit [Camera σ H F] in
/-- Where a step stops devices that is all it does, and where it stops none it does not
stop any. -/
theorem Step.Acts.stops (h : step.Acts c a) : a.2 = .stop ↔ step.stops = true := by
  cases step with
  | initDevice common =>
      obtain ⟨heq, -⟩ := h
      exact iff_of_false (heq ▸ nofun) nofun
  | setConfig blobs =>
      obtain ⟨feature, heq⟩ := h
      exact iff_of_false (heq ▸ nofun) nofun
  | readDeviceData blobs =>
      obtain ⟨feature, heq | heq⟩ := h <;> exact iff_of_false (heq ▸ nofun) nofun
  | writeDeviceData value blobs =>
      obtain ⟨feature, heq | heq⟩ := h <;> exact iff_of_false (heq ▸ nofun) nofun
  | getDeviceStatus blobs => cases h
  | stop id =>
      cases h
      exact iff_of_true rfl rfl
  | stopDevice => exact iff_of_true h rfl
  | device id own =>
      cases h
      cases own with
      | stop => exact iff_of_true rfl rfl
      | _ => exact iff_of_false nofun nofun

omit [Camera σ H F] in
/-- A caller takes no step of a task. -/
theorem Step.Acts.isTask (h : step.Acts c a) (hstep : step.isTask = false) :
    a.2.isTask = false := by
  cases step with
  | initDevice common =>
      obtain ⟨heq, -⟩ := h
      exact heq ▸ rfl
  | setConfig blobs =>
      obtain ⟨feature, heq⟩ := h
      exact heq ▸ rfl
  | readDeviceData blobs =>
      obtain ⟨feature, heq | heq⟩ := h <;> exact heq ▸ rfl
  | writeDeviceData value blobs =>
      obtain ⟨feature, heq | heq⟩ := h <;> exact heq ▸ rfl
  | getDeviceStatus blobs => cases h
  | stop id =>
      cases h
      rfl
  | stopDevice => exact (show a.2 = .stop from h) ▸ rfl
  | device id own =>
      cases h
      exact hstep

-- =============================================================== in queue

/-- Every known device has kept to a queue, and is prompt. -/
def Queued (c : Client σ H F) : Prop :=
  ∀ id d, c.devices.get? id = some d → Site.Queued { camera := c.camera, device := d }

/-- A device that becomes known has kept to the queue: it has done nothing. -/
theorem Queued.register (h : c.Queued) (id : DeviceId) : (c.register id).Queued :=
  forall_get?_register (P := fun _ d => Site.Queued { camera := _, device := d })
    ⟨Queue.empty, .fresh _ id _ _, .fresh id _ _⟩ fun other d hget => (h other d hget).camera _

omit [Camera σ H F] in
theorem Unqueued.register (h : c.Unqueued) (id : DeviceId) : (c.register id).Unqueued :=
  forall_get?_register (P := fun _ d => d.spawned = []) rfl h

/-- A step of a device keeps all of them to the queue, unless it is a stop and finds a loop
in the queue. -/
theorem Queued.act (h : c.Queued) (id : DeviceId) {own : Site.Step}
    (hstop : own = .stop → c.Unqueued) :
    (c.onDevice id (·.apply c.settings.pace own)).Queued := by
  refine forall_get?_onDevice (P := fun _ d => Site.Queued { camera := _, device := d }) ?_ ?_
  · intro d hd
    exact ((h id d hd).step _ fun heq => hstop heq id d hd).camera _
  · intro other d hget
    exact (h other d hget).camera _

/-- A stop puts no loop in a queue. -/
theorem Unqueued.stop (h : c.Unqueued) (id : DeviceId) :
    (c.onDevice id (·.apply c.settings.pace .stop)).Unqueued :=
  forall_get?_onDevice (P := fun _ d => d.spawned = [])
    (fun d hd => Site.stop_spawned (h id d hd) _) h

/-- A step keeps all devices to the queue, unless it stops devices and finds a loop in the
queue. -/
theorem Queued.apply (h : c.Queued) (hstop : step.stops = true → c.Unqueued) :
    (c.apply step).Queued := by
  obtain ⟨acts, hmoves, hacts⟩ := apply_acts c step
  by_cases hs : step.stops = true
  · -- stops are all that the step does
    refine (hmoves.keeps (P := fun c => c.Queued ∧ c.Unqueued) ?_ ?_ ?_ ⟨h, hstop hs⟩).1
    · exact fun _ _ h => h
    · exact fun _ id ⟨hq, hu⟩ => ⟨hq.register id, hu.register id⟩
    · rintro c id own hm ⟨hq, hu⟩
      obtain rfl := (hacts _ hm).stops.mpr hs
      exact ⟨hq.act id fun _ => hu, hu.stop id⟩
  · -- no stop is among what it does
    refine hmoves.keeps ?_ ?_ ?_ h
    · exact fun _ _ h => h
    · exact fun _ id h => h.register id
    · intro c id own hm h
      exact h.act id fun heq => absurd ((hacts _ hm).stops.mp heq) hs

/-- Steps that stop no device keep all of them to the queue. -/
theorem Queued.run (h : c.Queued) {steps : List Step} (hsteps : ∀ step ∈ steps, step.stops = false) :
    (c.run steps).Queued := by
  induction steps generalizing c with
  | nil => exact h
  | cons step rest ih =>
      refine ih (h.apply ?_) fun other hm => hsteps other (List.mem_cons_of_mem _ hm)
      rw [hsteps step List.mem_cons_self]
      exact nofun

/-- A step that is not one of a task puts no loop to sleep. -/
theorem SleepIn.apply {asleep : List LinkKey} (h : c.SleepIn asleep)
    (hstep : step.isTask = false) : (c.apply step).SleepIn asleep := by
  obtain ⟨acts, hmoves, hacts⟩ := apply_acts c step
  refine hmoves.keeps (P := fun c => c.SleepIn asleep) ?_ ?_ ?_ h
  · exact fun _ _ h => h
  · intro c id h
    exact forall_get?_register (P := fun id d => d.SleepsIn id asleep) (fun _ hk => by cases hk) h
  · intro c id own hm h
    refine forall_get?_onDevice (P := fun id d => d.SleepsIn id asleep) ?_ h
    intro d hd k hk hst
    obtain ⟨calls, hch⟩ := Site.apply_change c.settings.pace { camera := c.camera, device := d } own
    obtain ⟨k₀, hk₀, ht, hst₀⟩ := hch.sleeping ((hacts _ hm).isTask hstep) hk hst
    exact ht ▸ h id d hd k₀ hk₀ hst₀

end Client

namespace Session

variable [Camera σ H F] {s s' : Session σ H F}

-- ================================================================= tended

/-- A session that has kept to the queue, with its sleepers noted and at most one open
held. -/
structure Tended (s : Session σ H F) : Prop where
  proper : s.client.Proper
  queued : s.client.Queued
  orderly : s.Orderly
  noted : s.Noted

/-- A session between two operations: every loop has begun and every link task waits, if
there is any time to wait. -/
structure Idle (s : Session σ H F) : Prop extends Tended s where
  unqueued : s.client.Unqueued
  waits : 0 < s.interval → 0 < s.timeout → ∀ key, s.Waits key

/-- The settings of a session are those it was begun with. -/
theorem Works.settings (h : Works s s') : s'.client.settings = s.client.settings := by
  obtain ⟨steps, -, hclient⟩ := h
  rw [hclient]
  exact Client.run_settings s.client steps

/-- While tasks work a session stays tended. -/
theorem Tended.next (h : Tended s) (hkeeps : Keeps s s') (hworks : Works s s') : Tended s' where
  proper := hworks.proper h.proper
  queued := by
    obtain ⟨steps, htask, hclient⟩ := hworks
    rw [hclient]
    exact h.queued.run fun step hm => Client.Step.stops_of_isTask (htask step hm)
  orderly := hkeeps.orderly h.orderly
  noted := hkeeps.noted h.noted

theorem Tended.later (h : Tended s) (clock : Nat) : Tended { s with clock } :=
  ⟨h.proper, h.queued, h.orderly, h.noted⟩

/-- Every sleeper is noted exactly if the loops that sleep are in the session's list. -/
theorem noted_iff (hp : s.client.Proper) : s.Noted ↔ s.client.SleepIn s.asleep := by
  constructor
  · intro hn id d hd k hk hst
    refine hn (id, k.token) k ?_ hst
    rw [link?_eq (id, k.token) hd]
    exact (hp.reachable hd).exclusive.link?_eq hk
  · rintro hn ⟨id, token⟩ k hk hst
    obtain ⟨d, hd, hdk⟩ := exists_of_link? hk
    obtain ⟨hm, rfl⟩ := Device.mem_of_link? hdk
    exact hn id d hd k hm hst

/-- A session is tended after a call that is not a step of a task, and stops no device while
a loop stands in the queue. -/
theorem Tended.apply (h : Tended s) (step : Client.Step) (hstep : step.isTask = false)
    (hstop : step.stops = true → s.client.Unqueued) : Tended (s.apply step) where
  proper := h.proper.run [step]
  queued := h.queued.apply hstop
  orderly := h.orderly
  noted := (noted_iff (h.proper.run [step])).mpr
    (((noted_iff h.proper).mp h.noted).apply hstep)

/-- A session is idle when it has settled. -/
theorem Tended.settle (h : Tended s) : s.settle.Idle where
  toTended := h.next (settle_keeps s) (works_settle s)
  unqueued := by
    intro id d hd
    have hx := (((works_settle s).proper h.proper).reachable hd).exclusive
    rw [List.eq_nil_iff_forall_not_mem]
    intro t ht
    obtain ⟨k, hk, hst, -⟩ := Device.mem_spawned.mp ht
    have hlink : s.settle.link? (id, k.token) = some k :=
      (link?_eq (id, k.token) hd).trans (hx.link?_eq hk)
    rw [settle_begun hlink] at hst
    cases hst
  waits := fun hinterval _ =>
    settle_waits ((settle_keeps s).interval_eq ▸ hinterval) h.orderly

-- =================================================================== time

/-- Time that passes leaves a session tended, and every loop has begun. -/
theorem Tended.pass (h : Tended s) (hu : s.client.Unqueued) (limit fuel : Nat) :
    Tended (s.pass limit fuel) ∧ (s.pass limit fuel).client.Unqueued := by
  induction fuel generalizing s with
  | zero => exact ⟨h.later limit, hu⟩
  | succ fuel ih =>
      unfold Session.pass
      split
      case isTrue => exact ⟨h, hu⟩
      case isFalse =>
        split
        next => exact ⟨h.later limit, hu⟩
        next due _ =>
          split
          case isTrue => exact ⟨h.later limit, hu⟩
          case isFalse =>
            have hexpired := (h.later (max s.clock due)).next (still_expire _).keeps (works_expire _)
            exact ih hexpired.settle.toTended hexpired.settle.unqueued

/-- A session that is idle still is when a time has passed. -/
theorem Idle.passUntil (h : s.Idle) {limit : Nat} (hle : s.clock ≤ limit) :
    (s.passUntil limit).Idle where
  toTended := (h.toTended.pass h.unqueued limit _).1
  unqueued := (h.toTended.pass h.unqueued limit _).2
  waits := by
    unfold interval timeout
    rw [(works_passUntil s limit).settings]
    intro hinterval htimeout
    have hpaced : Paced s := ⟨h.proper, h.orderly, h.noted, hinterval, htimeout⟩
    exact (passUntil_rested hpaced (h.waits hinterval htimeout) hle).waits

/-- Time does not pass beyond its limit. -/
theorem pass_clock_le {limit : Nat} (h : s.clock ≤ limit) (fuel : Nat) :
    (s.pass limit fuel).clock ≤ limit := by
  induction fuel generalizing s with
  | zero => exact Nat.le_refl limit
  | succ fuel ih =>
      unfold pass
      split
      case isTrue => exact h
      case isFalse =>
        split
        next => exact Nat.le_refl limit
        next due _ =>
          split
          case isTrue => exact Nat.le_refl limit
          case isFalse hdue =>
            refine ih ?_
            rw [(settle_keeps _).clock, (still_expire _).clock]
            exact Nat.max_le.mpr ⟨h, Nat.le_of_not_lt hdue⟩

-- ============================================================= operations

/-- What has been begun can be finished: the limit of a wait is not behind. -/
def Begun.Ahead (s : Session σ H F) : Begun → Prop
  | .wait limit => s.clock ≤ limit
  | _ => True

/-- A call leaves a session idle. -/
theorem Idle.call (h : s.Idle) {α : Type} (f : Client σ H F → α × Client σ H F)
    (step : Client.Step) (hf : (f s.client).2 = s.client.apply step)
    (hstep : step.isTask = false) : (s.call f).2.Idle := by
  show ({ s with client := (f s.client).2 }.settle).Idle
  rw [hf]
  exact (h.toTended.apply step hstep fun _ => h.unqueued).settle

/-- What is begun leaves a session idle, be it that its open is held. -/
theorem Idle.start (h : s.Idle) (what : Start) : (s.start what).2.Idle := by
  cases what with
  | connect id => exact (h.toTended.apply (.device id .connect) rfl nofun).settle
  | init common => exact h.call (·.initDevice common) (.initDevice common) rfl rfl
  | wait ms => exact h.passUntil (Nat.le_add_right _ _)

/-- What has just been begun can be finished. -/
theorem start_ahead (s : Session σ H F) (what : Start) :
    (s.start what).1.Ahead (s.start what).2 := by
  cases what with
  | wait ms => exact pass_clock_le (Nat.le_add_right _ _) _
  | _ => trivial

/-- What is finished leaves a session idle. -/
theorem Tended.finish (h : Tended s) {begun : Begun} (hahead : begun.Ahead s) :
    (s.finish begun).2.Idle := by
  cases begun with
  | connect id => exact h.settle
  | init result => exact h.settle
  | wait limit => exact h.settle.passUntil (Nat.le_trans (Nat.le_of_eq (settle_keeps s).clock) hahead)

/-- The first open of what begins is held, if none was. -/
theorem Idle.startHeld (h : s.Idle) (hheld : s.held = none) (what : Start) :
    (s.startHeld what).2.2.Idle := by
  have harmed : ({ s with armed := true } : Session σ H F).Idle :=
    ⟨⟨h.proper, h.queued, fun _ => hheld, h.noted⟩, h.unqueued, h.waits⟩
  have hbegun := harmed.start what
  exact ⟨⟨hbegun.proper, hbegun.queued, nofun, hbegun.noted⟩, hbegun.unqueued, hbegun.waits⟩

/-- An answer to an upload leaves a session idle. -/
theorem Idle.respond (h : s.Idle) (reply : Reply) : (s.respond reply).2.Idle := by
  unfold Session.respond
  split
  next id generation _ outcome _ _ =>
    exact (h.toTended.next (still_finishUpload s id generation outcome).keeps
      (works_finishUpload s id generation outcome)).settle
  next => exact h
  next => exact h

-- ============================================================== reachable

/-- The states of a session between two operations. -/
inductive Reachable : Session σ H F → Prop
  | fresh (settings : ClientSettings) (camera : σ) (collector : Collector) :
      Reachable { client := { settings, camera }, collector }
  /-- A call of the client, or of one of its devices. -/
  | call {s : Session σ H F} {α : Type} (f : Client σ H F → α × Client σ H F) (step : Client.Step)
      (hf : ∀ c, (f c).2 = c.apply step) (hstep : step.isTask = false) :
      Reachable s → Reachable (s.call f).2
  | start {s : Session σ H F} (what : Start) : Reachable s → Reachable (s.start what).2
  | finish {s : Session σ H F} (begun : Begun) (hahead : begun.Ahead s) :
      Reachable s → Reachable (s.finish begun).2
  | startHeld {s : Session σ H F} (what : Start) (hheld : s.held = none) :
      Reachable s → Reachable (s.startHeld what).2.2
  | release {s : Session σ H F} (begun : Begun) (hahead : begun.Ahead s) :
      Reachable s → Reachable (s.release begun).2
  | respond {s : Session σ H F} (reply : Reply) : Reachable s → Reachable (s.respond reply).2
  /-- The next open is to break off. -/
  | breaking {s : Session σ H F} : Reachable s → Reachable { s with breaking := true }
  /-- Something happens to the camera. -/
  | camera {s : Session σ H F} (camera : σ) :
      Reachable s → Reachable { s with client := { s.client with camera } }
  /-- Something happens to the collector. -/
  | collector {s : Session σ H F} (collector : Collector) :
      Reachable s → Reachable { s with collector }

/-- What is begun and finished is so without a break. -/
theorem Reachable.perform (h : s.Reachable) (what : Start) : (s.perform what).2.Reachable :=
  .finish _ (start_ahead s what) (.start what h)

/-- Between two operations a session is idle. -/
theorem Reachable.idle (h : s.Reachable) : s.Idle := by
  induction h with
  | fresh settings camera collector =>
      exact
        { proper := .fresh settings camera
          queued := fun _ _ hd => (by cases hd)
          orderly := fun _ => rfl
          noted := fun _ _ hk => (by cases hk)
          unqueued := fun _ _ hd => (by cases hd)
          waits := fun _ _ _ _ hk => (by cases hk) }
  | call f step hf hstep _ ih => exact ih.call f step (hf _) hstep
  | start what _ ih => exact ih.start what
  | finish begun hahead _ ih => exact ih.toTended.finish hahead
  | startHeld what hheld _ ih => exact ih.startHeld hheld what
  | @release s begun hahead _ ih =>
      have hlet : Tended { s with held := none } := ⟨ih.proper, ih.queued, fun _ => rfl, ih.noted⟩
      cases begun <;> exact hlet.finish hahead
  | respond reply _ ih => exact ih.respond reply
  | breaking _ ih => exact ⟨⟨ih.proper, ih.queued, ih.orderly, ih.noted⟩, ih.unqueued, ih.waits⟩
  | camera camera _ ih =>
      have hqueued := fun id d hd => (ih.queued id d hd).camera camera
      exact ⟨⟨ih.proper.camera camera, hqueued, ih.orderly, ih.noted⟩, ih.unqueued, ih.waits⟩
  | collector collector _ ih =>
      exact ⟨⟨ih.proper, ih.queued, ih.orderly, ih.noted⟩, ih.unqueued, ih.waits⟩

/-- The steps of every device of a session keep to the queue, and between two operations
none of its loops stands there. -/
theorem Reachable.inTurn (h : s.Reachable) {id : DeviceId} {d : Device H F}
    (hd : s.client.devices.get? id = some d) :
    d.spawned = [] ∧ ∃ q, Site.InTurn q { camera := s.client.camera, device := d } := by
  obtain ⟨q, hturn, -⟩ := h.idle.queued id d hd
  exact ⟨h.idle.unqueued id d hd, q, hturn⟩

/-- Between two operations every link task waits, if its loop pauses between attempts and
uploads are given time: the steps and turns of a session are enough. -/
theorem Reachable.waits (h : s.Reachable) (hinterval : 0 < s.interval) (htimeout : 0 < s.timeout)
    (key : LinkKey) : s.Waits key :=
  h.idle.waits hinterval htimeout key

end Session

end CameraDriver
