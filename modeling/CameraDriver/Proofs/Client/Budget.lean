/-
The retry budget of a device, seen from its client.

# Runs by the clock

`Punctual` are the runs of a client in which one device is not stopped and its
task is never late: the clock moves on only while the task sleeps, and not past
the time at which it is to wake. Opens take no time that way. All the rest is
left open, the order of steps, what other devices do, what the camera answers.
The opens of the device are collected as they come to their end.

# The invariant

`Tracks` says of a client in such a run that the device keeps to its plan
(`Device.Follows`). Calls are moves that leave it to it, and what the device
itself does is a step of the plan; a run that keeps to the plan stands where
the bounds of Proofs/Device/Budget say. That there are such runs, as long as one
likes, is `Punctual.goes_on`, by the measure of Proofs/Device/Progress.
-/
import CameraDriver.Proofs.Client.Stop
import CameraDriver.Proofs.Device.Progress

namespace CameraDriver

variable {σ H F : Type}

namespace Client

-- ================================================================ reading

/-- The token of the task in charge of a device. -/
def linkTask? (c : Client σ H F) (id : DeviceId) : Option Token :=
  (c.devices.get? id).bind (·.record.linkTask)

/-- The retry budget of a device, or the one it will get. -/
def retryBudget (c : Client σ H F) (id : DeviceId) : Nat :=
  ((c.devices.get? id).map (·.record.maxRetry)).getD c.settings.maxRetry

/-- The cancelled tasks of a device that have an open on the way. -/
def abandoned (c : Client σ H F) (id : DeviceId) : List Token :=
  ((c.devices.get? id).map Device.abandoned).getD []

/-- Whether a step goes by the clock. -/
def Step.At (now : Nat) : Step → Prop
  | .device _ step => step.At now
  | _ => True

/-- Whether a step stops a device, for a caller or by itself. -/
def Step.Halts (id : DeviceId) (step : Step) : Prop :=
  step.Stops id ∨ step = .device id .stop

variable {c : Client σ H F} {id : DeviceId} {d : Device H F}

/-- The task in charge of a known device stands in its record. -/
theorem linkTask?_eq (hd : c.devices.get? id = some d) : c.linkTask? id = d.record.linkTask := by
  unfold linkTask?
  rw [hd]
  rfl

variable [Camera σ H F]

/-- The open of a device that comes to its end by a step. -/
def tried? (id : DeviceId) (now : Nat) (c : Client σ H F) : Step → Option (Try H)
  | .device other step =>
      if other = id then
        (c.devices.get? id).bind fun device =>
          Site.tried? now { camera := c.camera, device } step
      else none
  | _ => none

/-- An open of a device is tried by a step of that device. -/
theorem tried?_device (hd : c.devices.get? id = some d) (now : Nat) (step : Site.Step) :
    c.tried? id now (.device id step)
      = Site.tried? now { camera := c.camera, device := d } step := by
  dsimp only [tried?]
  rw [if_pos rfl, hd]
  rfl

theorem tried?_of_ne {step : Step} (h : ∀ own, step ≠ .device id own) (now : Nat) :
    c.tried? id now step = none := by
  cases step with
  | device other own =>
      dsimp only [tried?]
      rw [if_neg]
      rintro rfl
      exact h own rfl
  | _ => rfl

/-- A step of a known device is seen at it. -/
theorem get?_apply_device (hd : c.devices.get? id = some d) (step : Site.Step) :
    (c.apply (.device id step)).devices.get? id
      = some (Site.apply c.settings.pace { camera := c.camera, device := d } step).device := by
  show (c.onDevice id _).devices.get? id = _
  rw [onDevice_known hd]
  exact Registry.get?_insert_self _ _ _

/-- No step changes the settings. -/
theorem apply_settings (c : Client σ H F) (step : Step) :
    (c.apply step).settings = c.settings := by
  obtain ⟨acts, hmoves, -⟩ := apply_acts c step
  refine hmoves.keeps (P := fun c' => c'.settings = c.settings) ?_ ?_ ?_ rfl
  · intro c' store h
    exact h
  · intro c' other h
    exact h
  · intro c' other act _ h
    exact (onDevice_settings c' other _).trans h

/-- The settings of a client are those it was made with. -/
theorem run_settings (c : Client σ H F) (steps : List Step) :
    (c.run steps).settings = c.settings := by
  induction steps generalizing c with
  | nil => rfl
  | cons step rest ih => exact (ih _).trans (apply_settings c step)

omit [Camera σ H F] in
/-- What a caller does with a device is a call, unless it stops the device. -/
theorem Step.Acts.isCall {step : Step} {act : Site.Step} (h : step.Acts c (id, act))
    (hstop : ¬ step.Stops id) (hown : ∀ own, step ≠ .device id own) : act.isCall = true := by
  cases step with
  | initDevice common =>
      obtain ⟨heq, -⟩ := h
      cases heq
      rfl
  | setConfig blobs =>
      obtain ⟨feature, heq⟩ := h
      cases heq
      rfl
  | readDeviceData blobs => obtain ⟨feature, heq | heq⟩ := h <;> cases heq <;> rfl
  | writeDeviceData value blobs => obtain ⟨feature, heq | heq⟩ := h <;> cases heq <;> rfl
  | getDeviceStatus blobs => cases h
  | stop other =>
      cases h
      exact absurd (.inl rfl) hstop
  | stopDevice => exact absurd (.inr rfl) hstop
  | device other own =>
      cases h
      exact absurd rfl (hown act)

/-- A step that does not stop a device is a step of the device itself, or what it
does with the device are calls. -/
theorem own_or_calls (c : Client σ H F) {step : Step} (hhalt : ¬ step.Halts id) :
    (∃ own, step = .device id own ∧ own ≠ .stop)
      ∨ (∀ now, c.tried? id now step = none)
        ∧ ∃ acts, Moves c acts (c.apply step) ∧ ∀ act, (id, act) ∈ acts → act.isCall = true := by
  by_cases hown : ∃ own, step = .device id own
  · obtain ⟨own, rfl⟩ := hown
    refine .inl ⟨own, rfl, ?_⟩
    rintro rfl
    exact hhalt (.inr rfl)
  · have hown : ∀ own, step ≠ .device id own := fun own heq => hown ⟨own, heq⟩
    obtain ⟨acts, hmoves, hacts⟩ := apply_acts c step
    refine .inr ⟨tried?_of_ne hown, acts, hmoves, ?_⟩
    intro act hm
    exact (hacts _ hm).isCall (fun hs => hhalt (.inl hs)) hown

-- =========================================================== by the clock

/-- Runs by the clock from a client, in which a device is not stopped, with the
opens of the device that came to their end, the latest first. -/
inductive Punctual (id : DeviceId) (start : Nat) (c₀ : Client σ H F) :
    List (Try H) → Nat → Client σ H F → Prop
  | begun : Punctual id start c₀ [] start c₀
  | step {tries : List (Try H)} {now : Nat} {c : Client σ H F} (step : Step) :
      Punctual id start c₀ tries now c → step.At now → ¬ step.Halts id →
      Punctual id start c₀ ((c.tried? id now step).toList ++ tries) now (c.apply step)
  /-- The clock moves on, while the task of the device sleeps. -/
  | wait {tries : List (Try H)} {now : Nat} {c : Client σ H F} (later : Nat) :
      Punctual id start c₀ tries now c → now ≤ later →
      (∀ d, c.devices.get? id = some d → d.SleepsUntil later) →
      Punctual id start c₀ tries later c
  /-- Something happens to the camera. -/
  | camera {tries : List (Try H)} {now : Nat} {c : Client σ H F} (camera : σ) :
      Punctual id start c₀ tries now c → Punctual id start c₀ tries now { c with camera }

/-- What happens to the camera leaves the client in order. -/
theorem Proper.camera (h : c.Proper) (camera : σ) : { c with camera }.Proper where
  ascending := h.ascending
  id := h.id
  reachable := fun hget => (h.reachable hget).camera camera

namespace Punctual

variable {start now now' : Nat} {c₀ c' : Client σ H F} {tries tries' : List (Try H)}

/-- A punctual run leaves a client in order. -/
theorem proper (h : Punctual id start c₀ tries now c) (hp : c₀.Proper) : c.Proper := by
  induction h with
  | begun => exact hp
  | step step _ _ _ ih => exact ih.run [step]
  | wait later _ _ _ ih => exact ih
  | camera camera _ ih => exact ih.camera camera

/-- A run can be followed by another one. -/
theorem trans (h : Punctual id start c₀ tries now c) (h' : Punctual id now c tries' now' c') :
    Punctual id start c₀ (tries' ++ tries) now' c' := by
  induction h' with
  | begun => exact h
  | step step _ hat hhalt ih =>
      rw [List.append_assoc]
      exact ih.step step hat hhalt
  | wait later _ hle hs ih => exact ih.wait later hle hs
  | camera camera _ ih => exact ih.camera camera

end Punctual

/-- What is left to do for the task in charge of a device. -/
def work (c : Client σ H F) (id : DeviceId) : Nat :=
  ((c.devices.get? id).map Device.work).getD 0

omit [Camera σ H F] in
/-- The work of a known device is that of its tasks. -/
theorem work_eq (hd : c.devices.get? id = some d) : c.work id = d.work := by
  unfold work
  rw [hd]
  rfl

/-- From every client there is a run until whatever time one likes. Each round
takes a step of the task in charge or, if it sleeps, lets the time pass. -/
theorem Punctual.goes_on (hp : c.Proper) (id : DeviceId) {now later : Nat} (hle : now ≤ later) :
    ∃ tries c', Punctual id now c tries later c' := by
  suffices hall : ∀ (n : Nat) {t : Nat} {tries : List (Try H)} {c' : Client σ H F},
      later - t + c'.work id ≤ n → t ≤ later → Punctual id now c tries t c' →
      ∃ tries c', Punctual id now c tries later c' from hall _ (Nat.le_refl _) hle .begun
  intro n
  induction n with
  | zero =>
      intro t tries c' hn ht h
      have heq : t = later := by omega
      exact ⟨tries, c', heq ▸ h⟩
  | succ n ih =>
      intro t tries c' hn ht h
      by_cases heq : t = later
      · -- the time is reached
        exact ⟨tries, c', heq ▸ h⟩
      have hlt : t < later := Nat.lt_of_le_of_ne ht heq
      cases hd : c'.devices.get? id with
      | none =>
          refine ⟨tries, c', h.wait later ht ?_⟩
          intro d hd'
          rw [hd] at hd'
          cases hd'
      | some d =>
          have hr := (h.proper hp).reachable hd
          rcases hr.progress c'.settings.pace t with ⟨due, hdue, hs⟩ | ⟨step, hat, hstop, hwork⟩
          · -- every task sleeps: wait for the first, or for the time itself
            have hwait : ∀ d', c'.devices.get? id = some d' → d'.SleepsUntil (min due later) := by
              intro d' hd'
              rw [hd] at hd'
              cases hd'
              exact hs.mono (Nat.min_le_left _ _)
            refine ih ?_ (Nat.min_le_right _ _) (h.wait (min due later) (by omega) hwait)
            omega
          · -- a step is due now, and less work is left after it
            refine ih ?_ ht (h.step (.device id step) hat ?_)
            · rw [work_eq (get?_apply_device hd step)]
              rw [work_eq hd] at hn
              have hwork' : (Site.apply c'.settings.pace { camera := c'.camera, device := d }
                  step).device.work < d.work := hwork
              omega
            · rintro ((hs | hs) | hs)
              · cases hs
              · cases hs
              · exact hstop (Step.device.inj hs).2

-- ================================================================ tracking

/-- A client in a run by the clock, the device of which keeps to a plan. -/
structure Tracks (id : DeviceId) (p : Plan) (old : List Token) (tries : List (Try H)) (now : Nat)
    (c : Client σ H F) : Prop where
  proper : c.Proper
  interval : c.settings.reconnectIntervalMs = p.interval
  device : ∃ d, c.devices.get? id = some d ∧ d.Follows p old tries now

namespace Tracks

variable {p : Plan} {old : List Token} {tries : List (Try H)} {now : Nat} {step : Step}

/-- A step that does not stop the device leaves it to its plan. -/
theorem apply (h : Tracks id p old tries now c) (hat : step.At now) (hhalt : ¬ step.Halts id) :
    Tracks id p old ((c.tried? id now step).toList ++ tries) now (c.apply step) where
  proper := h.proper.run [step]
  interval := by
    rw [apply_settings]
    exact h.interval
  device := by
    obtain ⟨d, hd, hfollows⟩ := h.device
    rcases own_or_calls c hhalt with ⟨own, rfl, hstop⟩ | ⟨hnone, acts, hmoves, hcalls⟩
    · refine ⟨_, get?_apply_device hd own, ?_⟩
      rw [tried?_device hd]
      exact Site.apply_follows hfollows (h.proper.reachable hd) h.interval hat hstop
    · rw [hnone]
      refine hmoves.keeps_device h.proper hd hfollows ?_
      intro s pace act hm hr hfollows
      exact Site.apply_follows_of_call hfollows hr pace (hcalls act hm)

/-- So does the clock while the task sleeps. -/
theorem wait (h : Tracks id p old tries now c) {later : Nat}
    (hs : ∀ d, c.devices.get? id = some d → d.SleepsUntil later) :
    Tracks id p old tries later c where
  proper := h.proper
  interval := h.interval
  device := by
    obtain ⟨d, hd, hfollows⟩ := h.device
    exact ⟨d, hd, hfollows.wait (h.proper.reachable hd).exclusive (hs d hd)⟩

/-- So does what happens to the camera. -/
theorem camera (h : Tracks id p old tries now c) (camera : σ) :
    Tracks id p old tries now { c with camera } where
  proper := h.proper.camera camera
  interval := h.interval
  device := h.device

/-- Runs by the clock keep to a plan. -/
theorem run {start : Nat} {c₀ : Client σ H F} (h : Tracks id p old [] start c₀)
    (hrun : Punctual id start c₀ tries now c) : Tracks id p old tries now c := by
  induction hrun with
  | begun => exact h
  | step step _ hat hhalt ih => exact ih.apply hat hhalt
  | wait later _ _ hs ih => exact ih.wait hs
  | camera camera _ ih => exact ih.camera camera

/-- The task in charge keeps to the plan. -/
theorem charged (h : Tracks id p old tries now c) (hc : c.linkTask? id = some p.token) :
    ∃ d, c.devices.get? id = some d ∧ d.Live p (p.own tries) now
      ∧ d.OpensOnly p.token old ∧ ∀ t ∈ tries, t.token = p.token ∨ t.token ∈ old := by
  obtain ⟨d, hd, ⟨hlive, hopens, htries⟩ | ⟨hgone, -⟩⟩ := h.device
  · exact ⟨d, hd, hlive, hopens, htries⟩
  · rw [linkTask?_eq hd] at hc
    exact absurd hc (hgone.not_charged (h.proper.reachable hd).exclusive)

/-- A task that is not in charge has done its part. -/
theorem finished (h : Tracks id p old tries now c) (hc : c.linkTask? id ≠ some p.token) :
    p.Finished (p.own tries) := by
  obtain ⟨d, hd, ⟨hlive, -⟩ | ⟨-, hfinished, -⟩⟩ := h.device
  · rw [linkTask?_eq hd] at hc
    exact absurd hlive.charged hc
  · exact hfinished

/-- The opens of a loop are on schedule, and within its budget. -/
theorem scheduled (h : Tracks id p old tries now c) :
    p.Scheduled (p.own tries) ∧ p.first + (p.own tries).length ≤ p.max + 1 := by
  obtain ⟨d, hd, ⟨hlive, -⟩ | ⟨-, -, hdone⟩⟩ := h.device
  · have hr := h.proper.reachable hd
    exact ⟨hlive.scheduled, (hlive.bounds hr.exclusive hr.phased).1⟩
  · exact hdone

/-- An open that is overdue was made, unless one before it has succeeded. -/
theorem in_time (h : Tracks id p old tries now c) {n : Nat} (hfirst : p.first ≤ n)
    (hmax : n ≤ p.max) (hdue : p.due n < now) :
    ∃ t ∈ p.own tries, t.succeeded = true ∨ t.number = n := by
  have hscheduled := h.scheduled.1
  have hmade : n < p.first + (p.own tries).length →
      ∃ t ∈ p.own tries, t.succeeded = true ∨ t.number = n := by
    intro hlt
    obtain ⟨t, ht, hn⟩ := hscheduled.exists_number hfirst hlt
    exact ⟨t, ht, .inr hn⟩
  obtain ⟨d, hd, ⟨hlive, -⟩ | ⟨-, hfinished, -⟩⟩ := h.device
  · have hr := h.proper.reachable hd
    obtain ⟨-, hle, -⟩ := hlive.bounds hr.exclusive hr.phased
    refine hmade (Nat.lt_of_not_le fun hge => ?_)
    exact Nat.lt_irrefl _ (Nat.lt_of_lt_of_le hdue (Nat.le_trans hle (p.due_le hge)))
  · rcases hfinished with ⟨last, earlier, hlast, hok⟩ | ⟨-, hspent⟩
    · refine ⟨last, ?_, .inl hok⟩
      rw [hlast]
      exact List.mem_cons_self
    · exact hmade (by omega)

/-- The step by which a task ends opens nothing, and leaves the device connected,
or disconnected with the budget spent. -/
theorem ends (h : Tracks id p old tries now c) (hat : step.At now) (hhalt : ¬ step.Halts id)
    (hc : c.linkTask? id = some p.token) (hend : (c.apply step).linkTask? id ≠ some p.token) :
    c.tried? id now step = none
      ∧ ∃ d, (c.apply step).devices.get? id = some d ∧ d.Settled p (p.own tries)
        ∧ d.Gone p ∧ d.OpensOnly p.token old := by
  obtain ⟨d, hd, hlive, hopens, htries⟩ := h.charged hc
  rcases own_or_calls c hhalt with ⟨own, rfl, hstop⟩ | ⟨-, acts, hmoves, hcalls⟩
  · have hd' := get?_apply_device hd own
    have hpace : c.settings.pace.interval = p.interval := h.interval
    rcases Site.apply_charged hlive hopens htries (h.proper.reachable hd) hpace hat hstop with
      ⟨hlive', -⟩ | ⟨hnone, hsettled, hgone, ho⟩
    · rw [linkTask?_eq hd'] at hend
      exact absurd hlive'.charged hend
    · rw [tried?_device hd]
      exact ⟨hnone, _, hd', hsettled, hgone, ho⟩
  · -- calls leave the task in charge
    have hkept : ∃ d', (c.apply step).devices.get? id = some d' ∧ d'.Live p (p.own tries) now := by
      refine hmoves.keeps_device h.proper hd hlive ?_
      intro s pace act hm hr hlive
      exact Site.apply_live_of_call hlive hr pace (hcalls act hm)
    obtain ⟨d', hd', hlive'⟩ := hkept
    rw [linkTask?_eq hd'] at hend
    exact absurd hlive'.charged hend

end Tracks

-- ============================================================== beginnings

/-- Initialising a device that is disconnected with no task in charge puts one in
charge, which begins with an open. -/
theorem initDevice_begun (hp : c.Proper) {common : Option Bytes} {started : Option Token}
    (h : (c.initDevice common).1 = .ok (id, started))
    (hfree : ∀ d, c.devices.get? id = some d →
      d.status = .disconnected ∧ d.record.linkTask = none) :
    ∃ d : Device H F, d.Exclusive ∧ d.record.maxRetry = c.retryBudget id
      ∧ started = some d.nextToken
      ∧ (c.apply (.initDevice common)).devices.get? id = some d.begun := by
  show ∃ d : Device H F, d.Exclusive ∧ _ ∧ _ ∧ (c.initDevice common).2.devices.get? id = _
  unfold initDevice at h ⊢
  cases hm : c.merge { common } with
  | error e =>
      rw [hm] at h
      cases h
  | ok r =>
      obtain ⟨configuration, c₁⟩ := r
      obtain ⟨store, rfl⟩ := merge_snd hm
      rw [hm] at h
      dsimp only at h ⊢
      cases hid : configuration.deviceId with
      | error e =>
          rw [hid] at h
          cases h
      | ok other =>
          rw [hid] at h
          dsimp only at h ⊢
          have heq : other = id := congrArg Prod.fst (Except.ok.inj h)
          subst heq
          have hget := get?_register_self { c with store } other
          have hreachable := ((hp.store store).register other).reachable hget
          generalize hd : (({ c with store } : Client σ H F).devices.get? other).getD
            (Device.fresh other c.settings.imageFormat c.settings.maxRetry) = d at hget hreachable
          have hdown : d.status = .disconnected ∧ d.record.linkTask = none := by
            rw [← hd]
            cases hknown : c.devices.get? other with
            | none => exact ⟨rfl, rfl⟩
            | some d₀ => exact hfree d₀ hknown
          have hbudget : d.record.maxRetry = c.retryBudget other := by
            rw [← hd, retryBudget]
            cases c.devices.get? other <;> rfl
          generalize ({ c with store } : Client σ H F).register other = c₁ at h hget hreachable ⊢
          have hbegin := Site.beginConnect_of_free (s := { camera := c₁.camera, device := d })
            hdown.2 (by rw [hdown.1]; exact Status.noConfusion)
          rw [atDevice?_known hget, hbegin] at h ⊢
          cases h
          exact ⟨d, hreachable.exclusive, hbudget, rfl, Registry.get?_insert_self _ _ _⟩

/-- A step that does not stop a connected device leaves it connected, or puts a
loop in charge, which begins with a pause. -/
theorem loss_begun (hp : c.Proper) (hd : c.devices.get? id = some d)
    (hs : d.status = .connected) {step : Step} (hhalt : ¬ step.Halts id) (now interval : Nat) :
    ∃ d', (c.apply step).devices.get? id = some d' ∧ (d'.status = .connected
      ∨ ∃ token, d'.Live ⟨token, now, 1, d'.record.maxRetry, interval⟩ [] now) := by
  rcases own_or_calls c hhalt with ⟨own, rfl, hstop⟩ | ⟨-, acts, hmoves, hcalls⟩
  · refine ⟨_, get?_apply_device hd own, ?_⟩
    exact Site.connected_or_live (hp.reachable hd) hs c.settings.pace hstop interval
  · refine hmoves.keeps_device (P := fun d => d.status = .connected
      ∨ ∃ token, d.Live ⟨token, now, 1, d.record.maxRetry, interval⟩ [] now) hp hd (.inl hs) ?_
    intro s pace act hm hr h
    have hcall := hcalls act hm
    rcases h with hs | ⟨token, hlive⟩
    · refine Site.connected_or_live hr hs pace ?_ interval
      rintro rfl
      cases hcall
    · right
      have hlive' := Site.apply_live_of_call hlive hr pace hcall
      have hbudget : (s.apply pace act).device.record.maxRetry = s.device.record.maxRetry :=
        hlive'.budget
      exact ⟨token, hbudget ▸ hlive'⟩

-- ================================================================== budget

/-- What a device does by the plan of its link task, in every run by the clock in
which it is not stopped, whatever the opens come to. -/
structure Budgeted (id : DeviceId) (p : Plan) (c₀ : Client σ H F) : Prop where
  /-- The task of the plan is in charge. -/
  begins : c₀.linkTask? id = some p.token
  /-- The opens are made one after the other, each at its time, and all but the
  last have failed; there are no more of them than the budget allows. -/
  scheduled {tries : List (Try H)} {now : Nat} {c : Client σ H F} :
    Punctual id p.begun c₀ tries now c →
    p.Scheduled (p.own tries) ∧ p.first + (p.own tries).length ≤ p.max + 1
  /-- An open that is overdue was made, unless one before it has succeeded. -/
  in_time {tries : List (Try H)} {now : Nat} {c : Client σ H F} :
    Punctual id p.begun c₀ tries now c →
    ∀ n, p.first ≤ n → n ≤ p.max → p.due n < now →
      ∃ t ∈ p.own tries, t.succeeded = true ∨ t.number = n
  /-- The task is in charge until its last open is due at most, and so long
  nothing else opens the device but what was abandoned before. -/
  charged {tries : List (Try H)} {now : Nat} {c : Client σ H F} :
    Punctual id p.begun c₀ tries now c → c.linkTask? id = some p.token →
    now ≤ p.due p.max ∧ ∀ t ∈ tries, t.token = p.token ∨ t.token ∈ c₀.abandoned id
  /-- When it is not, its last open has succeeded, or all have failed and the
  budget is spent. -/
  finished {tries : List (Try H)} {now : Nat} {c : Client σ H F} :
    Punctual id p.begun c₀ tries now c → c.linkTask? id ≠ some p.token → p.Finished (p.own tries)
  /-- The step by which it ends opens nothing. It leaves the device connected by
  what the last open gave, or disconnected with nothing held; and a device that
  is disconnected then stays so and is not opened again while it is spared. -/
  ends {tries : List (Try H)} {now : Nat} {c : Client σ H F} {step : Step} :
    Punctual id p.begun c₀ tries now c → c.linkTask? id = some p.token →
    step.At now → ¬ step.Halts id → (c.apply step).linkTask? id ≠ some p.token →
    c.tried? id now step = none
      ∧ ∃ d, (c.apply step).devices.get? id = some d ∧ d.Settled p (p.own tries)
        ∧ (d.status = .disconnected → ∀ later, SparesAll id (c.apply step) later →
          ∃ d', ((c.apply step).run later).devices.get? id = some d'
            ∧ d'.Retired ∧ d'.record.handle = none
            ∧ ∀ k ∈ d'.links, k.stage.isOpening = true → k.token ∈ c₀.abandoned id)
  /-- Every run goes on to whatever time. -/
  goes_on {tries : List (Try H)} {now : Nat} {c : Client σ H F} :
    Punctual id p.begun c₀ tries now c → ∀ later, now ≤ later →
    ∃ more c', Punctual id now c more later c'
      ∧ Punctual id p.begun c₀ (more ++ tries) later c'

/-- A task that begins its plan keeps to it. -/
theorem Budgeted.of_live {p : Plan} (hp : c.Proper) (hd : c.devices.get? id = some d)
    (hlive : d.Live p [] p.begun) (hpace : c.settings.reconnectIntervalMs = p.interval) :
    Budgeted id p c := by
  have hold : c.abandoned id = d.abandoned := by
    unfold abandoned
    rw [hd]
    rfl
  have hx := (hp.reachable hd).exclusive
  have htracks : Tracks id p (c.abandoned id) [] p.begun c := by
    refine ⟨hp, hpace, d, hd, .inl ⟨hlive, ?_, fun t ht => by cases ht⟩⟩
    rw [hold]
    exact Device.opensOnly_abandoned hx hlive.charged
  refine ⟨(linkTask?_eq hd).trans hlive.charged, ?_, ?_, ?_, ?_, ?_, ?_⟩
  · -- each open is at its time
    intro tries now c' h
    exact (htracks.run h).scheduled
  · -- the next open is made in time
    intro tries now c' h n hfirst hmax hdue
    exact (htracks.run h).in_time hfirst hmax hdue
  · -- how many opens there were so far
    intro tries now c' h hc
    have htracks' := htracks.run h
    obtain ⟨d', hd', hlive', -, htries⟩ := htracks'.charged hc
    have hr := htracks'.proper.reachable hd'
    exact ⟨(hlive'.bounds hr.exclusive hr.phased).2.2, htries⟩
  · -- the outcome, once the task has ended
    intro tries now c' h hc
    exact (htracks.run h).finished hc
  · -- the step that ends the task, and what is later
    intro tries now c' step h hc hat hhalt hend
    have htracks' := htracks.run h
    obtain ⟨hnone, d', hd', hsettled, hgone, hopens⟩ := htracks'.ends hat hhalt hc hend
    refine ⟨hnone, d', hd', hsettled, ?_⟩
    intro hdown later hspares
    have hretired : d'.Retired := ⟨hdown, hsettled.linkTask⟩
    obtain ⟨e, he, hrests⟩ :=
      rests_run (htracks'.proper.run [step]) hd' (.refl hretired) hspares
    refine ⟨e, he, hrests.retired, hrests.handle ?_, ?_⟩
    · rcases hsettled.outcome with ⟨-, -, -, -, -, hup, -⟩ | ⟨-, -, -, hnone⟩
      · rw [hdown] at hup
        cases hup
      · exact hnone
    · -- an open that is still in flight is not the task's
      intro k hk ho
      have hk := hrests.idles.opening k hk ho
      rcases hopens k hk ho with ht | ht
      · exact absurd ht (hgone.absent k hk)
      · exact ht
  · -- time does not stop short of a later one
    intro tries now c' h later hle
    obtain ⟨more, c'', hmore⟩ := Punctual.goes_on (h.proper hp) id hle
    exact ⟨more, c'', hmore, h.trans hmore⟩

/-- The retry budget. A device that is initialised while it is disconnected and
has no task in charge, known or not, is opened at once and then, until an open
succeeds, as many times as its retry budget says, the k-th time k intervals
later. A connected device that loses its link is opened in the same way, without
the open at once. -/
theorem Reachable.retry_budget (hc : c.Reachable) (start : Nat) :
    (∀ common id started, (c.initDevice common).1 = .ok (id, started) →
      (∀ d, c.devices.get? id = some d →
        d.status = .disconnected ∧ d.record.linkTask = none) →
      ∃ token, started = some token
        ∧ Budgeted id ⟨token, start, 0, c.retryBudget id, c.settings.reconnectIntervalMs⟩
          (c.apply (.initDevice common)))
    ∧ ∀ id d step token, c.devices.get? id = some d → d.status = .connected →
      ¬ step.Halts id → (c.apply step).linkTask? id = some token →
      Budgeted id
        ⟨token, start, 1, (c.apply step).retryBudget id, c.settings.reconnectIntervalMs⟩
        (c.apply step) := by
  have hp := hc.proper
  refine ⟨?_, ?_⟩
  · -- a caller that starts the connection: attempts from zero
    intro common id started hinit hfree
    obtain ⟨d, hx, hbudget, hstarted, hd⟩ := initDevice_begun hp hinit hfree
    refine ⟨d.nextToken, hstarted, .of_live (hp.run [.initDevice common]) hd ?_ ?_⟩
    · rw [← hbudget]
      exact d.live_begun hx start _
    · exact congrArg (·.reconnectIntervalMs) (apply_settings c _)
  · -- a connected device whose link goes down: attempts from one
    intro id d step token hd hs hhalt hcharged
    obtain ⟨d', hd', hs' | ⟨token', hlive⟩⟩ :=
      loss_begun hp hd hs hhalt start c.settings.reconnectIntervalMs
    · -- a device that is still connected has no task in charge
      have hr := (hp.run [step]).reachable hd'
      rw [linkTask?_eq hd', hr.phased.linkTask_of_connected hr.exclusive hs'] at hcharged
      cases hcharged
    · have htoken : token' = token := by
        rw [linkTask?_eq hd', hlive.charged] at hcharged
        exact Option.some.inj hcharged
      have hbudget : (c.apply step).retryBudget id = d'.record.maxRetry := by
        rw [retryBudget, hd']
        rfl
      rw [hbudget, ← htoken]
      exact .of_live (hp.run [step]) hd' hlive
        (congrArg (·.reconnectIntervalMs) (apply_settings c step))

/-- A device that is initialised, connected, and lost by a read that fails hard. -/
theorem Reachable.retry_budget_of_failed_read :
    let id : DeviceId := ⟨"a"⟩
    let common := Text.Utf8.encode "\x7b\"customizedValues\":\x7b\"deviceSN\":\"a\"\x7d\x7d"
    let c : Client SimulatedCamera SimulatedCamera.Handle Bytes :=
      { settings := .default
        camera := (({} : SimulatedCamera).attach id).failNextCall id (.hard "gone") }
    let e :=
      c.run [.initDevice (some common), .device id (.reach 0), .device id (.resume 0 0)]
    let lost := e.apply (.device id (.read "Gain"))
    let p : Plan := ⟨1, 7, 1, 100, e.settings.reconnectIntervalMs⟩
    Budgeted id ⟨0, 0, 0, 100, c.settings.reconnectIntervalMs⟩
        (c.apply (.initDevice (some common)))
      ∧ Budgeted id p lost
      ∧ ∃ tries c', Punctual id 7 lost tries (p.due p.max + 1) c' ∧ p.Finished (p.own tries) := by
  intro id common c e lost p
  have hinit : (c.initDevice (some common)).1 = .ok (id, some 0) := by decide +kernel
  have hstatus : e.status? id = some .connected := by decide +kernel
  have hcharged : lost.linkTask? id = some 1 := by decide +kernel
  have hbudget : lost.retryBudget id = 100 := by decide +kernel
  have hc : c.Reachable := ⟨_, _, [], rfl⟩
  have he : e.Reachable := ⟨_, _, _, rfl⟩
  obtain ⟨d, hd, hs⟩ := Option.map_eq_some_iff.mp hstatus
  obtain ⟨token, htoken, hfirst⟩ :=
    (Reachable.retry_budget hc 0).1 (some common) id _ hinit (fun d hd => by cases hd)
  have hlost := (Reachable.retry_budget he 7).2 id d (.device id (.read "Gain")) 1 hd hs
    (by rintro ((h | h) | h) <;> cases h) hcharged
  rw [hbudget] at hlost
  rw [← Option.some.inj htoken] at hfirst
  refine ⟨hfirst, hlost, ?_⟩
  obtain ⟨tries, c', hrun, -⟩ := hlost.goes_on .begun (p.due p.max + 1)
    (Nat.le_succ_of_le (Nat.le_add_right _ _))
  refine ⟨tries, c', hrun, hlost.finished hrun ?_⟩
  intro hlive
  exact Nat.not_succ_le_self _ (hlost.charged hrun hlive).1

end Client

end CameraDriver
