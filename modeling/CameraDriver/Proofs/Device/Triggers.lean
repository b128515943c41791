/-
The stored trigger mode is that of the last effective trigger.

A trigger to stop takes effect at once, one to capture only when its image was
taken, and until then the trigger may be stopped. `TriggerEvent` has what
matters: stops, captures that were started, images that were taken. What the
mode should be is a function of these events and of nothing else
(`TriggerEvent.lastEffective`). It knows no counter: an image that was taken
counts with the mode of its capture, unless a stop came in between.

# Why the counter decides it

The record counts triggers, and an upload remembers its count. Stops and
captures both raise the counter, but while an upload is in flight no capture
starts (`OneUpload`). So its count is still the current one exactly if there was
no stop since; `Abreast` says this of the upload that is in flight, and the mode
follows from it when the upload ends.
-/
import CameraDriver.Proofs.Device.Frame
import CameraDriver.Proofs.Device.Uploads

namespace CameraDriver

variable {σ H F : Type}

-- ================================================================ events

/-- What matters to the trigger mode of a device. An upload is named by its
generation. -/
inductive TriggerEvent where
  | stopped
  | started (generation : Nat) (mode : TriggerMode)
  | taken (generation : Nat)
deriving DecidableEq, Repr

namespace TriggerEvent

/-- The mode that an upload was started with, if there was no stop since. -/
def pending? (generation : Nat) : List TriggerEvent → Option TriggerMode
  | [] => none
  | .stopped :: _ => none
  | .started g mode :: earlier =>
      if g = generation then some mode else pending? generation earlier
  | .taken _ :: earlier => pending? generation earlier

/-- The mode of the last stop, or of the last image that was taken with no
stop since its capture; the events stand the latest first. -/
def lastEffective : List TriggerEvent → TriggerMode
  | [] => .stop
  | .stopped :: _ => .stop
  | .started _ _ :: earlier => lastEffective earlier
  | .taken generation :: earlier =>
      (pending? generation earlier).getD (lastEffective earlier)

/-- The generation of a capture. -/
def capture? : TriggerEvent → Option Nat
  | .started generation _ => some generation
  | _ => none

end TriggerEvent

/-- Whether the request of an upload is out. -/
def Upload.isSent (u : Upload F) : Bool :=
  match u.stage with
  | .captured _ => false
  | .sent _ => true

/-- The event of a step that has led from one device to another. Only a
connected device accepts a stop, and a trigger that leaves no upload behind has
started none. -/
def Site.Step.event? (step : Site.Step) (d d' : Device H F) : Option TriggerEvent :=
  match step with
  | .finishUpload generation outcome =>
      if outcome.isSuccess && (d.upload? generation).any Upload.isSent then
        some (.taken generation)
      else none
  | step =>
      match step.trigger? with
      | none => none
      | some .stop => if d.status.isConnected then some .stopped else none
      | some mode =>
          if d.uploads.length < d'.uploads.length then
            d'.uploads.getLast?.map fun u => .started u.generation mode
          else none

namespace Device

variable {d d' : Device H F}

-- ============================================================== one step

/-- What a step does to the trigger mode, by its event. -/
inductive Turns : Option TriggerEvent → Device H F → Device H F → Prop
  /-- Uploads may end or send, none starts. -/
  | quiet {d d' : Device H F}
      (huploads : ∀ u' ∈ d'.uploads, ∃ u ∈ d.uploads, u'.generation = u.generation
        ∧ u'.mode = u.mode)
      (hgeneration : d'.record.triggerGeneration = d.record.triggerGeneration)
      (htrigger : d'.record.capture.trigger = d.record.capture.trigger) : Turns none d d'
  | stopped (d : Device H F) : Turns (some .stopped) d d.halted
  | started {d d' : Device H F} {mode : TriggerMode} {u : Upload F}
      (hidle : d.uploads = []) (huploads : d'.uploads = [u])
      (hu : u.generation = d.record.triggerGeneration + 1) (hmode : u.mode = mode)
      (hgeneration : d'.record.triggerGeneration = d.record.triggerGeneration + 1)
      (htrigger : d'.record.capture.trigger = d.record.capture.trigger) :
      Turns (some (.started (d.record.triggerGeneration + 1) mode)) d d'
  | taken {d : Device H F} {u : Upload F} {outcome : UploadOutcome} (hu : d.uploads = [u])
      (hsuccess : outcome.isSuccess = true) :
      Turns (some (.taken u.generation)) d (d.finished u outcome)

namespace Turns

theorem of_aside (h : d.Aside d') : Turns none d d' := by
  refine .quiet ?_ h.triggerGeneration h.trigger
  intro u hu
  rw [h.uploads] at hu
  exact ⟨u, hu, rfl, rfl⟩

/-- An upload that is sent is no event of the trigger. -/
theorem of_sent (d : Device H F) (generation deadline : Nat) (request : Request) :
    Turns none d (d.sent generation deadline request) := by
  refine .quiet ?_ rfl rfl
  intro u' hu'
  obtain ⟨u, hu, rfl⟩ := List.mem_map.mp hu'
  refine ⟨u, hu, ?_, ?_⟩ <;> split <;> rfl

/-- An upload that has failed leaves the mode alone. -/
theorem of_failed (d : Device H F) (u : Upload F) {outcome : UploadOutcome}
    (h : outcome.isSuccess = false) : Turns none d (d.finished u outcome) := by
  refine .quiet ?_ ?_ ?_
  · intro v hv
    exact ⟨v, (List.mem_filter.mp hv).1, rfl, rfl⟩
  · simp [finished, modifyRecord, h]
  · simp [finished, modifyRecord, h]

end Turns

end Device

namespace Site

variable [Camera σ H F]

omit [Camera σ H F] in
/-- A trigger that may capture is an event if an upload has begun. -/
theorem Step.event?_of_trigger {step : Step} {mode : TriggerMode} (h : step.trigger? = some mode)
    (hmode : mode.startsCapture = true) (d d' : Device H F) :
    step.event? d d' =
      if d.uploads.length < d'.uploads.length then
        d'.uploads.getLast?.map fun u => .started u.generation mode
      else none := by
  cases step with
  | write feature value =>
      cases mode with
      | stop => cases hmode
      | single => simp only [event?, h]
      | continuous => simp only [event?, h]
  | _ => cases h

omit [Camera σ H F] in
/-- The trigger that stops is an event if the device is connected. -/
theorem Step.event?_of_stop {step : Step} (h : step.trigger? = some .stop) (d d' : Device H F) :
    step.event? d d' = if d.status.isConnected then some .stopped else none := by
  cases step with
  | write feature value => simp only [event?, h]
  | _ => cases h

omit [Camera σ H F] in
/-- An upload that ends is an event if it was taken. -/
theorem Step.event?_finishUpload (generation : Nat) (outcome : UploadOutcome)
    (d d' : Device H F) :
    (Step.finishUpload generation outcome).event? d d' =
      if outcome.isSuccess && (d.upload? generation).any Upload.isSent then
        some (.taken generation)
      else none := rfl

/-- Writing the trigger to start a capture: an upload starts, or nothing
does. -/
theorem turns_of_capture (pace : Pace) {s : Site σ H F} (hone : s.device.OneUpload) {step : Step}
    {mode : TriggerMode} (hstep : step.trigger? = some mode) (hmode : mode.startsCapture = true) :
    Device.Turns (step.event? s.device (s.apply pace step).device) s.device
      (s.apply pace step).device := by
  -- without a new upload there is no event
  have hquiet : s.device.Aside (s.apply pace step).device →
      Device.Turns (step.event? s.device (s.apply pace step).device) s.device
        (s.apply pace step).device := by
    intro ha
    rw [Step.event?_of_trigger hstep hmode, ha.uploads, if_neg (Nat.lt_irrefl _)]
    exact .of_aside ha
  rcases trigger_cases mode s with ⟨answer, ht⟩ | ⟨e, m, ht, -⟩
    | ⟨endpoint, c, frame, camera, -, hbusy, hc, -, ht⟩
  · -- the trigger was dropped
    refine hquiet ?_
    rw [apply_trigger_dropped pace hstep hmode ht]
    exact .refl _
  · -- the capture failed
    exact hquiet (apply_trigger_failed pace hstep hmode (by rw [ht]))
  · -- the capture gave a frame
    have happly := apply_trigger pace s hstep
    by_cases hs : s.device.status.isConnected = true
    · have hidle := hone.eq_nil hbusy
      rw [if_pos hs, writeTrigger, if_pos hmode, ht] at happly
      have huploads : (s.apply pace step).device.uploads =
          [{ generation := s.device.record.triggerGeneration + 1, mode, endpoint
             stage := .captured frame }] := by
        rw [happly]
        show s.device.uploads ++ [_] = _
        rw [hidle, List.nil_append]
      rw [Step.event?_of_trigger hstep hmode, huploads, hidle, if_pos (by simp)]
      refine .started hidle huploads rfl rfl ?_ ?_ <;> rw [happly] <;> rfl
    · -- a device that is not connected takes no trigger
      refine hquiet ?_
      rw [happly, if_neg hs]
      exact .refl _

/-- Writing the trigger to stop: the device stops, or refuses. -/
theorem turns_of_stop (pace : Pace) (s : Site σ H F) {step : Step}
    (hstep : step.trigger? = some .stop) :
    Device.Turns (step.event? s.device (s.apply pace step).device) s.device
      (s.apply pace step).device := by
  rw [Step.event?_of_stop hstep, apply_trigger pace s hstep]
  split
  · exact .stopped s.device
  · exact .of_aside (.refl _)

/-- An upload that ends turns the mode back only if it was taken. -/
theorem turns_of_finish (pace : Pace) {s : Site σ H F} (hone : s.device.OneUpload)
    (generation : Nat) (outcome : UploadOutcome) :
    Device.Turns
      ((Step.finishUpload generation outcome).event? s.device
        (s.apply pace (.finishUpload generation outcome)).device)
      s.device (s.apply pace (.finishUpload generation outcome)).device := by
  rw [Step.event?_finishUpload]
  show Device.Turns _ _ (s.finishUpload generation outcome).device
  cases hu : s.device.upload? generation with
  | none =>
      have happly : s.finishUpload generation outcome = s := by
        unfold finishUpload
        rw [hu]
      rw [happly, Option.any_none, Bool.and_false]
      exact .of_aside (.refl _)
  | some u =>
      rw [Option.any_some]
      unfold Upload.isSent
      cases hst : u.stage with
      | captured frame =>
          rw [finishUpload_of_captured outcome hu hst, Bool.and_false]
          exact .of_aside (.refl _)
      | sent deadline =>
          rw [finishUpload_of_sent outcome hu hst, Bool.and_true]
          obtain ⟨hm, rfl⟩ := Device.mem_of_upload? hu
          split
          case isTrue hsuccess => exact .taken (hone.eq_of_mem hm) hsuccess
          case isFalse hfailure => exact .of_failed _ _ (by simpa using hfailure)

/-- What every step does to the trigger mode. -/
theorem apply_turns (pace : Pace) {s : Site σ H F} (hone : s.device.OneUpload) (step : Step) :
    Device.Turns (step.event? s.device (s.apply pace step).device) s.device
      (s.apply pace step).device := by
  cases htrigger : step.trigger? with
  | some mode =>
      cases hmode : mode.startsCapture with
      | true => exact turns_of_capture pace hone htrigger hmode
      | false =>
          cases mode with
          | stop => exact turns_of_stop pace s htrigger
          | single => cases hmode
          | continuous => cases hmode
  | none =>
      by_cases hfinish : ∃ generation outcome, step = .finishUpload generation outcome
      · obtain ⟨generation, outcome, rfl⟩ := hfinish
        exact turns_of_finish pace hone generation outcome
      · have hnone : step.event? s.device (s.apply pace step).device = none := by
          cases step with
          | finishUpload generation outcome => exact absurd ⟨generation, outcome, rfl⟩ hfinish
          | write feature value => simp only [Step.event?, htrigger]
          | _ => rfl
        rw [hnone]
        obtain ⟨new, hp⟩ := apply_publishes pace s step
        generalize s.apply pace step = s' at hp
        cases hp with
        | aside ha _ _ => exact .of_aside ha
        | halted hstep _ => rw [htrigger] at hstep; cases hstep
        | started hstep _ _ _ _ _ _ => rw [htrigger] at hstep; cases hstep
        | sent _ _ => exact .of_sent _ _ _ _
        | finished _ _ => exact absurd ⟨_, _, rfl⟩ hfinish

-- ============================================================== one run

/-- The states of a device whose steps are taken in any order, with the events
on the way, the latest first. -/
inductive Triggered : List TriggerEvent → Site σ H F → Prop
  | fresh (camera : σ) (id : DeviceId) (format : ImageFormat) (maxRetry : Nat) :
      Triggered [] { camera, device := Device.fresh id format maxRetry }
  | step {events : List TriggerEvent} {s : Site σ H F} (pace : Pace) (step : Step) :
      Triggered events s →
      Triggered ((step.event? s.device (s.apply pace step).device).toList ++ events)
        (s.apply pace step)
  /-- Something happens to the camera. -/
  | camera {events : List TriggerEvent} {s : Site σ H F} (camera : σ) :
      Triggered events s → Triggered events { s with camera }

theorem Triggered.reachable {events : List TriggerEvent} {s : Site σ H F}
    (h : Triggered events s) : s.Reachable := by
  induction h with
  | fresh camera id format maxRetry => exact .fresh camera id format maxRetry
  | step pace step _ ih => exact .step pace step ih
  | camera camera _ ih => exact .camera camera ih

theorem Reachable.triggered {s : Site σ H F} (h : s.Reachable) :
    ∃ events, Triggered events s := by
  induction h with
  | fresh camera id format maxRetry => exact ⟨[], .fresh camera id format maxRetry⟩
  | step pace step _ ih =>
      obtain ⟨events, ih⟩ := ih
      exact ⟨_, .step pace step ih⟩
  | camera camera _ ih =>
      obtain ⟨events, ih⟩ := ih
      exact ⟨events, .camera camera ih⟩

end Site

namespace Device

variable {d d' : Device H F} {events : List TriggerEvent}

/-- The record keeps abreast of the events. The count that an upload remembers
is the current one exactly if there was no stop since it started. -/
structure Abreast (events : List TriggerEvent) (d : Device H F) : Prop where
  mode : d.record.capture.trigger = TriggerEvent.lastEffective events
  pending : ∀ u ∈ d.uploads, u.generation ≤ d.record.triggerGeneration
    ∧ TriggerEvent.pending? u.generation events =
      if u.generation = d.record.triggerGeneration then some u.mode else none
  counted : ∀ g ∈ events.filterMap TriggerEvent.capture?, g ≤ d.record.triggerGeneration
  names : (events.filterMap TriggerEvent.capture?).Nodup

/-- A step and its event keep abreast. -/
theorem Abreast.turn {event : Option TriggerEvent} (h : d.Abreast events)
    (ht : Turns event d d') : d'.Abreast (event.toList ++ events) := by
  cases ht with
  | quiet huploads hgeneration htrigger =>
      refine ⟨htrigger.trans h.mode, ?_, hgeneration ▸ h.counted, h.names⟩
      intro u' hu'
      obtain ⟨u, hu, hug, hum⟩ := huploads u' hu'
      rw [hgeneration, hug, hum]
      exact h.pending u hu
  | stopped =>
      refine ⟨rfl, ?_, ?_, h.names⟩
      · -- the count rises, so every upload is a stale one
        intro u hu
        have hle := (h.pending u hu).1
        exact ⟨Nat.le_succ_of_le hle, (if_neg (Nat.ne_of_lt (Nat.lt_succ_of_le hle))).symm⟩
      · intro g hg
        exact Nat.le_succ_of_le (h.counted g hg)
  | @started _ _ mode u hidle huploads hu hmode hgeneration htrigger =>
      -- every earlier capture has a smaller count
      have hfresh : d.record.triggerGeneration + 1
          ∉ events.filterMap TriggerEvent.capture? := by
        intro hm
        exact absurd (h.counted _ hm) (Nat.not_succ_le_self _)
      refine ⟨htrigger.trans h.mode, ?_, ?_, List.nodup_cons.mpr ⟨hfresh, h.names⟩⟩
      · -- the new upload's mode is pending under its own count
        intro u' hu'
        rw [huploads, List.mem_singleton] at hu'
        rw [hu', hu, hgeneration, hmode]
        refine ⟨Nat.le_refl _, ?_⟩
        simp [TriggerEvent.pending?]
      · intro g hg
        rw [hgeneration]
        rcases List.mem_cons.mp hg with rfl | hg
        · exact Nat.le_refl _
        · exact Nat.le_succ_of_le (h.counted g hg)
  | @taken _ u outcome hu hsuccess =>
      have hpending := (h.pending u (hu ▸ List.mem_singleton_self u)).2
      have hgeneration : (d.finished u outcome).record.triggerGeneration
          = d.record.triggerGeneration := by
        simp only [finished, modifyRecord]
        split <;> rfl
      refine ⟨?_, ?_, hgeneration ▸ h.counted, h.names⟩
      · -- the answer takes effect if its count is still the last
        show _ = (TriggerEvent.pending? u.generation events).getD
          (TriggerEvent.lastEffective events)
        rw [hpending, ← h.mode]
        by_cases hg : u.generation = d.record.triggerGeneration
        · -- the upload of the last capture
          rw [if_pos hg]
          simp [finished, modifyRecord, hsuccess, hg]
        · -- a capture or a stop came between
          rw [if_neg hg]
          simp [finished, modifyRecord, Ne.symm hg]
      · -- no upload is left
        rw [finished_uploads hu]
        intro v hv
        cases hv

end Device

namespace TriggerEvent

/-- Nothing is pending of a capture of before a stop. -/
theorem pending?_of_stopped {generation : Nat} {later : List TriggerEvent}
    (h : generation ∉ later.filterMap capture?) (earlier : List TriggerEvent) :
    pending? generation (later ++ .stopped :: earlier) = none := by
  induction later with
  | nil => rfl
  | cons event later ih =>
      cases event with
      | stopped => rfl
      | started g mode =>
          show (if g = generation then _ else _) = none
          rw [if_neg (List.ne_of_not_mem_cons h).symm]
          exact ih (List.not_mem_of_not_mem_cons h)
      | taken g => exact ih h

end TriggerEvent

namespace Site

variable [Camera σ H F]

/-- In every state the mode is what the events say. -/
theorem Triggered.abreast {events : List TriggerEvent} {s : Site σ H F}
    (h : Triggered events s) : s.device.Abreast events := by
  induction h with
  | fresh camera id format maxRetry =>
      refine ⟨rfl, ?_, ?_, List.nodup_nil⟩
      · intro u hu
        cases hu
      · intro g hg
        cases hg
  | step pace step h ih => exact ih.turn (apply_turns pace h.reachable.oneUpload step)
  | camera camera _ ih => exact ih

-- ========================================================== no overwriting

/-- An upload that is answered after a stop leaves the mode alone if its
capture was before the stop. -/
theorem Triggered.finish_of_stale {earlier later : List TriggerEvent} {s : Site σ H F}
    (h : Triggered (later ++ .stopped :: earlier) s) {generation : Nat}
    (hg : generation ∈ earlier.filterMap TriggerEvent.capture?) (pace : Pace)
    (outcome : UploadOutcome) :
    (s.apply pace (.finishUpload generation outcome)).device.record.capture.trigger
      = s.device.record.capture.trigger := by
  have hnames := h.abreast.names
  rw [List.filterMap_append, List.nodup_append] at hnames
  have hlater : generation ∉ later.filterMap TriggerEvent.capture? := by
    intro hm
    exact hnames.2.2 generation hm generation hg rfl
  have hpending := TriggerEvent.pending?_of_stopped hlater earlier
  have hafter := (h.step pace (.finishUpload generation outcome)).abreast.mode
  rw [hafter, h.abreast.mode, Step.event?_finishUpload]
  split
  · show (TriggerEvent.pending? generation (later ++ .stopped :: earlier)).getD _ = _
    rw [hpending]
    rfl
  · rfl

/-- A step leaves the mode alone if it is no stop that is accepted, nor the end
of an upload whose image was taken. -/
theorem apply_keeps_trigger (pace : Pace) {s : Site σ H F} {step : Step}
    (hstop : step.trigger? = some .stop → s.device.status ≠ .connected)
    (hfinish : ∀ generation outcome, step = .finishUpload generation outcome →
      outcome.isSuccess = false) :
    (s.apply pace step).device.record.capture.trigger = s.device.record.capture.trigger := by
  obtain ⟨new, hp⟩ := apply_publishes pace s step
  generalize s.apply pace step = s' at hp
  cases hp with
  | aside ha _ _ => exact ha.trigger
  | halted hstep hs => exact absurd hs (hstop hstep)
  | started _ _ _ _ _ _ _ => rfl
  | sent _ _ => rfl
  | @finished _ generation _ outcome u _ _ =>
      have hfailure := hfinish generation outcome rfl
      simp [onDevice, Device.finished, Device.modifyRecord, hfailure]

/-- The last effective trigger wins. Whatever the order of steps, the stored
mode is a function of what has happened: that of the last stop, or of the last
image that was taken with no stop since its capture. So an upload that was
started before a stop never overwrites it, whatever came later. All other
steps leave the mode alone: triggers that are invalid, refused or dropped, or
whose capture fails, or that only start an upload, and uploads that fail. And
the end of an upload touches nothing but the uploads, the busy mark and the
mode; sending its request touches no field of the record. -/
theorem Reachable.last_trigger_wins {s : Site σ H F} (h : s.Reachable) :
    (∃ events, Triggered events s)
      ∧ (∀ events, Triggered events s →
          s.device.record.capture.trigger = TriggerEvent.lastEffective events
            ∧ (events.filterMap TriggerEvent.capture?).Nodup)
      ∧ (∀ earlier later, Triggered (later ++ .stopped :: earlier) s →
          ∀ generation ∈ earlier.filterMap TriggerEvent.capture?,
          ∀ (pace : Pace) (outcome : UploadOutcome),
            (s.apply pace (.finishUpload generation outcome)).device.record.capture.trigger
              = s.device.record.capture.trigger)
      ∧ (∀ (pace : Pace) (step : Step),
          (step.trigger? = some .stop → s.device.status ≠ .connected) →
          (∀ generation outcome, step = .finishUpload generation outcome →
            outcome.isSuccess = false) →
          (s.apply pace step).device.record.capture.trigger = s.device.record.capture.trigger)
      ∧ (∀ (pace : Pace) (generation : Nat) (outcome : UploadOutcome),
          ∃ uploads publishBusy trigger, s.apply pace (.finishUpload generation outcome) =
            { s with
              device :=
                { s.device with
                  uploads
                  record :=
                    { s.device.record with
                      publishBusy
                      capture := { s.device.record.capture with trigger } } } })
      ∧ ∀ (pace : Pace) (now generation : Nat),
          (s.apply pace (.sendUpload now generation)).device.toEntry = s.device.toEntry := by
  refine ⟨h.triggered, ?_, ?_, ?_, ?_, ?_⟩
  · -- the mode that is stored follows from the events
    intro events ht
    exact ⟨ht.abreast.mode, ht.abreast.names⟩
  · -- an answer to a capture before a stop
    intro earlier later ht generation hg pace outcome
    exact ht.finish_of_stale hg pace outcome
  · -- a step that sends no mode and answers no upload
    intro pace step hstop hfinish
    exact apply_keeps_trigger pace hstop hfinish
  · -- an answer touches nothing else
    intro pace generation outcome
    exact finishUpload_frame generation outcome s
  · -- sending an upload touches no part of the record
    intro pace now generation
    exact sendUpload_entry pace.timeout now generation s

/-- The answer to a single image comes after a stop and is without effect; that
to the continuous image after it counts. -/
theorem Reachable.last_trigger_wins_after_late_reply :
    let camera := (simulated ⟨"a"⟩ 3).camera.setFrame ⟨"a"⟩ [1, 2]
    let s := Site.run ⟨10, 100⟩ { simulated ⟨"a"⟩ 3 with camera }
      [.connect, .reach 0, .resume 0 0, .write "ImageURL" (.text "http://[::1]/"),
        .write "ImageTrigger" (.text "single"), .sendUpload 0 1,
        .write "ImageTrigger" (.text "stop"), .finishUpload 1 (.answered 200),
        .write "ImageTrigger" (.text "continuous"), .sendUpload 0 3,
        .finishUpload 3 (.answered 200)]
    s.device.record.capture.trigger = .continuous
      ∧ ∃ events, Triggered events s
        ∧ s.device.record.capture.trigger = TriggerEvent.lastEffective events := by
  intro camera s
  have hmode : s.device.record.capture.trigger = .continuous := by decide +kernel
  have hr : s.Reachable := ((Reachable.fresh _ _ _ _).camera camera).run _ _
  obtain ⟨⟨events, ht⟩, hlast, -⟩ := Reachable.last_trigger_wins hr
  exact ⟨hmode, events, ht, (hlast events ht).1⟩

end Site

end CameraDriver
