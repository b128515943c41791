/-
What a step does to the uploads of a device, told once.

The side of a device that captures and reports images is small: the uploads
that have not finished, the busy mark, the generation of triggers, the stored
trigger mode. Most steps leave all of it alone and say nothing of images in the
log; `Device.Aside` says so. The four kinds that do not are the other
constructors of `Site.Publishes`, with their guards as premises.

# Frames

The log notes that a frame was grabbed or given back, but not which one. A
`Handling` names the frame, and `Publishes` carries along the handlings of a
step, the latest first: the frame that `Camera.grabImage` answered, the frame
that `Camera.freeImage` was passed, the request that went out.
-/
import CameraDriver.Proofs.Device.Inversion

namespace CameraDriver

variable {σ H F : Type}

-- =============================================================== handlings

/-- What is done with the frame of an image, or with the image. -/
inductive Handling (F : Type) where
  | grabbed (frame : F)
  | freed (frame : F)
  | posted (request : Request)

/-- Whether an event is about an image: a grab that gave one, its buffer that
goes back, its request. -/
def Event.isImage : Event → Bool
  | .grabbed _ _ (.ok _) => true
  | .freed => true
  | .posted _ => true
  | _ => false

/-- The mode that a step writes to the trigger. -/
def Site.Step.trigger? : Site.Step → Option TriggerMode
  | .write feature value =>
      if feature = VirtualFeature.imageTrigger.name then
        match value.wire with
        | .ok text => TriggerMode.ofName? text
        | .error _ => none
      else none
  | _ => none

namespace Device

-- =================================================================== aside

/-- Uploads and triggers were left alone, and nothing was done with a frame. -/
structure Aside (d d' : Device H F) : Prop where
  uploads : d'.uploads = d.uploads
  publishBusy : d'.record.publishBusy = d.record.publishBusy
  triggerGeneration : d'.record.triggerGeneration = d.record.triggerGeneration
  trigger : d'.record.capture.trigger = d.record.capture.trigger
  log : ∃ events, d'.log = events ++ d.log ∧ ∀ e ∈ events, e.isImage = false

theorem Aside.refl (d : Device H F) : d.Aside d :=
  ⟨rfl, rfl, rfl, rfl, [], rfl, fun e he => by cases he⟩

theorem Aside.trans {d d' d'' : Device H F} (h : d.Aside d') (h' : d'.Aside d'') :
    d.Aside d'' := by
  obtain ⟨events, hlog, hnone⟩ := h.log
  obtain ⟨events', hlog', hnone'⟩ := h'.log
  refine ⟨h'.uploads.trans h.uploads, h'.publishBusy.trans h.publishBusy,
    h'.triggerGeneration.trans h.triggerGeneration, h'.trigger.trans h.trigger,
    events' ++ events, ?_, ?_⟩
  · rw [hlog', hlog, List.append_assoc]
  · intro e he
    rcases List.mem_append.mp he with he | he
    · exact hnone' e he
    · exact hnone e he

/-- A note of something else. -/
theorem aside_note (d : Device H F) {e : Event} (he : e.isImage = false) : d.Aside (d.note e) := by
  refine ⟨rfl, rfl, rfl, rfl, [e], rfl, ?_⟩
  intro x hx
  rw [List.mem_singleton.mp hx]
  exact he

/-- Nothing but closes is noted. -/
theorem Aside.of_closing {d d' : Device H F} (uploads : d'.uploads = d.uploads)
    (publishBusy : d'.record.publishBusy = d.record.publishBusy)
    (triggerGeneration : d'.record.triggerGeneration = d.record.triggerGeneration)
    (capture : d'.record.capture = d.record.capture)
    (log : d'.log = d.closing.map (·.event) ++ d.log) : d.Aside d' := by
  refine ⟨uploads, publishBusy, triggerGeneration, congrArg Capture.trigger capture,
    d.closing.map (·.event), log, ?_⟩
  intro e he
  rw [closing_events] at he
  cases hh : d.record.handle with
  | none => simp [hh] at he
  | some c =>
      simp only [hh, Option.map_some, Option.toList_some, List.mem_singleton] at he
      rw [he]
      rfl

/-- Nothing is noted. -/
theorem Aside.of_silent {d d' : Device H F} (uploads : d'.uploads = d.uploads)
    (publishBusy : d'.record.publishBusy = d.record.publishBusy)
    (triggerGeneration : d'.record.triggerGeneration = d.record.triggerGeneration)
    (trigger : d'.record.capture.trigger = d.record.capture.trigger)
    (log : d'.log = d.log) : d.Aside d' :=
  ⟨uploads, publishBusy, triggerGeneration, trigger, [], log, fun e he => by cases he⟩

/-- Closing the connection happens beside uploads. -/
theorem aside_detached (d : Device H F) : d.Aside d.detached :=
  .of_closing (detached_uploads d) (by rw [detached_record]) (by rw [detached_record])
    (by rw [detached_record]) (detached_log d)

/-- The calls of a change are what is noted of it. -/
theorem Change.log {pace : Site.Pace} {step : Site.Step} {d d' : Device H F}
    {calls : List (Call H)} (h : Change pace step d calls d') :
    d'.log = calls.map (·.event) ++ d.log := by
  cases h with
  | beside _ hb => exact hb.log
  | failed _ _ hb _ => exact hb.log
  | stopped => exact stopped_log d
  | @connected _ _ token k c _ _ _ => exact connectedBy_log d token c
  | loopEnded _ _ _ => exact detached_log d
  | loopSpent _ _ _ _ => exact detached_log d
  | loopBegun _ _ _ _ => exact detached_log d
  | _ => rfl

/-- Requests to the link and the moves of its tasks stay aside, whatever they
close. -/
theorem Change.aside {pace : Site.Pace} {step : Site.Step} {d d' : Device H F}
    {calls : List (Call H)} (h : Change pace step d calls d') (hstep : step.isFeature = false) :
    d.Aside d' := by
  cases h with
  | still => exact .refl d
  | beside hf _ =>
      rw [hstep] at hf
      cases hf
  | failed hf _ _ _ =>
      rw [hstep] at hf
      cases hf
  | stopped =>
      exact .of_closing (stopped_uploads d) (by rw [stopped_record]) (by rw [stopped_record])
        (by rw [stopped_record]) (stopped_log d)
  | @connected _ now token k c _ _ _ =>
      have hr := connectedBy_record d token c
      exact .of_closing (connectedBy_uploads d token c) (by rw [hr]) (by rw [hr]) (by rw [hr])
        (connectedBy_log d token c)
  | loopEnded _ _ _ => exact (aside_detached d).trans (.of_silent rfl rfl rfl rfl rfl)
  | loopSpent _ _ _ _ => exact (aside_detached d).trans (.of_silent rfl rfl rfl rfl rfl)
  | loopBegun _ _ _ _ => exact (aside_detached d).trans (.of_silent rfl rfl rfl rfl rfl)
  | opened _ _ handle =>
      exact (d.aside_note (e := .opened (.ok (d.opened + 1))) rfl).trans
        (.of_silent rfl rfl rfl rfl rfl)
  | refused _ _ e =>
      exact (d.aside_note (e := .opened (.error e)) rfl).trans (.of_silent rfl rfl rfl rfl rfl)
  | @dropped _ _ _ _ c _ _ _ =>
      exact (d.aside_note (e := .closed c.number) rfl).trans (.of_silent rfl rfl rfl rfl rfl)
  | begun _ _ => exact .of_silent rfl rfl rfl rfl rfl
  | lost _ => exact .of_silent rfl rfl rfl rfl rfl
  | broken _ _ e => exact .of_silent rfl rfl rfl rfl rfl
  | ended _ _ _ => exact .of_silent rfl rfl rfl rfl rfl
  | handedOver _ _ _ => exact .of_silent rfl rfl rfl rfl rfl
  | retried _ _ _ _ => exact .of_silent rfl rfl rfl rfl rfl
  | exhausted _ _ _ _ => exact .of_silent rfl rfl rfl rfl rfl
  | woken _ _ _ _ => exact .of_silent rfl rfl rfl rfl rfl

-- ================================================================= endings

/-- The device whose trigger was stopped. -/
def halted (d : Device H F) : Device H F :=
  d.modifyRecord fun r =>
    { r.nextGeneration with capture := { r.capture with trigger := .stop } }

/-- The device that has grabbed a frame of some size, and its upload. -/
def captured (d : Device H F) (c : Connection H) (mode : TriggerMode) (endpoint : Url) (frame : F)
    (size : Nat) : Device H F :=
  { (d.note (.grabbed c.number d.record.capture.format.name (.ok size))).modifyRecord fun r =>
      { r.nextGeneration with publishBusy := true } with
    uploads := d.uploads ++
      [{ generation := d.record.triggerGeneration + 1, mode, endpoint, stage := .captured frame }] }

/-- The device whose upload has given its frame back and sent its request. -/
def sent (d : Device H F) (generation deadline : Nat) (request : Request) : Device H F :=
  { (d.note .freed).note (.posted request) with
    uploads := d.uploads.map fun u =>
      if u.generation = generation then { u with stage := .sent deadline } else u }

/-- The device whose upload has ended. -/
def finished (d : Device H F) (u : Upload F) (outcome : UploadOutcome) : Device H F :=
  { d with uploads := d.uploads.filter (·.generation ≠ u.generation) }.modifyRecord fun r =>
    let kept : Record (Connection H) :=
      if outcome.isSuccess && r.triggerGeneration = u.generation then
        { r with capture := { r.capture with trigger := u.mode } }
      else r
    { kept with publishBusy := false }

/-- What is found is there, under its generation. -/
theorem mem_of_upload? {d : Device H F} {generation : Nat} {u : Upload F}
    (hu : d.upload? generation = some u) : u ∈ d.uploads ∧ u.generation = generation := by
  unfold upload? at hu
  exact ⟨List.mem_of_find?_eq_some hu, by simpa using List.find?_some hu⟩

end Device

namespace Site

variable [Camera σ H F]

-- ============================================================== publishing

/-- What a step can do to the uploads of a device, and its handlings. -/
inductive Publishes (pace : Pace) :
    Step → Site σ H F → List (Handling F) → Site σ H F → Prop
  /-- The camera was asked other things, if any. -/
  | aside {step : Step} {s s' : Site σ H F} {calls : List (Call H)}
      (h : s.device.Aside s'.device) (hserved : Served s.camera calls s'.camera)
      (hcalls : ∀ x ∈ calls, x.event.isImage = false) : Publishes pace step s [] s'
  | halted {step : Step} {s : Site σ H F} (hstep : step.trigger? = some .stop)
      (hs : s.device.status = .connected) :
      Publishes pace step s [] (s.onDevice (·.halted))
  | started {step : Step} {s : Site σ H F} {mode : TriggerMode} {endpoint : Url}
      {c : Connection H} {frame : F} {camera : σ} (hstep : step.trigger? = some mode)
      (hmode : mode.startsCapture = true) (hs : s.device.status = .connected)
      (hendpoint : s.device.record.capture.endpoint = some endpoint)
      (hbusy : s.device.record.publishBusy = false) (hc : s.device.record.handle = some c)
      (hgrab : Camera.grabImage c.handle s.device.record.capture.format.name s.camera
        = (.ok frame, camera)) :
      Publishes pace step s [.grabbed frame]
        { camera
          device := s.device.captured c mode endpoint frame (Camera.frameBytes σ frame).length }
  | sent {s : Site σ H F} {now generation : Nat} {u : Upload F} {frame : F}
      (hu : s.device.upload? generation = some u) (hst : u.stage = .captured frame) :
      Publishes pace (.sendUpload now generation) s
        [.posted (Request.ofImage u.endpoint (Camera.frameBytes σ frame)), .freed frame]
        { camera := Camera.freeImage frame s.camera
          device := s.device.sent generation (now + pace.timeout)
            (Request.ofImage u.endpoint (Camera.frameBytes σ frame)) }
  | finished {s : Site σ H F} {generation deadline : Nat} {outcome : UploadOutcome} {u : Upload F}
      (hu : s.device.upload? generation = some u) (hst : u.stage = .sent deadline) :
      Publishes pace (.finishUpload generation outcome) s [] (s.onDevice (·.finished u outcome))

/-- A step that leaves uploads and triggers alone asks nothing of the camera
that its log does not tell. -/
theorem publishes_of_aside {pace : Pace} {step : Step} {s : Site σ H F}
    (h : s.device.Aside (s.apply pace step).device) :
    ∃ new, Publishes pace step s new (s.apply pace step) := by
  obtain ⟨calls, hch, hserved⟩ := apply_does pace s step
  obtain ⟨events, hlog, hnone⟩ := h.log
  have hevents : calls.map (·.event) = events :=
    List.append_cancel_right (hch.log.symm.trans hlog)
  refine ⟨[], .aside h hserved ?_⟩
  intro x hx
  exact hnone _ (hevents ▸ List.mem_map_of_mem hx)

-- =================================================================== calls

omit [Camera σ H F] in
theorem linkDown_aside (epoch : Nat) (s : Site σ H F) :
    s.device.Aside (s.linkDown epoch).2.device := by
  rcases linkDown_device epoch s with hd | ⟨-, -, hd⟩ <;> rw [hd]
  · exact .refl _
  · exact .of_silent rfl rfl rfl rfl rfl

omit [Camera σ H F] in
theorem failure_aside (epoch : Nat) (action feature : String) (e : HardwareError)
    (s : Site σ H F) : s.device.Aside (s.failure epoch action feature e).2.device := by
  unfold failure
  split
  · exact linkDown_aside epoch s
  · exact .refl _

theorem readDevice_aside (feature : String) (c : Connection H) (s : Site σ H F) :
    s.device.Aside (s.readDevice feature c).2.device := by
  unfold readDevice
  generalize Camera.readFeature c.handle feature s.camera = answer
  obtain ⟨result, camera⟩ := answer
  have hn := s.device.aside_note (e := .read c.number feature result) rfl
  cases result with
  | ok value => exact hn
  | error e => exact hn.trans (failure_aside _ "get" feature e ⟨camera, _⟩)

theorem writeDevice_aside (feature text : String) (c : Connection H) (s : Site σ H F) :
    s.device.Aside (s.writeDevice feature text c).2.device := by
  unfold writeDevice
  generalize Camera.writeFeature c.handle feature text s.camera = answer
  obtain ⟨result, camera⟩ := answer
  have hn := s.device.aside_note (e := .written c.number feature text result) rfl
  cases result with
  | ok value => exact hn
  | error e => exact hn.trans (failure_aside _ "set" feature e ⟨camera, _⟩)

theorem read_aside (feature : String) (s : Site σ H F) :
    s.device.Aside (s.read feature).2.device := by
  unfold read
  split
  · exact .refl _
  · split
    · exact .refl _
    · split
      · exact .refl _
      · exact readDevice_aside _ _ _

-- ================================================================ triggers

/-- What a trigger does: it is dropped, or the capture fails, or a frame is
grabbed and its upload started. -/
theorem trigger_cases (mode : TriggerMode) (s : Site σ H F) :
    (∃ answer, s.trigger mode = (.ok answer, s))
      ∨ (∃ e m, s.trigger mode = (.error e, m) ∧ s.device.Aside m.device)
      ∨ ∃ endpoint c frame camera, s.device.record.capture.endpoint = some endpoint
        ∧ s.device.record.publishBusy = false ∧ s.device.record.handle = some c
        ∧ Camera.grabImage c.handle s.device.record.capture.format.name s.camera
          = (.ok frame, camera)
        ∧ s.trigger mode = (.ok .started,
            { camera
              device := s.device.captured c mode endpoint frame
                (Camera.frameBytes σ frame).length }) := by
  unfold trigger
  dsimp only
  split
  next => exact .inl ⟨_, rfl⟩
  next endpoint hendpoint =>
    split
    case isTrue => exact .inl ⟨_, rfl⟩
    case isFalse hbusy =>
      split
      next => exact .inr (.inl ⟨_, s, rfl, .refl _⟩)
      next c hc =>
        cases hgrab : Camera.grabImage c.handle s.device.record.capture.format.name s.camera with
        | mk result camera =>
          cases result with
          | error e =>
              exact .inr (.inl ⟨e, _, rfl, s.device.aside_note (e := .grabbed _ _ (.error e)) rfl⟩)
          | ok frame =>
              have hbusy : s.device.record.publishBusy = false := by simpa using hbusy
              exact .inr (.inr ⟨endpoint, c, frame, camera, hendpoint, hbusy, hc, hgrab, rfl⟩)

/-- While an upload has not finished a trigger is dropped. -/
theorem trigger_of_busy {s : Site σ H F} (mode : TriggerMode)
    (hbusy : s.device.record.publishBusy = true) : ∃ answer, s.trigger mode = (.ok answer, s) := by
  unfold trigger
  dsimp only
  split
  · exact ⟨_, rfl⟩
  · rw [if_pos hbusy]
    exact ⟨_, rfl⟩

/-- Writing the trigger of a device that is not connected changes nothing. -/
theorem apply_trigger (pace : Pace) (s : Site σ H F) {step : Step} {mode : TriggerMode}
    (hstep : step.trigger? = some mode) :
    s.apply pace step = if s.device.status.isConnected then s.writeTrigger mode else s := by
  cases step with
  | write feature value =>
      unfold Step.trigger? at hstep
      dsimp only at hstep
      split at hstep
      case isFalse => cases hstep
      case isTrue hfeature =>
        split at hstep
        next text hw =>
          have hmode : VirtualFeature.triggerMode text = .ok mode := by
            unfold VirtualFeature.triggerMode
            rw [hstep]
          have hvirtual : VirtualFeature.ofName? feature = some .imageTrigger := by
            rw [hfeature]
            decide
          show (s.write feature value).2 = _
          unfold write
          rw [hw]
          dsimp only
          by_cases hs : s.device.status.isConnected = true
          · rw [if_neg (by simp [hs]), if_pos hs, hvirtual]
            unfold writeVirtual
            rw [hmode]
          · rw [if_pos (by simp [hs]), if_neg hs]
        next => cases hstep
  | _ => cases hstep

/-- The converse: what a write of the trigger writes, if it writes any. -/
theorem trigger?_write {feature text : String} {value : Value} {mode : TriggerMode}
    (hfeature : VirtualFeature.ofName? feature = some .imageTrigger) (hw : value.wire = .ok text)
    (hmode : VirtualFeature.triggerMode text = .ok mode) :
    (Step.write feature value).trigger? = some mode := by
  have hname : feature = VirtualFeature.imageTrigger.name := by
    unfold VirtualFeature.ofName? at hfeature
    have hn := List.find?_some hfeature
    simp only [beq_iff_eq] at hn
    exact hn.symm
  unfold Step.trigger?
  dsimp only
  rw [if_pos hname, hw]
  unfold VirtualFeature.triggerMode at hmode
  dsimp only
  split at hmode
  next m hm =>
    injection hmode with hmode
    rw [hm, hmode]
  next => cases hmode

/-- A trigger that is dropped changes neither device nor camera. -/
theorem apply_trigger_dropped (pace : Pace) {s : Site σ H F} {step : Step} {mode : TriggerMode}
    {answer : Triggered} (hstep : step.trigger? = some mode) (hmode : mode.startsCapture = true)
    (ht : s.trigger mode = (.ok answer, s)) : s.apply pace step = s := by
  rw [apply_trigger pace s hstep]
  split
  · unfold writeTrigger
    rw [if_pos hmode, ht]
  · rfl

/-- A trigger whose capture fails leaves uploads and triggers alone; if the
failure is hard, the link goes down. -/
theorem apply_trigger_failed (pace : Pace) {s : Site σ H F} {step : Step} {mode : TriggerMode}
    {e : HardwareError} (hstep : step.trigger? = some mode) (hmode : mode.startsCapture = true)
    (he : (s.trigger mode).1 = .error e) : s.device.Aside (s.apply pace step).device := by
  rw [apply_trigger pace s hstep]
  split
  · unfold writeTrigger
    rw [if_pos hmode]
    rcases trigger_cases mode s with ⟨answer, ht⟩ | ⟨e, m, ht, ha⟩ | ⟨_, _, _, _, -, -, -, -, ht⟩
    · -- nothing was grabbed
      rw [ht] at he
      cases he
    · -- the grab failed, and may report the link down
      rw [ht]
      dsimp only
      split
      · exact ha.trans (linkDown_aside _ m)
      · exact ha
    · -- the grab gave a frame
      rw [ht] at he
      cases he
  · -- the step changes nothing
    exact .refl _

-- =============================================================== inversion

theorem writeVirtual_aside {f : VirtualFeature} (text : String) (s : Site σ H F)
    (hf : f ≠ .imageTrigger) : s.device.Aside (s.writeVirtual f text).2.device := by
  unfold writeVirtual
  cases f with
  | imageTrigger => exact absurd rfl hf
  | imageFormat =>
      cases VirtualFeature.format text with
      | ok format => exact .of_silent rfl rfl rfl rfl rfl
      | error e => exact .refl _
  | imageUrl =>
      cases VirtualFeature.endpoint text with
      | ok endpoint => exact .of_silent rfl rfl rfl rfl rfl
      | error e => exact .refl _
  | maxRetryTimes =>
      cases VirtualFeature.maxRetry text with
      | ok maxRetry => exact .of_silent rfl rfl rfl rfl rfl
      | error e => exact .refl _

/-- A trigger on a connected device publishes at most one image. -/
theorem trigger_publishes (pace : Pace) {step : Step} {s : Site σ H F} {mode : TriggerMode}
    (hstep : step.trigger? = some mode) (hs : s.device.status = .connected) :
    ∃ new, Publishes pace step s new (s.apply pace step) := by
  have happly : s.apply pace step = s.writeTrigger mode := by
    rw [apply_trigger pace s hstep, hs]
    rfl
  by_cases hmode : mode.startsCapture = true
  · rcases trigger_cases mode s with ⟨answer, ht⟩ | ⟨e, m, ht, -⟩
      | ⟨endpoint, c, frame, camera, hendpoint, hbusy, hc, hgrab, ht⟩
    · -- the trigger was dropped
      refine publishes_of_aside ?_
      rw [apply_trigger_dropped pace hstep hmode ht]
      exact .refl _
    · -- the capture failed
      exact publishes_of_aside (apply_trigger_failed pace hstep hmode (by rw [ht]))
    · -- the capture gave a frame
      rw [happly]
      unfold writeTrigger
      rw [if_pos hmode, ht]
      exact ⟨_, .started hstep hmode hs hendpoint hbusy hc hgrab⟩
  · -- the trigger is the stop
    rw [happly]
    cases mode with
    | stop => exact ⟨[], .halted hstep hs⟩
    | single => exact absurd rfl hmode
    | continuous => exact absurd rfl hmode

/-- A write stays aside, unless it writes the trigger of a connected device. -/
theorem write_cases (feature : String) (value : Value) (s : Site σ H F) :
    s.device.Aside (s.write feature value).2.device
      ∨ s.device.status = .connected
        ∧ ∃ mode, (Step.write feature value).trigger? = some mode := by
  unfold write
  split
  next => exact .inl (.refl _)
  next text hw =>
    split
    case isTrue => exact .inl (.refl _)
    case isFalse hs =>
      have hs : s.device.status = .connected := status_of_isConnected (by simpa using hs)
      split
      next f hf =>
        by_cases hfi : f = .imageTrigger
        · subst hfi
          unfold writeVirtual
          dsimp only
          split
          next mode hmode => exact .inr ⟨hs, mode, trigger?_write hf hw hmode⟩
          next => exact .inl (.refl _)
        · exact .inl (writeVirtual_aside text s hfi)
      next =>
        split
        next => exact .inl (.refl _)
        next c _ => exact .inl (writeDevice_aside feature text c s)

/-- A captured frame is freed before its request is sent. -/
theorem sendUpload_of_captured (timeout now : Nat) {s : Site σ H F} {generation : Nat}
    {u : Upload F} {frame : F} (hu : s.device.upload? generation = some u)
    (hst : u.stage = .captured frame) :
    s.sendUpload timeout now generation =
      { camera := Camera.freeImage frame s.camera
        device := s.device.sent generation (now + timeout)
          (Request.ofImage u.endpoint (Camera.frameBytes σ frame)) } := by
  obtain ⟨g, mode, endpoint, stage⟩ := u
  dsimp only at hst
  subst hst
  unfold sendUpload
  rw [hu]
  rfl

/-- What has sent its request sends nothing more. -/
theorem sendUpload_of_sent (timeout now : Nat) {s : Site σ H F} {generation deadline : Nat}
    {u : Upload F} (hu : s.device.upload? generation = some u) (hst : u.stage = .sent deadline) :
    s.sendUpload timeout now generation = s := by
  obtain ⟨g, mode, endpoint, stage⟩ := u
  dsimp only at hst
  subst hst
  unfold sendUpload
  rw [hu]

omit [Camera σ H F] in
/-- What has sent nothing does not end. -/
theorem finishUpload_of_captured {s : Site σ H F} {generation : Nat} {u : Upload F} {frame : F}
    (outcome : UploadOutcome) (hu : s.device.upload? generation = some u)
    (hst : u.stage = .captured frame) : s.finishUpload generation outcome = s := by
  obtain ⟨g, mode, endpoint, stage⟩ := u
  dsimp only at hst
  subst hst
  unfold finishUpload
  rw [hu]

omit [Camera σ H F] in
/-- An upload that was sent ends. -/
theorem finishUpload_of_sent {s : Site σ H F} {generation deadline : Nat} {u : Upload F}
    (outcome : UploadOutcome) (hu : s.device.upload? generation = some u)
    (hst : u.stage = .sent deadline) :
    s.finishUpload generation outcome = s.onDevice (·.finished u outcome) := by
  have hg := (Device.mem_of_upload? hu).2
  obtain ⟨g, mode, endpoint, stage⟩ := u
  dsimp only at hst hg
  subst hst hg
  unfold finishUpload
  rw [hu]
  rfl

/-- Sending an upload publishes no further image. -/
theorem sendUpload_publishes (pace : Pace) (now generation : Nat) (s : Site σ H F) :
    ∃ new, Publishes pace (.sendUpload now generation) s new
      (s.apply pace (.sendUpload now generation)) := by
  have happly : s.apply pace (.sendUpload now generation)
      = s.sendUpload pace.timeout now generation := rfl
  cases hu : s.device.upload? generation with
  | none =>
      refine publishes_of_aside ?_
      rw [happly]
      unfold sendUpload
      rw [hu]
      exact .refl _
  | some u =>
      cases hst : u.stage with
      | captured frame =>
          rw [happly, sendUpload_of_captured pace.timeout now hu hst]
          exact ⟨_, .sent hu hst⟩
      | sent deadline =>
          refine publishes_of_aside ?_
          rw [happly, sendUpload_of_sent pace.timeout now hu hst]
          exact .refl _

/-- The end of an upload publishes no further image. -/
theorem finishUpload_publishes (pace : Pace) (generation : Nat) (outcome : UploadOutcome)
    (s : Site σ H F) :
    ∃ new, Publishes pace (.finishUpload generation outcome) s new
      (s.apply pace (.finishUpload generation outcome)) := by
  have happly : s.apply pace (.finishUpload generation outcome)
      = s.finishUpload generation outcome := rfl
  cases hu : s.device.upload? generation with
  | none =>
      refine publishes_of_aside ?_
      rw [happly]
      unfold finishUpload
      rw [hu]
      exact .refl _
  | some u =>
      cases hst : u.stage with
      | captured frame =>
          refine publishes_of_aside ?_
          rw [happly, finishUpload_of_captured outcome hu hst]
          exact .refl _
      | sent deadline =>
          rw [happly, finishUpload_of_sent outcome hu hst]
          exact ⟨[], .finished hu hst⟩

/-- Every step stays aside or publishes. -/
theorem apply_publishes (pace : Pace) (s : Site σ H F) (step : Step) :
    ∃ new, Publishes pace step s new (s.apply pace step) := by
  have hlink : step.isFeature = false → ∃ new, Publishes pace step s new (s.apply pace step) := by
    intro hstep
    obtain ⟨calls, hch⟩ := apply_change pace s step
    exact publishes_of_aside (hch.aside hstep)
  cases step with
  | read feature => exact publishes_of_aside (read_aside feature s)
  | write feature value =>
      rcases write_cases feature value s with ha | ⟨hs, mode, hstep⟩
      · exact publishes_of_aside ha
      · exact trigger_publishes pace hstep hs
  | target feature => exact publishes_of_aside (.of_silent rfl rfl rfl rfl rfl)
  | sendUpload now generation => exact sendUpload_publishes pace now generation s
  | finishUpload generation outcome => exact finishUpload_publishes pace generation outcome s
  | _ => exact hlink rfl

end Site

end CameraDriver
