/-
What steps leave of a record as it was, beyond what link tasks work with.

The active feature is set by targeting one, and the format, the endpoint and the
retry budget by writing a virtual feature; nothing else sets them
(`apply_wishes`). A device takes a write only while it is connected, so that a loop
finds the budget of the moment at which its link went down. And an upload that ends
reaches into the record at two places.
-/
import CameraDriver.Proofs.Device.Publishing

namespace CameraDriver

variable {σ H F : Type}

/-- What a record holds because a caller has asked for it. -/
structure Wishes where
  activeFeature : String
  format : ImageFormat
  endpoint : Option Url
  maxRetry : Nat

/-- What callers have asked for, of all that a record holds. -/
def Record.wishes (r : Record H) : Wishes :=
  { activeFeature := r.activeFeature
    format := r.capture.format
    endpoint := r.capture.endpoint
    maxRetry := r.maxRetry }

/-- Closing the connection leaves callers' wishes alone. -/
theorem Device.detached_wishes (d : Device H F) : d.detached.record.wishes = d.record.wishes := by
  rw [detached_record]
  rfl

/-- Requests to the link and moves of its tasks leave what callers have asked for. -/
theorem Device.Change.wishes {pace : Site.Pace} {step : Site.Step} {d d' : Device H F}
    {calls : List (Call H)} (h : Device.Change pace step d calls d')
    (hstep : step.isFeature = false) : d'.record.wishes = d.record.wishes := by
  cases h with
  | beside hf _ =>
      rw [hstep] at hf
      cases hf
  | failed hf _ _ _ =>
      rw [hstep] at hf
      cases hf
  | stopped =>
      rw [Device.stopped_record]
      rfl
  | @connected _ _ token _ c _ _ _ =>
      rw [Device.connectedBy_record]
      rfl
  | loopEnded _ _ _ => exact Device.detached_wishes d
  | loopSpent _ _ _ _ => exact Device.detached_wishes d
  | loopBegun _ _ _ _ => exact Device.detached_wishes d
  | _ => rfl

namespace Site

-- =============================================================== uploads

/-- The end of an upload touches the uploads, the busy mark and the mode. -/
theorem finishUpload_frame (generation : Nat) (outcome : UploadOutcome) (s : Site σ H F) :
    ∃ uploads publishBusy trigger, s.finishUpload generation outcome =
      { s with
        device :=
          { s.device with
            uploads
            record :=
              { s.device.record with
                publishBusy
                capture := { s.device.record.capture with trigger } } } } := by
  cases hu : s.device.upload? generation with
  | none =>
      refine ⟨s.device.uploads, s.device.record.publishBusy, s.device.record.capture.trigger, ?_⟩
      unfold finishUpload
      rw [hu]
  | some u =>
      cases hst : u.stage with
      | captured frame =>
          exact ⟨s.device.uploads, s.device.record.publishBusy, s.device.record.capture.trigger,
            finishUpload_of_captured outcome hu hst⟩
      | sent deadline =>
          refine ⟨s.device.uploads.filter (·.generation ≠ u.generation), false,
            (s.device.finished u outcome).record.capture.trigger, ?_⟩
          rw [finishUpload_of_sent outcome hu hst]
          simp only [onDevice, Device.finished, Device.modifyRecord]
          split <;> rfl

variable [Camera σ H F]

/-- While an upload sends its request the record stays as it is. -/
theorem sendUpload_entry (timeout now generation : Nat) (s : Site σ H F) :
    (s.sendUpload timeout now generation).device.toEntry = s.device.toEntry := by
  unfold sendUpload
  split <;> rfl

-- ================================================================ wishes

omit [Camera σ H F] in
theorem linkDown_wishes (epoch : Nat) (s : Site σ H F) :
    (s.linkDown epoch).2.device.record.wishes = s.device.record.wishes := by
  unfold linkDown
  split <;> rfl

omit [Camera σ H F] in
theorem failure_wishes (epoch : Nat) (action feature : String) (e : HardwareError)
    (s : Site σ H F) :
    (s.failure epoch action feature e).2.device.record.wishes = s.device.record.wishes := by
  unfold failure
  split
  · exact linkDown_wishes epoch s
  · rfl

theorem trigger_wishes (mode : TriggerMode) (s : Site σ H F) :
    (s.trigger mode).2.device.record.wishes = s.device.record.wishes := by
  unfold trigger
  dsimp only
  split
  · rfl
  · split
    · rfl
    · split
      · rfl
      · split <;> rfl

theorem read_wishes (feature : String) (s : Site σ H F) :
    (s.read feature).2.device.record.wishes = s.device.record.wishes := by
  unfold read
  split
  · rfl
  · split
    · rfl
    · split
      · rfl
      · unfold readDevice
        dsimp only
        split
        · rfl
        · exact failure_wishes _ _ _ _ _

/-- A capture that a write triggers leaves callers' wishes alone. -/
theorem writeTrigger_wishes (mode : TriggerMode) (s : Site σ H F) :
    (s.writeTrigger mode).device.record.wishes = s.device.record.wishes := by
  unfold writeTrigger
  have ht := trigger_wishes mode s
  split
  · split
    next heq =>
      rw [heq] at ht
      exact ht
    next heq =>
      rw [heq] at ht
      split
      · exact (linkDown_wishes _ _).trans ht
      · exact ht
  · rfl

/-- A write to the camera leaves callers' wishes alone. -/
theorem writeDevice_wishes (feature text : String) (c : Connection H) (s : Site σ H F) :
    (s.writeDevice feature text c).2.device.record.wishes = s.device.record.wishes := by
  unfold writeDevice
  dsimp only
  split
  · rfl
  · exact failure_wishes _ _ _ _ _

/-- What callers have asked for stays as it is, unless a step asks for something else. -/
theorem apply_wishes (pace : Pace) (s : Site σ H F) {step : Step}
    (hwrite : ∀ feature value, step ≠ .write feature value)
    (htarget : ∀ feature, step ≠ .target feature) :
    (s.apply pace step).device.record.wishes = s.device.record.wishes := by
  have hlink : step.isFeature = false →
      (s.apply pace step).device.record.wishes = s.device.record.wishes := by
    intro hf
    obtain ⟨calls, hch⟩ := apply_change pace s step
    exact hch.wishes hf
  cases step with
  | read feature => exact read_wishes feature s
  | write feature value => exact absurd rfl (hwrite feature value)
  | target feature => exact absurd rfl (htarget feature)
  | sendUpload now generation =>
      exact congrArg (·.record.wishes) (sendUpload_entry pace.timeout now generation s)
  | finishUpload generation outcome =>
      obtain ⟨uploads, publishBusy, trigger, heq⟩ := finishUpload_frame generation outcome s
      show (s.finishUpload generation outcome).device.record.wishes = _
      rw [heq]
      rfl
  | _ => exact hlink rfl

-- ======================================================== active feature

/-- A read does not target another feature. -/
theorem read_activeFeature (feature : String) (s : Site σ H F) :
    (s.read feature).2.device.record.activeFeature = s.device.record.activeFeature :=
  congrArg Wishes.activeFeature (read_wishes feature s)

/-- A write to a feature of the driver's own does not target another one. -/
theorem writeVirtual_activeFeature (f : VirtualFeature) (text : String) (s : Site σ H F) :
    (s.writeVirtual f text).2.device.record.activeFeature = s.device.record.activeFeature := by
  unfold writeVirtual
  cases f with
  | imageTrigger =>
      dsimp only
      split
      · exact congrArg Wishes.activeFeature (writeTrigger_wishes _ s)
      · rfl
  | _ =>
      dsimp only
      split <;> rfl

/-- A write does not target another feature. -/
theorem write_activeFeature (feature : String) (value : Value) (s : Site σ H F) :
    (s.write feature value).2.device.record.activeFeature = s.device.record.activeFeature := by
  unfold write
  split
  · rfl
  · split
    · rfl
    · split
      · exact writeVirtual_activeFeature _ _ s
      · split
        · rfl
        · exact congrArg Wishes.activeFeature (writeDevice_wishes _ _ _ s)

/-- Only targeting a feature sets the active one. -/
theorem apply_activeFeature (pace : Pace) (s : Site σ H F) {step : Step}
    (hstep : ∀ feature, step ≠ .target feature) :
    (s.apply pace step).device.record.activeFeature = s.device.record.activeFeature := by
  by_cases hwrite : ∃ feature value, step = .write feature value
  · obtain ⟨feature, value, rfl⟩ := hwrite
    exact write_activeFeature feature value s
  · exact congrArg Wishes.activeFeature
      (apply_wishes pace s (fun feature value h => hwrite ⟨feature, value, h⟩) hstep)

-- ================================================================ budget

/-- A write to a device that is not connected changes nothing. -/
theorem write_of_not_connected (feature : String) (value : Value) {s : Site σ H F}
    (hs : s.device.status ≠ .connected) : (s.write feature value).2 = s := by
  unfold write
  split
  next => rfl
  next =>
    split
    case isTrue => rfl
    case isFalse hc => exact absurd (status_of_isConnected (by simpa using hc)) hs

/-- A read of a device that is not connected changes nothing. -/
theorem read_of_not_connected (feature : String) {s : Site σ H F}
    (hs : s.device.status ≠ .connected) : (s.read feature).2 = s := by
  unfold read
  split
  case isTrue => rfl
  case isFalse hc => exact absurd (status_of_isConnected (by simpa using hc)) hs

/-- While a device is not connected nothing sets its retry budget. -/
theorem apply_maxRetry (pace : Pace) {s : Site σ H F} (step : Step)
    (hs : s.device.status ≠ .connected) :
    (s.apply pace step).device.record.maxRetry = s.device.record.maxRetry := by
  cases step with
  | write feature value =>
      exact congrArg (·.device.record.maxRetry) (write_of_not_connected feature value hs)
  | target feature => rfl
  | _ =>
      exact congrArg Wishes.maxRetry
        (apply_wishes pace s (fun _ _ h => by cases h) (fun _ h => by cases h))

end Site

end CameraDriver
