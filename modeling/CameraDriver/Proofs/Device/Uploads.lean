/-
A device has one upload at most, and no frame is lost.

`OneUpload` counts: one upload while the busy mark is set, none else. A trigger
is dropped while the mark is set, so the list of uploads is empty when one is
added; the upload that ends is the one that was there, and it takes the mark
along, whatever the outcome.

# Custody of frames

`Handled` collects the handlings of a run. In it an image whose request is out
has left a block of three: its frame was grabbed, given back, and then its
request was sent (`Handling.reported`). `Custody` says that a run is made of
such blocks and of the frame that an unfinished upload still holds. So blocks
never overlap, and a frame is given back once, by the upload that grabbed it.
-/
import CameraDriver.Proofs.Device.Reachable
import CameraDriver.Proofs.Device.Publishing

namespace CameraDriver

variable {σ H F : Type}

namespace Device

variable {d d' : Device H F}

-- ============================================================== one upload

/-- One upload while the device is busy, none else. -/
def OneUpload (d : Device H F) : Prop :=
  d.uploads.length = if d.record.publishBusy then 1 else 0

namespace OneUpload

theorem eq_nil (h : d.OneUpload) (hbusy : d.record.publishBusy = false) : d.uploads = [] := by
  unfold OneUpload at h
  rw [hbusy] at h
  exact List.eq_nil_of_length_eq_zero h

/-- While something is published there is one upload. -/
theorem eq_singleton (h : d.OneUpload) (hbusy : d.record.publishBusy = true) :
    ∃ u, d.uploads = [u] := by
  unfold OneUpload at h
  rw [hbusy] at h
  exact List.length_eq_one_iff.mp h

/-- An upload that has not finished is the only one. -/
theorem eq_of_mem (h : d.OneUpload) {u : Upload F} (hu : u ∈ d.uploads) : d.uploads = [u] := by
  cases hbusy : d.record.publishBusy with
  | false =>
      rw [h.eq_nil hbusy] at hu
      cases hu
  | true =>
      obtain ⟨v, hv⟩ := h.eq_singleton hbusy
      rw [hv] at hu
      rw [hv, List.mem_singleton.mp hu]

theorem of_aside (h : d.OneUpload) (ha : d.Aside d') : d'.OneUpload := by
  unfold OneUpload at h ⊢
  rw [ha.uploads, ha.publishBusy]
  exact h

end OneUpload

/-- The only upload is found under its generation. -/
theorem upload?_of_singleton {u : Upload F} (hu : d.uploads = [u]) :
    d.upload? u.generation = some u := by
  unfold upload?
  rw [hu]
  simp

/-- With the only upload all uploads end. -/
theorem finished_uploads {u : Upload F} (hu : d.uploads = [u]) (outcome : UploadOutcome) :
    (d.finished u outcome).uploads = [] := by
  show d.uploads.filter (·.generation ≠ u.generation) = []
  rw [hu]
  simp

/-- The only upload has sent its request. -/
theorem sent_uploads {u : Upload F} (hu : d.uploads = [u]) (deadline : Nat) (request : Request) :
    (d.sent u.generation deadline request).uploads = [{ u with stage := .sent deadline }] := by
  show (d.uploads.map fun v =>
    if v.generation = u.generation then { v with stage := .sent deadline } else v) = _
  rw [hu]
  simp

end Device

-- ================================================================= custody

/-- What an upload has done with the frame that it holds. -/
def Upload.held (u : Upload F) : List (Handling F) :=
  match u.stage with
  | .captured frame => [.grabbed frame]
  | .sent _ => []

/-- What was done with an image whose request is out, the latest first. -/
def Handling.reported (σ : Type) [Camera σ H F] (frame : F) (endpoint : Url) :
    List (Handling F) :=
  [.posted (Request.ofImage endpoint (Camera.frameBytes σ frame)), .freed frame, .grabbed frame]

/-- Every frame that was grabbed was given back, once, and then its request
was sent; but for the frame that an upload holds. -/
def Custody (σ : Type) [Camera σ H F] (uploads : List (Upload F)) (trace : List (Handling F)) :
    Prop :=
  ∃ images : List (F × Url),
    trace = uploads.flatMap Upload.held ++ images.flatMap fun i => Handling.reported σ i.1 i.2

namespace Site

variable [Camera σ H F]

/-- The handlings of the frames of a device from its beginning to a state, the
latest first. -/
inductive Handled : List (Handling F) → Site σ H F → Prop
  | fresh (camera : σ) (id : DeviceId) (format : ImageFormat) (maxRetry : Nat) :
      Handled [] { camera, device := Device.fresh id format maxRetry }
  | step {trace new : List (Handling F)} {s : Site σ H F} {pace : Pace} {step : Step}
      (h : Handled trace s) (hp : Publishes pace step s new (s.apply pace step)) :
      Handled (new ++ trace) (s.apply pace step)
  /-- Something happens to the camera. -/
  | camera {trace : List (Handling F)} {s : Site σ H F} (camera : σ) (h : Handled trace s) :
      Handled trace { s with camera }

theorem Reachable.handled {s : Site σ H F} (h : s.Reachable) : ∃ trace, Handled trace s := by
  induction h with
  | fresh camera id format maxRetry => exact ⟨[], .fresh camera id format maxRetry⟩
  | @step s pace step _ ih =>
      obtain ⟨trace, ht⟩ := ih
      obtain ⟨new, hp⟩ := apply_publishes pace s step
      exact ⟨new ++ trace, ht.step hp⟩
  | camera camera _ ih =>
      obtain ⟨trace, ht⟩ := ih
      exact ⟨trace, ht.camera camera⟩

-- =================================================================== steps

/-- A step leaves a device with one upload at most. -/
theorem Publishes.oneUpload {pace : Pace} {step : Step} {s s' : Site σ H F}
    {new : List (Handling F)} (hp : Publishes pace step s new s') (h : s.device.OneUpload) :
    s'.device.OneUpload := by
  cases hp with
  | aside ha _ _ => exact h.of_aside ha
  | halted _ _ => exact h
  | @started _ _ _ _ _ _ _ _ _ _ _ hbusy _ _ =>
      show (s.device.uploads ++ [_]).length = 1
      rw [h.eq_nil hbusy]
      rfl
  | sent _ _ =>
      show (s.device.uploads.map _).length = if s.device.record.publishBusy then 1 else 0
      rw [List.length_map]
      exact h
  | @finished _ _ _ outcome u hu _ =>
      have hone := h.eq_of_mem (Device.mem_of_upload? hu).1
      show (s.device.finished u outcome).uploads.length = 0
      rw [Device.finished_uploads hone]
      rfl

/-- A step leaves each frame with its block, or with the upload that holds
it. -/
theorem Publishes.custody {pace : Pace} {step : Step} {s s' : Site σ H F}
    {new trace : List (Handling F)} (hp : Publishes pace step s new s')
    (h : s.device.OneUpload) (hc : Custody σ s.device.uploads trace) :
    Custody σ s'.device.uploads (new ++ trace) := by
  obtain ⟨images, ht⟩ := hc
  cases hp with
  | aside ha _ _ =>
      refine ⟨images, ?_⟩
      rw [ha.uploads]
      exact ht
  | halted _ _ => exact ⟨images, ht⟩
  | @started _ _ mode endpoint c frame camera _ _ _ _ hbusy _ _ =>
      refine ⟨images, ?_⟩
      have hnil := h.eq_nil hbusy
      show _ = (s.device.uploads ++ [_]).flatMap Upload.held ++ _
      rw [hnil] at ht ⊢
      rw [ht]
      rfl
  | @sent _ now _ u frame hu hst =>
      obtain ⟨hm, rfl⟩ := Device.mem_of_upload? hu
      have hone := h.eq_of_mem hm
      have hheld : u.held = [.grabbed frame] := by
        unfold Upload.held
        rw [hst]
      -- the frame moves from its upload into a block of its own
      refine ⟨(frame, u.endpoint) :: images, ?_⟩
      dsimp only
      rw [Device.sent_uploads hone, ht, hone, List.flatMap_singleton, List.flatMap_singleton, hheld]
      rfl
  | @finished _ _ _ outcome u hu hst =>
      have hone := h.eq_of_mem (Device.mem_of_upload? hu).1
      have hheld : u.held = [] := by
        unfold Upload.held
        rw [hst]
      refine ⟨images, ?_⟩
      rw [hone, List.flatMap_singleton, hheld] at ht
      show _ = (s.device.finished u outcome).uploads.flatMap _ ++ _
      rw [Device.finished_uploads hone]
      exact ht

-- ==================================================================== runs

/-- In every state there is one upload at most, and it is marked. -/
theorem Reachable.oneUpload {s : Site σ H F} (h : s.Reachable) : s.device.OneUpload := by
  induction h with
  | fresh camera id format maxRetry => rfl
  | @step s pace step _ ih =>
      obtain ⟨new, hp⟩ := apply_publishes pace s step
      exact hp.oneUpload ih
  | camera camera _ ih => exact ih

theorem Handled.reachable {trace : List (Handling F)} {s : Site σ H F} (h : Handled trace s) :
    s.Reachable := by
  induction h with
  | fresh camera id format maxRetry => exact .fresh camera id format maxRetry
  | step _ _ ih => exact ih.step _ _
  | camera camera _ ih => exact ih.camera camera

/-- In every state the history accounts for each frame. -/
theorem Handled.custody {trace : List (Handling F)} {s : Site σ H F} (h : Handled trace s) :
    Custody σ s.device.uploads trace := by
  induction h with
  | fresh camera id format maxRetry => exact ⟨[], rfl⟩
  | step h hp ih => exact hp.custody h.reachable.oneUpload ih
  | camera camera _ ih => exact ih

-- ============================================================= exclusivity

/-- While an upload has not finished, writing the trigger to start a capture
changes neither device nor camera. -/
theorem apply_trigger_of_busy (pace : Pace) {s : Site σ H F} {step : Step} {mode : TriggerMode}
    (hstep : step.trigger? = some mode) (hmode : mode.startsCapture = true)
    (hbusy : s.device.record.publishBusy = true) : s.apply pace step = s := by
  obtain ⟨answer, ht⟩ := trigger_of_busy mode hbusy
  exact apply_trigger_dropped pace hstep hmode ht

/-- A device is busy exactly while it has an upload that has not finished, and
it never has two. Meanwhile triggers to capture are dropped: they change
nothing and ask the camera nothing. An upload that holds a frame gives it back
and then sends its request; one whose request is out ends with any outcome,
and with it the device is not busy any more. A trigger whose capture fails
leaves uploads, busy mark, generation and trigger mode as they were, and no
frame. In every run a frame that was grabbed is given back once, and before its
request is sent, unless an upload still holds it. -/
theorem Reachable.publish_exclusive {s : Site σ H F} (h : s.Reachable) :
    (s.device.record.publishBusy = true ↔ ∃ u, s.device.uploads = [u])
      ∧ s.device.uploads.length ≤ 1
      ∧ (∀ (pace : Pace) (step : Step) (mode : TriggerMode), step.trigger? = some mode →
          mode.startsCapture = true → s.device.record.publishBusy = true → s.apply pace step = s)
      ∧ (∀ u ∈ s.device.uploads, ∀ (pace : Pace) (now : Nat) (frame : F),
          u.stage = .captured frame →
          let s' := s.apply pace (.sendUpload now u.generation)
          s'.camera = Camera.freeImage frame s.camera
            ∧ s'.device.log = .posted (Request.ofImage u.endpoint (Camera.frameBytes σ frame))
              :: .freed :: s.device.log
            ∧ s'.device.uploads = [{ u with stage := .sent (now + pace.timeout) }])
      ∧ (∀ u ∈ s.device.uploads, ∀ (pace : Pace) (outcome : UploadOutcome) (deadline : Nat),
          u.stage = .sent deadline →
          let s' := s.apply pace (.finishUpload u.generation outcome)
          s'.device.record.publishBusy = false ∧ s'.device.uploads = [])
      ∧ (∀ (pace : Pace) (step : Step) (mode : TriggerMode) (e : HardwareError),
          step.trigger? = some mode → mode.startsCapture = true →
          (s.trigger mode).1 = .error e → s.device.Aside (s.apply pace step).device)
      ∧ (∃ trace, Handled trace s)
      ∧ ∀ trace, Handled trace s → Custody σ s.device.uploads trace := by
  have hone := h.oneUpload
  refine ⟨⟨hone.eq_singleton, ?_⟩, ?_, ?_, ?_, ?_, ?_, h.handled, ?_⟩
  · -- an upload is there only while the record is busy
    rintro ⟨u, hu⟩
    cases hbusy : s.device.record.publishBusy with
    | true => rfl
    | false =>
        rw [hone.eq_nil hbusy] at hu
        cases hu
  · -- one upload if it is busy, none if not
    have hlen : s.device.uploads.length = if s.device.record.publishBusy then 1 else 0 := hone
    split at hlen <;> omega
  · -- a trigger while it is busy
    intro pace step mode hstep hmode hbusy
    exact apply_trigger_of_busy pace hstep hmode hbusy
  · -- the frame is freed, then sent
    intro u hu pace now frame hst
    have hsingle := hone.eq_of_mem hu
    have heq := sendUpload_of_captured pace.timeout now (Device.upload?_of_singleton hsingle) hst
    dsimp only [apply]
    rw [heq]
    exact ⟨rfl, rfl, Device.sent_uploads hsingle _ _⟩
  · -- the answer to the upload, whatever it is
    intro u hu pace outcome deadline hst
    have hsingle := hone.eq_of_mem hu
    have heq := finishUpload_of_sent outcome (Device.upload?_of_singleton hsingle) hst
    dsimp only [apply]
    rw [heq]
    exact ⟨rfl, Device.finished_uploads hsingle outcome⟩
  · -- a capture that fails
    intro pace step mode e hstep hmode he
    exact apply_trigger_failed pace hstep hmode he
  · -- the way of each frame
    intro trace ht
    exact ht.custody

/-- A device that holds a frame for an upload: another trigger is dropped, and
its frames are in custody. -/
theorem Reachable.publish_exclusive_while_captured :
    let camera := (simulated ⟨"a"⟩ 3).camera.setFrame ⟨"a"⟩ [1, 2]
    let s := Site.run ⟨10, 100⟩ { simulated ⟨"a"⟩ 3 with camera }
      [.connect, .reach 0, .resume 0 0, .write "ImageURL" (.text "http://[::1]/"),
        .write "ImageTrigger" (.text "single")]
    (∃ u, s.device.uploads = [u])
      ∧ (∀ pace, s.apply pace (.write "ImageTrigger" (.text "continuous")) = s)
      ∧ ∃ trace, Handled trace s ∧ Custody SimulatedCamera s.device.uploads trace := by
  intro camera s
  have hbusy : s.device.record.publishBusy = true := by decide +kernel
  have hr : s.Reachable := ((Reachable.fresh _ _ _ _).camera camera).run _ _
  obtain ⟨hone, -, hdrop, -, -, -, ⟨trace, ht⟩, hcustody⟩ := Reachable.publish_exclusive hr
  refine ⟨hone.mp hbusy, ?_, trace, ht, hcustody trace ht⟩
  intro pace
  exact hdrop pace _ .continuous (by decide) rfl hbusy

end Site

end CameraDriver
