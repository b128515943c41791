/-
The errors that reads and writes of a device answer.

A read fails because the device is not connected or because the camera has
failed, softly or hard. A write may also be refused before either matters: its
value has no text, or a virtual feature does not take the text. Nothing else is
answered; in particular no error of a configuration.
-/
import CameraDriver.Proofs.Device.Inversion

namespace CameraDriver

variable {σ H F : Type}

-- ============================================================ virtual values

namespace VirtualFeature

/-- An error is the refusal of a text by a virtual feature. -/
def Refusal (f : VirtualFeature) (e : DriverError) : Prop :=
  ∃ value reason, e = .validation f.name value reason

variable {text : String} {e : DriverError}

/-- What `refuse` answers is a refusal of the feature. -/
theorem refusal_of_refuse {α : Type} {f : VirtualFeature} {value reason : String}
    (h : (refuse f value reason : Except DriverError α) = .error e) : f.Refusal e := by
  unfold refuse at h
  injection h with h
  exact ⟨value, reason, h.symm⟩

/-- A text that names no trigger mode is refused by that feature. -/
theorem triggerMode_error (h : triggerMode text = .error e) : imageTrigger.Refusal e := by
  unfold triggerMode at h
  split at h
  next => cases h
  next => exact refusal_of_refuse h

/-- A text that names no image format is refused by that feature. -/
theorem format_error (h : format text = .error e) : imageFormat.Refusal e := by
  unfold format at h
  split at h
  next => cases h
  next => exact refusal_of_refuse h

/-- A text that is no endpoint is refused by the address feature. -/
theorem endpoint_error (h : endpoint text = .error e) : imageUrl.Refusal e := by
  unfold endpoint at h
  dsimp only at h
  split at h
  case isTrue => cases h
  case isFalse =>
    split at h
    next =>
      split at h
      case isTrue => cases h
      case isFalse => exact refusal_of_refuse h
    next => exact refusal_of_refuse h

/-- A text that is no count is refused by the budget feature. -/
theorem maxRetry_error (h : maxRetry text = .error e) : maxRetryTimes.Refusal e := by
  unfold maxRetry at h
  split at h
  next => cases h
  next => exact refusal_of_refuse h

end VirtualFeature

-- =================================================================== calls

namespace Site

/-- The device is not connected, or a call on it has failed. -/
def Failed (s : Site σ H F) (e : DriverError) : Prop :=
  e = .notConnected s.device.id
    ∨ (∃ reason, e = .softHardware s.device.id reason)
    ∨ ∃ reason, e = .hardHardware s.device.id reason

variable {s : Site σ H F} {e : DriverError}

/-- Without a connection the answer names the device. -/
theorem connection_error (h : s.connection = .error e) : e = .notConnected s.device.id := by
  unfold connection at h
  split at h
  case isTrue =>
    injection h with h
    exact h.symm
  case isFalse =>
    split at h
    next => cases h
    next =>
      injection h with h
      exact h.symm

/-- A call that has failed is told softly or hard, as the camera has it. -/
theorem failure_failed (epoch : Nat) (action feature : String) (cause : HardwareError)
    (s : Site σ H F) : s.Failed (s.failure epoch action feature cause).1 := by
  unfold failure
  split
  case isTrue => exact .inr (.inr ⟨_, rfl⟩)
  case isFalse => exact .inr (.inl ⟨_, rfl⟩)

variable [Camera σ H F]

/-- A read that the camera answers with an error has failed on the device. -/
theorem readDevice_error {feature : String} {c : Connection H}
    (h : (s.readDevice feature c).1 = .error e) : s.Failed e := by
  unfold readDevice at h
  generalize Camera.readFeature c.handle feature s.camera = answer at h
  obtain ⟨result, camera⟩ := answer
  cases result with
  | ok value => cases h
  | error cause =>
      have hf := failure_failed s.device.record.linkEpoch "get" feature cause
        { camera, device := s.device.note (.read c.number feature (.error cause)) }
      injection h with h
      rw [← h]
      exact hf

/-- A write that the camera answers with an error has failed on the device. -/
theorem writeDevice_error {feature text : String} {c : Connection H}
    (h : (s.writeDevice feature text c).1 = .error e) : s.Failed e := by
  unfold writeDevice at h
  generalize Camera.writeFeature c.handle feature text s.camera = answer at h
  obtain ⟨result, camera⟩ := answer
  cases result with
  | ok value => cases h
  | error cause =>
      have hf := failure_failed s.device.record.linkEpoch "set" feature cause
        { camera, device := s.device.note (.written c.number feature text (.error cause)) }
      injection h with h
      rw [← h]
      exact hf

/-- A read fails for want of a connection, or on the camera; no feature refuses it. -/
theorem read_error {feature : String} (h : (s.read feature).1 = .error e) : s.Failed e := by
  unfold read at h
  split at h
  case isTrue =>
    injection h with h
    exact .inl h.symm
  case isFalse =>
    split at h
    next => cases h
    next =>
      split at h
      next hc =>
        injection h with h
        rw [← h]
        exact .inl (connection_error hc)
      next => exact readDevice_error h

/-- A write to a feature of the driver's own is refused by the feature, if at all. -/
theorem writeVirtual_error {f : VirtualFeature} {text : String}
    (h : (s.writeVirtual f text).1 = .error e) : f.Refusal e := by
  unfold writeVirtual at h
  cases f with
  | imageTrigger =>
      dsimp only at h
      split at h
      next => cases h
      next hv =>
        rw [← Except.error.inj h]
        exact VirtualFeature.triggerMode_error hv
  | imageFormat =>
      dsimp only at h
      split at h
      next => cases h
      next hv =>
        rw [← Except.error.inj h]
        exact VirtualFeature.format_error hv
  | imageUrl =>
      dsimp only at h
      split at h
      next => cases h
      next hv =>
        rw [← Except.error.inj h]
        exact VirtualFeature.endpoint_error hv
  | maxRetryTimes =>
      dsimp only at h
      split at h
      next => cases h
      next hv =>
        rw [← Except.error.inj h]
        exact VirtualFeature.maxRetry_error hv

/-- What a write is answered with when it fails: the value has no text, a feature refuses
it, or it has failed on the device. -/
theorem write_error {feature : String} {value : Value}
    (h : (s.write feature value).1 = .error e) :
    (∃ kind, value.wire = .error kind ∧ e = .unsupportedType kind)
      ∨ (∃ f : VirtualFeature, f.Refusal e) ∨ s.Failed e := by
  unfold write at h
  split at h
  next kind hw =>
    injection h with h
    exact .inl ⟨kind, hw, h.symm⟩
  next text _ =>
    right
    split at h
    case isTrue =>
      injection h with h
      exact .inr (.inl h.symm)
    case isFalse =>
      split at h
      next f _ => exact .inl ⟨f, writeVirtual_error h⟩
      next =>
        right
        split at h
        next hc =>
          injection h with h
          rw [← h]
          exact .inl (connection_error hc)
        next => exact writeDevice_error h

end Site

end CameraDriver
