/-
A call whose blobs are refused changes nothing.

Of the calls of a client four carry blobs and merge them (`Step.blobs?`). The
merge comes first in each of them, and a call whose merge fails is over: it
answers the merge's error and leaves the client as it was, with its stored
configuration, its devices and their tasks, and the camera, which no call has
reached. What the call would have done with the other blobs is not looked at.

The converse holds too: none of what follows a merge answers that a blob does
not decode, so that the error tells a refused blob from everything else.
-/
import CameraDriver.Client.Step
import CameraDriver.Hardware.Simulated
import CameraDriver.Proofs.Device.Answers
import CameraDriver.Proofs.Store.Refusal

namespace CameraDriver

variable {σ H F : Type}

namespace Client

/-- The blobs that a step merges. -/
def Step.blobs? : Step → Option Blobs
  | .initDevice common => some { common }
  | .setConfig blobs => some blobs
  | .readDeviceData blobs => some blobs
  | .writeDeviceData _ blobs => some blobs
  | _ => none

/-- The error of an answer. -/
def errorOf? {α : Type} : Except DriverError α → Option DriverError
  | .ok _ => none
  | .error e => some e

/-- An answer has an error exactly if it is one. -/
theorem errorOf?_eq_some {α : Type} {answer : Except DriverError α} {e : DriverError} :
    errorOf? answer = some e ↔ answer = .error e := by
  cases answer with
  | ok a => simp [errorOf?]
  | error e' => simp [errorOf?]

variable {c : Client σ H F} {step : Step} {blobs : Blobs} {e : DriverError}

-- ================================================================== merges

/-- A client's merge fails as that of its configuration does. -/
theorem merge_eq_error : c.merge blobs = .error e ↔ c.store.current.merge blobs = .error e := by
  rw [← Store.merge_eq_error]
  unfold merge
  cases hm : c.store.merge blobs with
  | ok r => constructor <;> intro h <;> cases h
  | error e' =>
      constructor
      · intro h
        exact congrArg _ (Except.error.inj h)
      · intro h
        exact congrArg _ (Except.error.inj h)

/-- A call whose blobs cannot be merged answers so, and changes nothing. -/
theorem onTarget_of_merge_error {α : Type}
    {f : String → Site σ H F → Except DriverError α × Site σ H F} (h : c.merge blobs = .error e) :
    c.onTarget blobs f = (.error e, c) := by
  unfold onTarget
  rw [h]

-- ========================================================== other failures

/-- A configuration without a device lacks its identifier, and nothing else. -/
theorem deviceId_error {configuration : Configuration} (h : configuration.deviceId = .error e) :
    e = .missingDeviceId := by
  unfold Configuration.deviceId at h
  dsimp only at h
  split at h
  case isTrue => exact (Except.error.inj h).symm
  case isFalse => cases h

/-- Targeting fails only for want of an identifier. -/
theorem target_error {configuration : Configuration} (h : (c.target configuration).1 = .error e) :
    e = .missingDeviceId := by
  unfold target at h
  cases hid : configuration.deviceId with
  | ok id =>
      rw [hid] at h
      cases h
  | error e' =>
      rw [hid] at h
      rw [← Except.error.inj h]
      exact deviceId_error hid

/-- What is answered at a device is answered by what is done there. -/
theorem atDevice?_some {α : Type} {id : DeviceId} {f : Site σ H F → α × Site σ H F} {a : α}
    (h : (c.atDevice? id f).1 = some a) : ∃ s, (f s).1 = a := by
  unfold atDevice? at h
  split at h
  next => cases h
  next device _ => exact ⟨{ camera := c.camera, device }, Option.some.inj h⟩

/-- The errors of a call on the device that is targeted. -/
theorem onTarget_error {α : Type}
    {f : String → Site σ H F → Except DriverError α × Site σ H F}
    (h : (c.onTarget blobs f).1 = .error e) :
    c.merge blobs = .error e ∨ e = .missingDeviceId ∨ (∃ id, e = .unknownDevice id)
      ∨ ∃ feature s, (f feature s).1 = .error e := by
  unfold onTarget at h
  split at h
  next hm => exact .inl (by rw [hm, Except.error.inj h])
  next configuration c₁ _ =>
    right
    have htarget := @target_error _ _ _ c₁ e configuration
    split at h
    next heq =>
      rw [heq] at htarget
      exact .inl (htarget (congrArg Except.error (Except.error.inj h)))
    next id c₂ _ =>
      right
      have hat := @atDevice?_some _ _ _ c₂ _ id (f configuration.featureName) (.error e)
      split at h
      next heq =>
        rw [heq] at hat
        exact .inr ⟨_, hat (congrArg some h)⟩
      next => exact .inl ⟨id, (Except.error.inj h).symm⟩

-- =================================================================== calls

variable [Camera σ H F]

/-- The error that a call answers, if it answers one. -/
def failure? (c : Client σ H F) : Step → Option DriverError
  | .initDevice common => errorOf? (c.initDevice common).1
  | .setConfig blobs => errorOf? (c.setConfig blobs).1
  | .readDeviceData blobs => errorOf? (c.readDeviceData blobs).1
  | .writeDeviceData value blobs => errorOf? (c.writeDeviceData value blobs).1
  | .stop id => errorOf? (c.stop id).1
  | _ => none

/-- A call whose merge fails answers so, and the client stays as it is. -/
theorem apply_of_merge_error (hstep : step.blobs? = some blobs) (h : c.merge blobs = .error e) :
    c.failure? step = some e ∧ c.apply step = c := by
  cases step with
  | initDevice common =>
      cases hstep
      have hcall : c.initDevice common = (.error e, c) := by
        unfold initDevice
        rw [h]
      show errorOf? (c.initDevice common).1 = some e ∧ (c.initDevice common).2 = c
      rw [hcall]
      exact ⟨rfl, rfl⟩
  | setConfig blobs =>
      cases hstep
      have hcall : c.setConfig blobs = (.error e, c) := by
        unfold setConfig
        rw [h]
      show errorOf? (c.setConfig blobs).1 = some e ∧ (c.setConfig blobs).2 = c
      rw [hcall]
      exact ⟨rfl, rfl⟩
  | readDeviceData blobs =>
      cases hstep
      show errorOf? (c.onTarget blobs Site.read).1 = some e ∧ (c.onTarget blobs Site.read).2 = c
      rw [onTarget_of_merge_error h]
      exact ⟨rfl, rfl⟩
  | writeDeviceData value blobs =>
      cases hstep
      show errorOf? (c.onTarget blobs _).1 = some e ∧ (c.onTarget blobs _).2 = c
      rw [onTarget_of_merge_error h]
      exact ⟨rfl, rfl⟩
  | _ => cases hstep

/-- A call that answers that a blob does not decode has failed to merge. -/
theorem merge_of_decode {part : ConfigPart} {reason : String} (hstep : step.blobs? = some blobs)
    (h : c.failure? step = some (.decode part reason)) :
    c.merge blobs = .error (.decode part reason) := by
  have hfailed : ∀ {s : Site σ H F}, ¬ s.Failed (.decode part reason) := by
    rintro s (h | ⟨reason, h⟩ | ⟨reason, h⟩) <;> cases h
  cases step with
  | initDevice common =>
      cases hstep
      have h := errorOf?_eq_some.mp h
      unfold initDevice at h
      split at h
      next hm => rw [hm, Except.error.inj h]
      next configuration c₁ _ =>
        split at h
        next hid =>
          have he := deviceId_error hid
          rw [Except.error.inj h] at he
          cases he
        next => cases h
  | setConfig blobs =>
      cases hstep
      have h := errorOf?_eq_some.mp h
      unfold setConfig at h
      split at h
      next hm => rw [hm, Except.error.inj h]
      next configuration c₁ _ =>
        have htarget := @target_error _ _ _ c₁ (.decode part reason) configuration
        split at h
        next => cases h
        next heq =>
          rw [heq] at htarget
          cases htarget (congrArg Except.error (Except.error.inj h))
        next => cases h
  | readDeviceData blobs =>
      cases hstep
      rcases onTarget_error (errorOf?_eq_some.mp h) with hm | hm | ⟨id, hm⟩ | ⟨feature, s, hr⟩
      · -- the merge refused the blobs
        exact hm
      · -- no other refusal names a part
        cases hm
      · cases hm
      · exact absurd (Site.read_error hr) hfailed
  | writeDeviceData value blobs =>
      cases hstep
      rcases onTarget_error (errorOf?_eq_some.mp h) with hm | hm | ⟨id, hm⟩ | ⟨feature, s, hw⟩
      · exact hm
      · cases hm
      · cases hm
      · rcases Site.write_error hw with ⟨kind, -, he⟩ | ⟨f, _, _, he⟩ | hf
        · cases he
        · cases he
        · exact absurd hf hfailed
  | _ => cases hstep

-- =============================================================== atomicity

/-- A call that merges blobs answers that one does not decode exactly if some
blob is refused, and names the first part whose blob is, in the order common,
visitor, protocol. Then nothing has changed: neither what is stored, nor which
devices are known, nor any record, status or task of a device, nor the camera,
and no call is noted in a device's log. -/
theorem refused_call_changes_nothing (c : Client σ H F) {step : Step} {blobs : Blobs}
    (hstep : step.blobs? = some blobs) :
    (∀ part reason, c.failure? step = some (.decode part reason)
        ↔ c.store.current.FirstRefused blobs part reason)
      ∧ ((∃ part reason, c.store.current.Refuses blobs part reason) →
          (∃ part reason, c.store.current.FirstRefused blobs part reason
            ∧ c.failure? step = some (.decode part reason))
          ∧ c.apply step = c) := by
  have hfirst : ∀ {part reason}, c.store.current.FirstRefused blobs part reason →
      c.failure? step = some (.decode part reason) ∧ c.apply step = c := by
    intro part reason hf
    exact apply_of_merge_error hstep (merge_eq_error.mpr (Configuration.merge_of_first hf))
  refine ⟨?_, ?_⟩
  · -- the answer names the first part that is refused
    intro part reason
    constructor
    · intro h
      have hm := merge_eq_error.mp (merge_of_decode hstep h)
      obtain ⟨part', reason', hf, he⟩ := Configuration.merge_eq_error.mp hm
      cases he
      exact hf
    · intro hf
      exact (hfirst hf).1
  · -- and a part that is refused at all has a first one before it, or is it
    rintro ⟨_, _, hr⟩
    obtain ⟨part, reason, hf⟩ := Configuration.exists_first hr
    exact ⟨⟨part, reason, hf, (hfirst hf).1⟩, (hfirst hf).2⟩

/-- A client that knows a device is called for another one, with a visitor part
that breaks off and a protocol part that is no object. -/
theorem refused_call_changes_nothing_of_visitor :
    let common := fun serial : String => Text.Utf8.encode
      ("\x7b\"customizedValues\":\x7b\"deviceSN\":\"" ++ serial ++ "\"\x7d\x7d")
    let c : Client SimulatedCamera SimulatedCamera.Handle Bytes :=
      Client.run { settings := .default, camera := ({} : SimulatedCamera).attach ⟨"a"⟩ }
        [.initDevice (some (common "a"))]
    let blobs : Blobs :=
      { common := some (common "b")
        visitor := some (Text.Utf8.encode "\x7b")
        protocol := some (Text.Utf8.encode "1") }
    let reason := "EOF while parsing an object at line 1 column 1"
    c.failure? (.setConfig blobs) = some (.decode .visitor reason)
      ∧ c.store.current.FirstRefused blobs .visitor reason ∧ c.apply (.setConfig blobs) = c := by
  intro common c blobs reason
  have hfail : c.failure? (.setConfig blobs) = some (.decode .visitor reason) := by decide +kernel
  obtain ⟨hiff, hnone⟩ := refused_call_changes_nothing c (rfl : (Step.setConfig blobs).blobs? = _)
  have hfirst := (hiff _ _).mp hfail
  exact ⟨hfail, hfirst, (hnone ⟨_, _, hfirst.refused⟩).2⟩

end Client

end CameraDriver
