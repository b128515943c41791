/-
What a call about a feature has done, read off how it ends.

A read or a write is refused before anything is asked, or the driver serves
the feature itself, or the device is asked, in one call. `Site.Ends` has one
constructor for each end, with the answer, the calls and the state that is
left, and says nothing of how the call gets there. `read_ends` and `write_ends`
follow the branches once; what an answer tells of the effect, and which calls
ask for an image, is then read off the constructors.

The one end that is not told by the branch alone is a hard failure: the report
that the link is down is ignored while a task is in charge. It never is when it
comes from a connected device (`Phased.linkTask_of_connected`), so the premise
here is that no task is.
-/
import CameraDriver.Proofs.Device.Answers
import CameraDriver.Proofs.Device.LinkLoss

namespace CameraDriver

variable {σ H F : Type}

-- ============================================================== inquiries

/-- What a device itself is asked about a feature. -/
inductive Inquiry where
  | get (feature : String)
  | set (feature text : String)
deriving DecidableEq, Repr

namespace Event

def inquiry? : Event → Option Inquiry
  | .read _ feature _ => some (.get feature)
  | .written _ feature text _ => some (.set feature text)
  | _ => none

/-- The failure of an inquiry. -/
def failure? : Event → Option HardwareError
  | .read _ _ (.error e) => some e
  | .written _ _ _ (.error e) => some e
  | _ => none

/-- Whether an image was asked for, given or not. -/
def isGrab : Event → Bool
  | .grabbed .. => true
  | _ => false

/-- A read or a write is no grab. -/
theorem isGrab_of_inquiry {e : Event} {inquiry : Inquiry} (h : e.inquiry? = some inquiry) :
    e.isGrab = false := by
  cases e with
  | grabbed => cases h
  | _ => rfl

/-- A grab is neither a read nor a write. -/
theorem inquiry?_of_isGrab {e : Event} (h : e.isGrab = true) : e.inquiry? = none := by
  cases e with
  | grabbed => rfl
  | _ => cases h

end Event

/-- Whether an error says that nothing was asked of the device. -/
def DriverError.isRefusal : DriverError → Bool
  | .unsupportedType _ => true
  | .notConnected _ => true
  | .validation .. => true
  | _ => false

namespace Site

variable [Camera σ H F]

/-- The device is asked in one call, on the connection that its record holds,
and fails or not. -/
structure Asked (s : Site σ H F) (inquiry : Inquiry) (failure : Option HardwareError)
    (x : Call H) (camera : σ) : Prop where
  device : x.device = s.device.id
  inquiry : x.event.inquiry? = some inquiry
  failure : x.event.failure? = failure
  on : ∃ c, s.device.record.handle = some c ∧ x.event.on? = some c.number
    ∧ x.handle = some c.handle
  served : Served s.camera [x] camera

/-- A read on the connection held asks the camera once. -/
theorem asked_read {s : Site σ H F} {c : Connection H} (hc : s.device.record.handle = some c)
    (feature : String) :
    let answer := Camera.readFeature c.handle feature s.camera
    s.Asked (.get feature) (Event.read c.number feature answer.1).failure?
      { device := s.device.id, event := .read c.number feature answer.1, handle := some c.handle }
      answer.2 where
  device := rfl
  inquiry := rfl
  failure := rfl
  on := ⟨c, hc, rfl, rfl⟩
  served := .read s.device.id c feature .nothing

/-- A write on the connection held asks the camera once. -/
theorem asked_write {s : Site σ H F} {c : Connection H} (hc : s.device.record.handle = some c)
    (feature text : String) :
    let answer := Camera.writeFeature c.handle feature text s.camera
    s.Asked (.set feature text) (Event.written c.number feature text answer.1).failure?
      { device := s.device.id
        event := .written c.number feature text answer.1
        handle := some c.handle }
      answer.2 where
  device := rfl
  inquiry := rfl
  failure := rfl
  on := ⟨c, hc, rfl, rfl⟩
  served := .written s.device.id c feature text .nothing

-- ==================================================================== ends

/-- How a call about a feature ends: its answer, its calls and the state that
it leaves. If the device itself has the feature, it is asked `inquiry`. -/
inductive Ends {α : Type} (s : Site σ H F) (feature : String) (inquiry : Inquiry) :
    Except DriverError α → List (Call H) → Site σ H F → Prop
  | refused {e : DriverError} (he : e.isRefusal = true) :
      Ends s feature inquiry (.error e) [] s
  /-- The driver serves the feature from the record. -/
  | served {f : VirtualFeature} {a : α} {device : Device H F} (hs : s.device.status = .connected)
      (hf : VirtualFeature.ofName? feature = some f) (hlog : device.log = s.device.log) :
      Ends s feature inquiry (.ok a) [] { s with device }
  /-- The trigger is written, which may ask for an image. -/
  | triggered {text : String} {mode : TriggerMode} {a : α} {calls : List (Call H)}
      (hs : s.device.status = .connected)
      (hf : VirtualFeature.ofName? feature = some .imageTrigger)
      (hq : inquiry = .set feature text) (hmode : VirtualFeature.triggerMode text = .ok mode)
      (hlog : (s.writeTrigger mode).device.log = calls.map (·.event) ++ s.device.log)
      (hserved : Served s.camera calls (s.writeTrigger mode).camera)
      (hcalls : ∀ x ∈ calls, x.event.isGrab = true) :
      Ends s feature inquiry (.ok a) calls (s.writeTrigger mode)
  | answered {a : α} {x : Call H} {camera : σ} (hs : s.device.status = .connected)
      (hf : VirtualFeature.ofName? feature = none) (hx : s.Asked inquiry none x camera) :
      Ends s feature inquiry (.ok a) [x] { camera, device := s.device.note x.event }
  /-- The link stays up. -/
  | soft {e : HardwareError} {reason : String} {x : Call H} {camera : σ}
      (hs : s.device.status = .connected) (hf : VirtualFeature.ofName? feature = none)
      (he : e.isHard = false) (hx : s.Asked inquiry (some e) x camera) :
      Ends s feature inquiry (.error (.softHardware s.device.id reason)) [x]
        { camera, device := s.device.note x.event }
  /-- The link goes down. -/
  | hard {e : HardwareError} {reason : String} {x : Call H} {camera : σ}
      (hs : s.device.status = .connected) (hf : VirtualFeature.ofName? feature = none)
      (he : e.isHard = true) (hx : s.Asked inquiry (some e) x camera) :
      Ends s feature inquiry (.error (.hardHardware s.device.id reason)) [x]
        { camera, device := (s.device.note x.event).lost }

namespace Ends

variable {α : Type} {s s' : Site σ H F} {feature : String} {inquiry : Inquiry}
  {answer : Except DriverError α} {calls : List (Call H)}

/-- The log tells the calls that were made. -/
theorem log (h : Ends s feature inquiry answer calls s') :
    s'.device.log = calls.map (·.event) ++ s.device.log := by
  cases h with
  | refused _ => rfl
  | served _ _ hlog => exact hlog
  | triggered _ _ _ _ hlog _ _ => exact hlog
  | answered _ _ _ => rfl
  | soft _ _ _ _ => rfl
  | hard _ _ _ _ => rfl

theorem calls_served (h : Ends s feature inquiry answer calls s') :
    Served s.camera calls s'.camera := by
  cases h with
  | refused _ => exact .nothing
  | served _ _ _ => exact .nothing
  | triggered _ _ _ _ _ hserved _ => exact hserved
  | answered _ _ hx => exact hx.served
  | soft _ _ _ hx => exact hx.served
  | hard _ _ _ hx => exact hx.served

/-- Only a trigger that is written asks for an image. -/
theorem grabs (h : Ends s feature inquiry answer calls s') :
    (∀ x ∈ calls, x.event.isGrab = false)
      ∨ VirtualFeature.ofName? feature = some .imageTrigger
        ∧ ∃ text mode, inquiry = .set feature text
          ∧ VirtualFeature.triggerMode text = .ok mode := by
  have hasked : ∀ {failure : Option HardwareError} {x : Call H} {camera : σ},
      s.Asked inquiry failure x camera → ∀ y ∈ [x], y.event.isGrab = false := by
    intro failure x camera hx y hy
    rw [List.mem_singleton.mp hy]
    exact Event.isGrab_of_inquiry hx.inquiry
  cases h with
  | refused _ => exact .inl fun x hx => by cases hx
  | served _ _ _ => exact .inl fun x hx => by cases hx
  | triggered _ hf hq hmode _ _ _ => exact .inr ⟨hf, _, _, hq, hmode⟩
  | answered _ _ hx => exact .inl (hasked hx)
  | soft _ _ _ hx => exact .inl (hasked hx)
  | hard _ _ _ hx => exact .inl (hasked hx)

end Ends

-- ================================================================ failures

omit [Camera σ H F] in
/-- A soft failure is told to the caller, and changes nothing. -/
theorem failure_soft {s : Site σ H F} {e : HardwareError} (he : e.isHard = false) (epoch : Nat)
    (action feature : String) :
    ∃ reason, s.failure epoch action feature e = (.softHardware s.device.id reason, s) := by
  unfold failure
  rw [if_neg (by simp [he])]
  exact ⟨_, rfl⟩

omit [Camera σ H F] in
/-- Without a task in charge a hard failure takes the link down. -/
theorem failure_hard {s : Site σ H F} {e : HardwareError} (he : e.isHard = true)
    (hfree : s.device.record.linkTask = none) (action feature : String) :
    ∃ reason, s.failure s.device.record.linkEpoch action feature e
      = (.hardHardware s.device.id reason, { s with device := s.device.lost }) := by
  have hcounts := linkDown_counts (linkDown_starts.mpr ⟨hfree, rfl⟩)
  unfold failure
  rw [if_pos he, hcounts]
  exact ⟨_, rfl⟩

/-- A call that has failed is answered as the camera has it. -/
theorem Ends.of_failure {α : Type} {s : Site σ H F} {feature : String} {inquiry : Inquiry}
    {e : HardwareError} {x : Call H} {camera : σ} (action : String)
    (hs : s.device.status = .connected) (hf : VirtualFeature.ofName? feature = none)
    (hfree : s.device.record.linkTask = none) (hx : s.Asked inquiry (some e) x camera) :
    let m : Site σ H F := { camera, device := s.device.note x.event }
    let r := m.failure s.device.record.linkEpoch action feature e
    Ends s feature inquiry (.error r.1 : Except DriverError α) [x] r.2 := by
  intro m r
  cases he : e.isHard with
  | false =>
      obtain ⟨reason, hr⟩ := failure_soft (s := m) he s.device.record.linkEpoch action feature
      dsimp only [r]
      rw [hr]
      exact .soft hs hf he hx
  | true =>
      obtain ⟨reason, hr⟩ := failure_hard (s := m) he hfree action feature
      have hr : r = _ := hr
      rw [hr]
      exact .hard hs hf he hx

-- ================================================================= reading

/-- A read on the connection ends as the camera's answer says. -/
theorem readDevice_ends {s : Site σ H F} {feature : String} {c : Connection H}
    (hs : s.device.status = .connected) (hf : VirtualFeature.ofName? feature = none)
    (hfree : s.device.record.linkTask = none) (hc : s.device.record.handle = some c) :
    ∃ calls, Ends s feature (.get feature) (s.readDevice feature c).1 calls
      (s.readDevice feature c).2 := by
  have hx := asked_read hc feature
  unfold readDevice
  generalize Camera.readFeature c.handle feature s.camera = answer at hx ⊢
  obtain ⟨result, camera⟩ := answer
  cases result with
  | ok value => exact ⟨_, .answered hs hf hx⟩
  | error e =>
      have hfailed := Ends.of_failure (α := Value) "get" hs hf hfree hx
      exact ⟨_, hfailed⟩

/-- No report of a connected device comes to nothing. -/
theorem Reachable.linkTask_of_connected {s : Site σ H F} (h : s.Reachable)
    (hs : s.device.status = .connected) : s.device.record.linkTask = none :=
  h.phased.linkTask_of_connected h.exclusive hs

/-- A read ends in one of the ways there are, in every state. -/
theorem Reachable.read_ends {s : Site σ H F} (h : s.Reachable) (feature : String) :
    ∃ calls, Ends s feature (.get feature) (s.read feature).1 calls (s.read feature).2 := by
  unfold Site.read
  split
  case isTrue => exact ⟨[], .refused rfl⟩
  case isFalse hs =>
    have hs : s.device.status = .connected := status_of_isConnected (by simpa using hs)
    split
    next f hf => exact ⟨[], .served hs hf rfl⟩
    next hf =>
      split
      next e hc =>
        rw [connection_error hc]
        exact ⟨[], .refused rfl⟩
      next c hc =>
        exact readDevice_ends hs hf (h.linkTask_of_connected hs) (handle_of_connection hc)

-- ================================================================= writing

/-- A write on the connection ends as the camera's answer says. -/
theorem writeDevice_ends {s : Site σ H F} {feature : String} {c : Connection H} (text : String)
    (hs : s.device.status = .connected) (hf : VirtualFeature.ofName? feature = none)
    (hfree : s.device.record.linkTask = none) (hc : s.device.record.handle = some c) :
    ∃ calls, Ends s feature (.set feature text) (s.writeDevice feature text c).1 calls
      (s.writeDevice feature text c).2 := by
  have hx := asked_write hc feature text
  unfold writeDevice
  generalize Camera.writeFeature c.handle feature text s.camera = answer at hx ⊢
  obtain ⟨result, camera⟩ := answer
  cases result with
  | ok value => exact ⟨_, .answered hs hf hx⟩
  | error e =>
      have hfailed := Ends.of_failure (α := Unit) "set" hs hf hfree hx
      exact ⟨_, hfailed⟩

/-- The trigger asks for an image at most. -/
theorem trigger_calls (mode : TriggerMode) (s : Site σ H F) :
    ∃ calls, Served s.camera calls (s.trigger mode).2.camera
      ∧ (s.trigger mode).2.device.log = calls.map (·.event) ++ s.device.log
      ∧ ∀ x ∈ calls, x.event.isGrab = true := by
  have hnone : ∀ x ∈ ([] : List (Call H)), x.event.isGrab = true := fun x hx => by cases hx
  unfold trigger
  dsimp only
  split
  next => exact ⟨[], .nothing, rfl, hnone⟩
  next endpoint _ =>
    split
    case isTrue => exact ⟨[], .nothing, rfl, hnone⟩
    case isFalse =>
      split
      next => exact ⟨[], .nothing, rfl, hnone⟩
      next c _ =>
        have hserved := Served.grabbed s.device.id c s.device.record.capture.format.name
          (.nothing : Served s.camera [] _)
        generalize Camera.grabImage c.handle s.device.record.capture.format.name s.camera = answer
          at hserved ⊢
        obtain ⟨result, camera⟩ := answer
        cases result with
        | ok frame => exact ⟨_, hserved, rfl, fun x hx => by rw [List.mem_singleton.mp hx]; rfl⟩
        | error e => exact ⟨_, hserved, rfl, fun x hx => by rw [List.mem_singleton.mp hx]; rfl⟩

omit [Camera σ H F] in
/-- A report of the link down calls nothing. -/
theorem linkDown_log (epoch : Nat) (s : Site σ H F) :
    (s.linkDown epoch).2.device.log = s.device.log := by
  unfold linkDown
  split <;> rfl

/-- A write to the trigger feature succeeds, whatever the capture comes to. -/
theorem writeTrigger_ends {α : Type} {s : Site σ H F} {feature text : String}
    {mode : TriggerMode} (a : α) (hs : s.device.status = .connected)
    (hf : VirtualFeature.ofName? feature = some .imageTrigger)
    (hmode : VirtualFeature.triggerMode text = .ok mode) :
    ∃ calls, Ends s feature (.set feature text) (.ok a) calls (s.writeTrigger mode) := by
  suffices h : ∃ calls, Served s.camera calls (s.writeTrigger mode).camera
      ∧ (s.writeTrigger mode).device.log = calls.map (·.event) ++ s.device.log
      ∧ ∀ x ∈ calls, x.event.isGrab = true by
    obtain ⟨calls, hserved, hlog, hcalls⟩ := h
    exact ⟨calls, .triggered hs hf rfl hmode hlog hserved hcalls⟩
  obtain ⟨calls, hserved, hlog, hcalls⟩ := trigger_calls mode s
  unfold writeTrigger
  split
  case isTrue =>
    refine ⟨calls, ?_, ?_, hcalls⟩
    all_goals
      split
      next heq => rw [heq] at hserved hlog; assumption
      next heq =>
        rw [heq] at hserved hlog
        split
        · simpa only [linkDown_camera, linkDown_log] using ‹_›
        · assumption
  case isFalse => exact ⟨[], .nothing, rfl, fun x hx => by cases hx⟩

/-- A write to a feature of the driver's own ends without a call to it. -/
theorem writeVirtual_ends {s : Site σ H F} {feature : String} {f : VirtualFeature}
    (text : String) (hs : s.device.status = .connected)
    (hf : VirtualFeature.ofName? feature = some f) :
    ∃ calls, Ends s feature (.set feature text) (s.writeVirtual f text).1 calls
      (s.writeVirtual f text).2 := by
  have hrefused : ∀ {f : VirtualFeature} {e : DriverError}, f.Refusal e →
      ∃ calls, Ends s feature (.set feature text) (.error e : Except DriverError Unit) calls s := by
    rintro f _ ⟨value, reason, rfl⟩
    exact ⟨[], .refused rfl⟩
  unfold writeVirtual
  cases f with
  | imageTrigger =>
      cases hv : VirtualFeature.triggerMode text with
      | ok mode => exact writeTrigger_ends () hs hf hv
      | error e => exact hrefused (VirtualFeature.triggerMode_error hv)
  | imageFormat =>
      cases hv : VirtualFeature.format text with
      | ok format => exact ⟨[], .served hs hf rfl⟩
      | error e => exact hrefused (VirtualFeature.format_error hv)
  | imageUrl =>
      cases hv : VirtualFeature.endpoint text with
      | ok endpoint => exact ⟨[], .served hs hf rfl⟩
      | error e => exact hrefused (VirtualFeature.endpoint_error hv)
  | maxRetryTimes =>
      cases hv : VirtualFeature.maxRetry text with
      | ok maxRetry => exact ⟨[], .served hs hf rfl⟩
      | error e => exact hrefused (VirtualFeature.maxRetry_error hv)

/-- A value without text is refused, whatever the state. -/
theorem write_unsupported {value : Value} {kind : Value.Kind} (hw : value.wire = .error kind)
    (feature : String) (s : Site σ H F) :
    s.write feature value = (.error (.unsupportedType kind), s) := by
  unfold write
  rw [hw]

/-- While a device is connected its virtual features are written by their names. -/
theorem write_virtual {s : Site σ H F} (hs : s.device.status = .connected) {value : Value}
    {text : String} (hw : value.wire = .ok text) (f : VirtualFeature) :
    s.write f.name value = s.writeVirtual f text := by
  have hf : VirtualFeature.ofName? f.name = some f := by cases f <;> decide
  unfold write
  rw [hw, hs, hf]
  rfl

/-- A write of a value with a text ends in one of the ways there are, in every state. -/
theorem Reachable.write_ends {s : Site σ H F} (h : s.Reachable) {value : Value} {text : String}
    (hw : value.wire = .ok text) (feature : String) :
    ∃ calls, Ends s feature (.set feature text) (s.write feature value).1 calls
      (s.write feature value).2 := by
  unfold Site.write
  rw [hw]
  dsimp only
  split
  case isTrue => exact ⟨[], .refused rfl⟩
  case isFalse hs =>
    have hs : s.device.status = .connected := status_of_isConnected (by simpa using hs)
    split
    next f hf => exact writeVirtual_ends text hs hf
    next hf =>
      split
      next e hc =>
        rw [connection_error hc]
        exact ⟨[], .refused rfl⟩
      next c hc =>
        exact writeDevice_ends text hs hf (h.linkTask_of_connected hs) (handle_of_connection hc)

end Site

end CameraDriver
