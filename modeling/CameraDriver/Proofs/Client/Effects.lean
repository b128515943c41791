/-
What the answer of a read or a write tells of its effect.

Both calls merge, target a device, and ask it, and are what they do at the site
of the device (`onTarget_eq`). So whatever an answer tells is told by the ends of
a call at a site (`Site.Ends`), and the client adds nothing to it.

The site that is found is reachable whether the device was known or not, and this
is all that the coherence of status, connection and tasks is used for: it is why
a hard failure always takes the link down.
-/
import CameraDriver.Proofs.Client.Calls
import CameraDriver.Proofs.Client.Refusal
import CameraDriver.Proofs.Device.Effects

namespace CameraDriver

variable {σ H F : Type}

-- ================================================================= answers

namespace Site

variable [Camera σ H F]

/-- What the failure of a call about a feature, or its success, tells of what the
call has done. -/
structure Tells (s : Site σ H F) (feature : String) (asked : Except Value.Kind Inquiry)
    (failure : Option DriverError) (s' : Site σ H F) : Prop where
  unsupported : ∀ kind, asked = .error kind → failure = some (.unsupportedType kind)
  refused : ∀ e, failure = some e → e.isRefusal = true → s' = s
  /-- The device was asked once, and stays connected. -/
  soft : ∀ id reason, failure = some (.softHardware id reason) →
    ∃ inquiry e x, asked = .ok inquiry ∧ s.Asked inquiry (some e) x s'.camera ∧ e.isHard = false
      ∧ id = s.device.id ∧ s'.device = s.device.note x.event ∧ s'.device.status = .connected
  /-- The device was asked once, and one reconnect loop is in charge. -/
  hard : ∀ id reason, failure = some (.hardHardware id reason) →
    ∃ inquiry e x, asked = .ok inquiry ∧ s.Asked inquiry (some e) x s'.camera ∧ e.isHard = true
      ∧ id = s.device.id ∧ s.device.status = .connected
      ∧ s'.device = (s.device.note x.event).lost ∧ s'.device.status = .disconnected
      ∧ s'.device.record.reconnectLoops = s.device.record.reconnectLoops + 1
      ∧ s'.device.record.linkTask = some s.device.nextToken
      ∧ s'.device.links = s.device.links ++ [{ token := s.device.nextToken, stage := .spawned }]
  failures : ∀ e, failure = some e → e.isRefusal = true
    ∨ (∃ reason, e = .softHardware s.device.id reason)
    ∨ ∃ reason, e = .hardHardware s.device.id reason
  answered : failure = none → VirtualFeature.ofName? feature = none →
    ∃ inquiry x, asked = .ok inquiry ∧ s.Asked inquiry none x s'.camera
      ∧ s'.device = s.device.note x.event
  /-- The device was not asked for a feature, whatever else it was asked. -/
  served : failure = none → VirtualFeature.ofName? feature ≠ none →
    ∃ calls, Served s.camera calls s'.camera
      ∧ s'.device.log = calls.map (·.event) ++ s.device.log
      ∧ ∀ x ∈ calls, x.event.inquiry? = none

variable {s s' : Site σ H F} {feature : String}

/-- A refusal leaves everything as it was. -/
theorem tells_of_refusal {asked : Except Value.Kind Inquiry} {e : DriverError}
    (he : e.isRefusal = true) (hasked : ∀ kind, asked = .error kind → e = .unsupportedType kind) :
    Tells s feature asked (some e) s where
  unsupported := fun kind hkind => congrArg some (hasked kind hkind)
  refused := fun _ _ _ => rfl
  soft := by rintro id reason h; cases h; cases he
  hard := by rintro id reason h; cases h; cases he
  failures := by rintro e' h; cases h; exact .inl he
  answered := fun h => by cases h
  served := fun h => by cases h

/-- A success has been asked of the device, or the driver serves the feature. -/
theorem tells_of_success {inquiry : Inquiry}
    (hdevice : VirtualFeature.ofName? feature = none →
      ∃ x, s.Asked inquiry none x s'.camera ∧ s'.device = s.device.note x.event)
    (hdriver : VirtualFeature.ofName? feature ≠ none →
      ∃ calls, Served s.camera calls s'.camera
        ∧ s'.device.log = calls.map (·.event) ++ s.device.log
        ∧ ∀ x ∈ calls, x.event.inquiry? = none) :
    Tells s feature (.ok inquiry) none s' where
  unsupported := fun kind h => by cases h
  refused := fun e h => by cases h
  soft := fun id reason h => by cases h
  hard := fun id reason h => by cases h
  failures := fun e h => by cases h
  answered := by
    intro _ hf
    obtain ⟨x, hx, hd⟩ := hdevice hf
    exact ⟨inquiry, x, rfl, hx, hd⟩
  served := fun _ hf => hdriver hf

/-- Every end tells. -/
theorem Ends.tells {α : Type} {inquiry : Inquiry} {answer : Except DriverError α}
    {calls : List (Call H)} (h : Ends s feature inquiry answer calls s') :
    Tells s feature (.ok inquiry) (Client.errorOf? answer) s' := by
  have hserved := h.calls_served
  have hlog := h.log
  cases h with
  | refused he => exact tells_of_refusal he fun kind h => by cases h
  | @served f _ _ _ hf _ =>
      refine tells_of_success ?_ ?_
      · -- the feature is a virtual one
        intro hnone
        rw [hf] at hnone
        cases hnone
      · -- and leaves the camera alone
        intro _
        exact ⟨[], hserved, hlog, fun x hx => by cases hx⟩
  | triggered _ hf _ _ _ _ hcalls =>
      refine tells_of_success ?_ ?_
      · -- the feature is a virtual one
        intro hnone
        rw [hf] at hnone
        cases hnone
      · -- whose calls are those of the grab
        intro _
        exact ⟨calls, hserved, hlog, fun x hx => Event.inquiry?_of_isGrab (hcalls x hx)⟩
  | @answered _ x camera _ hf hx =>
      refine tells_of_success ?_ ?_
      · -- the camera's own answer
        intro _
        exact ⟨x, hx, rfl⟩
      · intro hsome
        exact absurd hf hsome
  | @soft e reason x camera hs _ he hx =>
      exact
        { unsupported := fun kind h => by cases h
          refused := fun e h hrefusal => by cases h; cases hrefusal
          soft := fun id reason h => by cases h; exact ⟨inquiry, e, x, rfl, hx, he, rfl, rfl, hs⟩
          hard := fun id reason h => by cases h
          failures := fun e h => by cases h; exact .inr (.inl ⟨_, rfl⟩)
          answered := fun h => by cases h
          served := fun h => by cases h }
  | @hard e reason x camera hs _ he hx =>
      exact
        { unsupported := fun kind h => by cases h
          refused := fun e h hrefusal => by cases h; cases hrefusal
          soft := fun id reason h => by cases h
          hard := fun id reason h => by
            cases h
            exact ⟨inquiry, e, x, rfl, hx, he, rfl, hs, rfl, rfl, rfl, rfl, rfl⟩
          failures := fun e h => by cases h; exact .inr (.inr ⟨_, rfl⟩)
          answered := fun h => by cases h
          served := fun h => by cases h }

end Site

namespace Client

variable [Camera σ H F] {c c₁ : Client σ H F} {blobs : Blobs} {configuration : Configuration}
  {id : DeviceId}

-- =================================================================== calls

omit [Camera σ H F] in
/-- What a read or a write asks of the device about a feature that it has
itself; a value may have no text to ask with. -/
def Step.inquiry? : Step → String → Option (Except Value.Kind Inquiry)
  | .readDeviceData _, feature => some (.ok (.get feature))
  | .writeDeviceData value _, feature => some (value.wire.map (.set feature))
  | _, _ => none

/-- A read or a write whose merge names a device tells what was done at the site
of the device. -/
theorem Proper.apply_tells (hp : c.Proper) {step : Step} {asked : Except Value.Kind Inquiry}
    (hblobs : step.blobs? = some blobs) (hm : c.merge blobs = .ok (configuration, c₁))
    (hid : configuration.deviceId = .ok id)
    (hstep : step.inquiry? configuration.featureName = some asked) :
    ∃ s', c.apply step = c.withSite c₁.store id s'
      ∧ (c.targeted id configuration.featureName).Tells configuration.featureName asked
        (c.failure? step) s' := by
  have hr := hp.targeted_reachable id configuration.featureName
  cases step with
  | readDeviceData merged =>
      cases hblobs
      cases hstep
      have heq := onTarget_eq Site.read hm hid
      have hanswer : c.failure? (.readDeviceData blobs) = _ :=
        congrArg errorOf? (congrArg Prod.fst heq)
      obtain ⟨calls, hends⟩ := hr.read_ends configuration.featureName
      refine ⟨_, congrArg Prod.snd heq, ?_⟩
      rw [hanswer]
      exact hends.tells
  | writeDeviceData value merged =>
      cases hblobs
      cases hstep
      have heq := onTarget_eq (fun feature s => Site.write feature value s) hm hid
      have hanswer : c.failure? (.writeDeviceData value blobs) = _ :=
        congrArg errorOf? (congrArg Prod.fst heq)
      refine ⟨_, congrArg Prod.snd heq, ?_⟩
      rw [hanswer]
      cases hw : value.wire with
      | error kind =>
          rw [Site.write_unsupported hw]
          refine Site.tells_of_refusal rfl ?_
          intro kind' hkind
          rw [Except.error.inj hkind]
      | ok text =>
          obtain ⟨calls, hends⟩ := hr.write_ends hw configuration.featureName
          exact hends.tells
  | _ => cases hstep

-- =================================================================== effect

/-- What a read or a write whose merge names a device has done, by its answer. It
stores the configuration, makes the device known and sets the feature that is
targeted; all else is told by the answer. A value without text is refused, in
every state of a device. A refusal has done nothing more. On a soft failure the
device was asked once and stays connected. On a hard one it was asked once, is
disconnected, and one reconnect loop was started. No other error is answered.
If the call succeeds on a feature that the device itself has, the device was
asked once, by the name of the feature and with the text of the value, else it
was not asked for a feature at all. -/
theorem Reachable.answer_tells_effect (h : c.Reachable) {step : Step}
    {asked : Except Value.Kind Inquiry} (hblobs : step.blobs? = some blobs)
    (hm : c.merge blobs = .ok (configuration, c₁)) (hid : configuration.deviceId = .ok id)
    (hstep : step.inquiry? configuration.featureName = some asked) :
    (∃ s', c.apply step = c.withSite c₁.store id s'
      ∧ (c.targeted id configuration.featureName).device.id = id
      ∧ (c.targeted id configuration.featureName).Tells configuration.featureName asked
        (c.failure? step) s')
      ∧ ∀ (s : Site σ H F) (feature : String),
          (∀ items, s.write feature (.list items) = (.error (.unsupportedType .list), s))
            ∧ ∀ members, s.write feature (.map members) = (.error (.unsupportedType .map), s) := by
  refine ⟨?_, ?_⟩
  · -- the answer to a call, against what was done on the device it names
    obtain ⟨s', happly, htells⟩ := h.proper.apply_tells hblobs hm hid hstep
    exact ⟨s', happly, h.proper.found_id id, htells⟩
  · -- lists and maps are written in no state
    intro s feature
    refine ⟨?_, ?_⟩
    · intro items
      exact Site.write_unsupported rfl feature s
    · intro members
      exact Site.write_unsupported rfl feature s

/-- A read that fails hard on a connected device. -/
theorem Reachable.answer_tells_effect_of_hard_read :
    let id : DeviceId := ⟨"a"⟩
    let common := Text.Utf8.encode "\x7b\"customizedValues\":\x7b\"deviceSN\":\"a\"\x7d\x7d"
    let visitor := Text.Utf8.encode "\x7b\"configData\":\x7b\"FeatureName\":\"Gain\"\x7d\x7d"
    let c : Client SimulatedCamera SimulatedCamera.Handle Bytes :=
      Client.run
        { settings := .default
          camera := (({} : SimulatedCamera).attach id).failNextCall id (.hard "gone") }
        [.initDevice (some common), .device id (.reach 0), .device id (.resume 0 0)]
    let blobs : Blobs := { visitor := some visitor }
    let s := c.targeted id "Gain"
    let failure := DriverError.hardHardware id "get Gain from device a failed: gone"
    c.failure? (.readDeviceData blobs) = some failure
      ∧ ∃ (inquiry : Inquiry) (e : HardwareError) (x : Call SimulatedCamera.Handle)
          (after : Site SimulatedCamera SimulatedCamera.Handle Bytes),
        inquiry = .get "Gain" ∧ s.Asked inquiry (some e) x after.camera
          ∧ after.device = (s.device.note x.event).lost ∧ after.device.status = .disconnected := by
  intro id common visitor c blobs s failure
  have hc : c.Reachable := ⟨_, _, _, rfl⟩
  have hfailure : c.failure? (.readDeviceData blobs) = some failure := by decide +kernel
  have hmerged : (c.merge blobs).toOption.map
      (fun r => (r.1.deviceId.toOption, r.1.featureName)) = some (some id, "Gain") := by
    decide +kernel
  cases hm : c.merge blobs with
  | error e =>
      rw [hm] at hmerged
      cases hmerged
  | ok r =>
      obtain ⟨configuration, c₁⟩ := r
      rw [hm] at hmerged
      obtain ⟨hid, hfeature⟩ := Prod.mk.inj (Option.some.inj hmerged)
      have hid : configuration.deviceId = .ok id := by
        cases hd : configuration.deviceId with
        | error e => rw [hd] at hid; cases hid
        | ok other => rw [hd] at hid; rw [Option.some.inj hid]
      have hblobs : (Step.readDeviceData blobs).blobs? = some blobs := rfl
      obtain ⟨⟨after, -, -, htells⟩, -⟩ := Reachable.answer_tells_effect hc hblobs hm hid rfl
      rw [hfeature] at htells
      obtain ⟨inquiry, e, x, hasked, hx, -, -, -, hd, hs, -⟩ := htells.hard _ _ hfailure
      exact ⟨hfailure, inquiry, e, x, after, (Except.ok.inj hasked).symm, hx, hd, hs⟩

end Client

end CameraDriver
