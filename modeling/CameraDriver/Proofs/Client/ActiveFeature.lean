/-
The active feature of a device and the feature that the stored configuration
names.

The first is a copy of the second, kept in the record of whichever device the
configuration names. Setting the configuration, reading and writing merge and
then target the device, which writes the copy anew (`apply_agrees_of_merge`).
Nothing else writes it, so that between merges it stays in agreement
(`apply_agrees`).

Initialising a device merges too, but targets nothing. It cannot change the
feature that is named, since it takes a common part only; what it can change is
the device. So agreement is lost exactly if the device that is named now has
another feature in its record than the configuration (`initDevice_agrees_iff`),
and comes back with the next call that targets it.
-/
import CameraDriver.Proofs.Client.Halt
import CameraDriver.Proofs.Client.Refusal
import CameraDriver.Proofs.Device.Frame

namespace CameraDriver

variable {σ H F : Type}

-- ================================================================== merges

namespace Configuration

/-- A call without a visitor blob leaves the visitor part. -/
theorem merge_visitor {c c' : Configuration} {blobs : Blobs} (hv : blobs.visitor = none)
    (h : c.merge blobs = .ok c') : c'.visitor = c.visitor := by
  unfold merge at h
  split at h
  · cases h
    rfl
  · rw [hv] at h
    cases hc : mergePart .common CommonConfig.decode c.common c.common.encode blobs.common with
    | error e =>
        rw [hc] at h
        cases h
    | ok common =>
        rw [hc] at h
        cases hp : mergePart .protocol ProtocolConfig.decode c.protocol c.protocol.encode
            blobs.protocol with
        | error e =>
            rw [hp] at h
            cases h
        | ok protocol =>
            rw [hp] at h
            cases h
            rfl

end Configuration

/-- What a merge gives is what is stored then: what was stored before, if the
merge makes no difference, or the merged configuration. -/
theorem Store.merge_eq_ok {s s' : Store} {blobs : Blobs} {configuration : Configuration}
    {changed : Bool} (h : s.merge blobs = .ok (configuration, changed, s')) :
    s'.current = configuration
      ∧ (configuration = s.current ∨ s.current.merge blobs = .ok configuration) := by
  unfold merge at h
  cases hm : s.current.merge blobs with
  | error e =>
      rw [hm] at h
      cases h
  | ok next =>
      rw [hm] at h
      change (if next.same s.current then _ else _ : Except DriverError _) = _ at h
      split at h <;> cases h
      · exact ⟨rfl, .inl rfl⟩
      · exact ⟨rfl, .inr rfl⟩

namespace Client

variable {c c' : Client σ H F} {blobs : Blobs} {configuration : Configuration}

/-- A merge gives the configuration that is stored afterwards, and touches no device. -/
theorem merge_eq_ok (h : c.merge blobs = .ok (configuration, c')) :
    c'.store.current = configuration ∧ c'.devices = c.devices
      ∧ (configuration = c.store.current ∨ c.store.current.merge blobs = .ok configuration) := by
  unfold merge at h
  split at h
  next hm =>
    cases h
    obtain ⟨hcurrent, hbefore⟩ := Store.merge_eq_ok hm
    exact ⟨hcurrent, rfl, hbefore⟩
  next => cases h

/-- Without a visitor blob the name of the feature stays. -/
theorem merge_featureName (hv : blobs.visitor = none)
    (h : c.merge blobs = .ok (configuration, c')) :
    configuration.featureName = c.store.current.featureName := by
  obtain ⟨-, -, rfl | hm⟩ := merge_eq_ok h
  · rfl
  · exact congrArg VisitorConfig.featureName (Configuration.merge_visitor hv hm)

-- =============================================================== agreement

/-- The active feature of a device, if it is known. -/
def activeFeature? (c : Client σ H F) (id : DeviceId) : Option String :=
  (c.devices.get? id).map (·.record.activeFeature)

/-- The device that the stored configuration names, if it names one, is known,
and its active feature is the one that the configuration names. -/
def Agrees (c : Client σ H F) : Prop :=
  ∀ id, c.store.current.deviceId = .ok id →
    c.activeFeature? id = some c.store.current.featureName

/-- Only a known device has a feature that is targeted. -/
theorem isSome_of_activeFeature? {id : DeviceId} {feature : String}
    (h : c.activeFeature? id = some feature) : (c.devices.get? id).isSome = true := by
  obtain ⟨d, hd, -⟩ := Option.map_eq_some_iff.mp h
  rw [hd]
  rfl

theorem register_store (c : Client σ H F) (id : DeviceId) : (c.register id).store = c.store := by
  cases hd : c.devices.get? id with
  | some d => rw [register_known hd]
  | none => rw [register_unknown hd]

/-- A device that becomes known has no active feature yet. -/
theorem activeFeature?_register (c : Client σ H F) (id other : DeviceId) :
    (c.register id).activeFeature? other =
      if other = id then some ((c.activeFeature? id).getD "") else c.activeFeature? other := by
  unfold activeFeature?
  cases hd : c.devices.get? id with
  | some d =>
      rw [register_known hd]
      split
      case isTrue heq =>
        rw [heq, hd]
        rfl
      case isFalse => rfl
  | none =>
      rw [register_unknown hd]
      split
      case isTrue heq =>
        rw [heq]
        exact congrArg (Option.map _) (Registry.get?_insert_self _ _ _)
      case isFalse hne => exact congrArg (Option.map _) (Registry.get?_insert_ne _ _ hne)

/-- What is done with a device without setting its active feature leaves all of
them. -/
theorem activeFeature?_onDevice {f : Site σ H F → Site σ H F} (id other : DeviceId)
    (hf : ∀ s, (f s).device.record.activeFeature = s.device.record.activeFeature) :
    (c.onDevice id f).activeFeature? other = c.activeFeature? other := by
  unfold activeFeature?
  rw [get?_onDevice]
  split
  case isTrue heq =>
    rw [heq, Option.map_map]
    refine congrArg (Option.map · _) ?_
    funext d
    exact hf _
  case isFalse => rfl

/-- Where the same is stored and the same features are active, agreement
stays. -/
theorem Agrees.congr (h : c.Agrees) (hs : c'.store = c.store)
    (hf : ∀ id, c'.activeFeature? id = c.activeFeature? id) : c'.Agrees := by
  intro id hid
  rw [hf, hs]
  rw [hs] at hid
  exact h id hid

/-- A client that has stored nothing names no device. -/
theorem agrees_fresh (settings : ClientSettings) (camera : σ) :
    ({ settings, camera } : Client σ H F).Agrees := by
  intro id hid
  cases hid

-- =============================================================== targeting

theorem target_store (c : Client σ H F) (configuration : Configuration) :
    (c.target configuration).2.store = c.store := by
  unfold target
  split
  · rfl
  · exact (onDevice_store _ _ _).trans (register_store _ _)

/-- Targeting what is stored brings the active feature into agreement. -/
theorem target_agrees (h : c.store.current = configuration) :
    (c.target configuration).2.Agrees := by
  intro id hid
  rw [target_store, h] at hid ⊢
  unfold target
  rw [hid]
  have hregistered := activeFeature?_register c id id
  rw [if_pos rfl] at hregistered
  obtain ⟨d, hd⟩ := Option.isSome_iff_exists.mp (isSome_of_activeFeature? hregistered)
  unfold activeFeature?
  rw [get?_onDevice, if_pos rfl, hd]
  rfl

/-- A call on the device that is targeted leaves its feature in agreement with the
configuration. -/
theorem onTarget_agrees {α : Type} {f : String → Site σ H F → Except DriverError α × Site σ H F}
    (hf : ∀ feature s, (f feature s).2.device.record.activeFeature
      = s.device.record.activeFeature)
    (hm : c.merge blobs = .ok (configuration, c')) : (c.onTarget blobs f).2.Agrees := by
  have htarget := target_agrees (merge_eq_ok hm).1
  unfold onTarget
  rw [hm]
  dsimp only
  split
  next heq =>
    rw [heq] at htarget
    exact htarget
  next id c₂ heq =>
    rw [heq] at htarget
    have hat : (c₂.atDevice? id (f configuration.featureName)).2.Agrees := by
      rw [atDevice?_snd]
      exact htarget.congr (onDevice_store _ _ _)
        fun other => activeFeature?_onDevice id other (hf configuration.featureName)
    split
    next heq' =>
      rw [heq'] at hat
      exact hat
    next heq' =>
      rw [heq'] at hat
      exact hat

variable [Camera σ H F]

/-- Whether a step is a call to initialise a device. -/
def Step.isInit : Step → Bool
  | .initDevice _ => true
  | _ => false

/-- Whether a step targets a feature of a device for which no configuration
was merged; no call does. -/
def Step.bypasses : Step → Bool
  | .device _ (.target _) => true
  | _ => false

/-- A call that has merged is in agreement, whatever else becomes of it, unless
it initialises a device. -/
theorem apply_agrees_of_merge {step : Step} (hstep : step.blobs? = some blobs)
    (hinit : step.isInit = false) (hm : c.merge blobs = .ok (configuration, c')) :
    (c.apply step).Agrees := by
  cases step with
  | initDevice common => cases hinit
  | setConfig blobs =>
      cases hstep
      have htarget := target_agrees (merge_eq_ok hm).1
      show (c.setConfig blobs).2.Agrees
      unfold setConfig
      rw [hm]
      dsimp only
      split <;> next heq => rw [heq] at htarget; exact htarget
  | readDeviceData blobs =>
      cases hstep
      exact onTarget_agrees (fun feature s => Site.read_activeFeature feature s) hm
  | writeDeviceData value blobs =>
      cases hstep
      exact onTarget_agrees (fun feature s => Site.write_activeFeature feature value s) hm
  | _ => cases hstep

-- ============================================================== other steps

theorem stopAll_agrees (h : c.Agrees) (ids : List DeviceId) : (c.stopAll ids).Agrees := by
  induction ids generalizing c with
  | nil => exact h
  | cons id rest ih =>
      refine ih (h.congr (onDevice_store c id _) ?_)
      intro other
      refine activeFeature?_onDevice id other ?_
      intro s
      show (s.apply ⟨0, 0⟩ .stop).device.record.activeFeature = _
      exact Site.apply_activeFeature ⟨0, 0⟩ s fun _ h => by cases h

/-- Every step but an initialisation keeps the active feature in agreement. -/
theorem apply_agrees (h : c.Agrees) {step : Step} (hinit : step.isInit = false)
    (hown : step.bypasses = false) : (c.apply step).Agrees := by
  -- a call that merges starts afresh, or fails and changes nothing
  have hmerging : ∀ blobs, step.blobs? = some blobs → (c.apply step).Agrees := by
    intro blobs hstep
    cases hm : c.merge blobs with
    | ok r => exact apply_agrees_of_merge hstep hinit hm
    | error e =>
        rw [(apply_of_merge_error hstep hm).2]
        exact h
  cases step with
  | initDevice common => cases hinit
  | setConfig blobs => exact hmerging blobs rfl
  | readDeviceData blobs => exact hmerging blobs rfl
  | writeDeviceData value blobs => exact hmerging blobs rfl
  | getDeviceStatus blobs => exact h
  | stop id =>
      show (c.stop id).2.Agrees
      unfold stop
      split
      · exact h
      · exact stopAll_agrees h [id]
  | stopDevice => exact stopAll_agrees h _
  | device id step =>
      refine h.congr (onDevice_store c id _) ?_
      intro other
      refine activeFeature?_onDevice id other ?_
      intro s
      refine Site.apply_activeFeature c.settings.pace s ?_
      rintro feature rfl
      cases hown

-- ========================================================== initialising

/-- A device that is initialised is the one that is named then, and keeps its
active feature; the feature that is named stays. -/
theorem initDevice_of_ok {common : Option Bytes} {id : DeviceId} {token : Option Token}
    (h : (c.initDevice common).1 = .ok (id, token)) :
    (c.apply (.initDevice common)).store.current.deviceId = .ok id
      ∧ (c.apply (.initDevice common)).store.current.featureName = c.store.current.featureName
      ∧ (c.apply (.initDevice common)).activeFeature? id
        = some ((c.activeFeature? id).getD "") := by
  show (c.initDevice common).2.store.current.deviceId = _
    ∧ (c.initDevice common).2.store.current.featureName = _
    ∧ (c.initDevice common).2.activeFeature? id = _
  unfold initDevice at h ⊢
  cases hm : c.merge { common } with
  | error e =>
      rw [hm] at h
      cases h
  | ok r =>
      obtain ⟨configuration, c₁⟩ := r
      obtain ⟨hcurrent, hdevices, -⟩ := merge_eq_ok hm
      have hfeature := merge_featureName rfl hm
      rw [hm] at h
      dsimp only at h ⊢
      cases hid : configuration.deviceId with
      | error e =>
          rw [hid] at h
          cases h
      | ok id' =>
          rw [hid] at h
          cases h
          dsimp only
          rw [atDevice?_snd, onDevice_store, register_store, hcurrent]
          refine ⟨hid, hfeature, ?_⟩
          have hconnect : ∀ s : Site σ H F,
              s.beginConnect.2.device.record.activeFeature = s.device.record.activeFeature := by
            intro s
            show (s.apply c.settings.pace .connect).device.record.activeFeature = _
            exact Site.apply_activeFeature c.settings.pace s fun _ h => by cases h
          rw [activeFeature?_onDevice id id hconnect, activeFeature?_register, if_pos rfl]
          unfold activeFeature?
          rw [hdevices]

/-- An initialisation that fails stores nothing, or a configuration that names
no device. -/
theorem initDevice_of_error {common : Option Bytes} {e : DriverError}
    (h : (c.initDevice common).1 = .error e) :
    c.apply (.initDevice common) = c
      ∨ ∃ e, (c.apply (.initDevice common)).store.current.deviceId = .error e := by
  show (c.initDevice common).2 = c ∨ ∃ e, (c.initDevice common).2.store.current.deviceId = .error e
  unfold initDevice at h ⊢
  cases hm : c.merge { common } with
  | error e => exact .inl rfl
  | ok r =>
      obtain ⟨configuration, c₁⟩ := r
      obtain ⟨hcurrent, -, -⟩ := merge_eq_ok hm
      rw [hm] at h
      dsimp only at h ⊢
      cases hid : configuration.deviceId with
      | error e' => exact .inr ⟨e', by rw [hcurrent, hid]⟩
      | ok id =>
          rw [hid] at h
          cases h

/-- After a device was initialised there is agreement exactly if the device had
the feature that is named as its own, and none is named if the device is
new. -/
theorem initDevice_agrees_iff {common : Option Bytes} {id : DeviceId} {token : Option Token}
    (h : (c.initDevice common).1 = .ok (id, token)) :
    (c.apply (.initDevice common)).Agrees
      ↔ (c.activeFeature? id).getD "" = c.store.current.featureName := by
  obtain ⟨hid, hfeature, hactive⟩ := initDevice_of_ok h
  constructor
  · intro hagrees
    have heq := hagrees id hid
    rw [hactive, hfeature] at heq
    exact Option.some.inj heq
  · intro heq other hother
    rw [hid] at hother
    cases hother
    rw [hactive, hfeature, heq]

-- ==================================================================== runs

/-- The device that the stored configuration names, if it names one, is
known. -/
def NamesKnown (c : Client σ H F) : Prop :=
  ∀ id, c.store.current.deviceId = .ok id → (c.devices.get? id).isSome = true

omit [Camera σ H F] in
/-- Where the feature agrees the device is known. -/
theorem Agrees.namesKnown (h : c.Agrees) : c.NamesKnown :=
  fun id hid => isSome_of_activeFeature? (h id hid)

omit [Camera σ H F] in
theorem NamesKnown.onDevice (h : c.NamesKnown) (id : DeviceId) (f : Site σ H F → Site σ H F) :
    (c.onDevice id f).NamesKnown := by
  intro other hother
  rw [onDevice_store] at hother
  have hknown := h other hother
  rw [get?_onDevice]
  split
  case isTrue heq =>
    rw [Option.isSome_map, ← heq]
    exact hknown
  case isFalse => exact hknown

theorem NamesKnown.stopAll (h : c.NamesKnown) (ids : List DeviceId) :
    (c.stopAll ids).NamesKnown := by
  induction ids generalizing c with
  | nil => exact h
  | cons id rest ih => exact ih (h.onDevice id Site.stop)

/-- Every step leaves the device that is named known. -/
theorem NamesKnown.apply (h : c.NamesKnown) (step : Step) : (c.apply step).NamesKnown := by
  have hmerging : ∀ blobs, step.blobs? = some blobs → step.isInit = false →
      (c.apply step).NamesKnown := by
    intro blobs hstep hinit
    cases hm : c.merge blobs with
    | ok r => exact (apply_agrees_of_merge hstep hinit hm).namesKnown
    | error e =>
        rw [(apply_of_merge_error hstep hm).2]
        exact h
  cases step with
  | initDevice common =>
      cases hr : (c.initDevice common).1 with
      | ok r =>
          obtain ⟨hid, -, hactive⟩ := initDevice_of_ok hr
          intro other hother
          rw [hid] at hother
          cases hother
          exact isSome_of_activeFeature? hactive
      | error e =>
          rcases initDevice_of_error hr with heq | ⟨e', hid⟩
          · rw [heq]
            exact h
          · intro other hother
            rw [hid] at hother
            cases hother
  | setConfig blobs => exact hmerging blobs rfl rfl
  | readDeviceData blobs => exact hmerging blobs rfl rfl
  | writeDeviceData value blobs => exact hmerging blobs rfl rfl
  | getDeviceStatus blobs => exact h
  | stop id =>
      show (c.stop id).2.NamesKnown
      unfold stop
      split
      · exact h
      · exact h.onDevice id _
  | stopDevice => exact h.stopAll _
  | device id step => exact h.onDevice id _

/-- In every state the device that the configuration names is known. -/
theorem Reachable.namesKnown (h : c.Reachable) : c.NamesKnown := by
  obtain ⟨settings, camera, steps, rfl⟩ := h
  suffices hall : ∀ c : Client σ H F, c.NamesKnown → (c.run steps).NamesKnown from
    hall _ (agrees_fresh settings camera).namesKnown
  induction steps with
  | nil => exact fun c h => h
  | cons step rest ih => exact fun c h => ih _ (h.apply step)

/-- Whether steps that are taken one after the other target features through
calls only, and initialise only the device that is named already. -/
def StaysOn (c : Client σ H F) : List Step → Prop
  | [] => True
  | step :: rest => step.bypasses = false
      ∧ (∀ common id token, step = .initDevice common →
          (c.initDevice common).1 = .ok (id, token) → c.store.current.deviceId = .ok id)
      ∧ StaysOn (c.apply step) rest

/-- While only the device that is named is initialised, the active feature
stays in agreement. -/
theorem Agrees.run (h : c.Agrees) {steps : List Step} (hs : StaysOn c steps) :
    (c.run steps).Agrees := by
  induction steps generalizing c with
  | nil => exact h
  | cons step rest ih =>
      obtain ⟨hown, hinit, hrest⟩ := hs
      refine ih ?_ hrest
      cases hkind : step.isInit with
      | false => exact apply_agrees h hkind hown
      | true =>
          cases step with
          | initDevice common =>
              cases hr : (c.initDevice common).1 with
              | ok r =>
                  refine (initDevice_agrees_iff hr).mpr ?_
                  rw [h r.1 (hinit common r.1 r.2 rfl hr)]
                  rfl
              | error e =>
                  rcases initDevice_of_error hr with heq | ⟨e', hid⟩
                  · rw [heq]
                    exact h
                  · intro id hother
                    rw [hid] at hother
                    cases hother
          | _ => cases hkind

/-- In every state the device that the stored configuration names, if it names
one, is known. Its active feature is the one that the configuration names after
every call that has merged, except for initialisations, and whatever else
becomes of the call; and all other steps keep it so. After an initialisation it
is so exactly if the device had that feature as its own before. So it is in
every run in which only the device that is named already is initialised. -/
theorem Reachable.active_feature_follows {c : Client σ H F} (hc : c.Reachable) :
    (∀ id, c.store.current.deviceId = .ok id → (c.devices.get? id).isSome = true)
      ∧ (∀ (step : Step) (blobs : Blobs) (r : Configuration × Client σ H F),
          step.blobs? = some blobs → step.isInit = false → c.merge blobs = .ok r →
          (c.apply step).Agrees)
      ∧ (∀ step : Step, step.isInit = false → step.bypasses = false → c.Agrees →
          (c.apply step).Agrees)
      ∧ (∀ common id token, (c.initDevice common).1 = .ok (id, token) →
          ((c.apply (.initDevice common)).Agrees
            ↔ (c.activeFeature? id).getD "" = c.store.current.featureName))
      ∧ ∀ steps : List Step, StaysOn c steps → c.Agrees → (c.run steps).Agrees := by
  refine ⟨hc.namesKnown, ?_, ?_, ?_, ?_⟩
  · -- a call that merges and finds the target again
    intro step blobs r hstep hinit hm
    exact apply_agrees_of_merge hstep hinit hm
  · -- any other step but the start of a device
    intro step hinit hown h
    exact apply_agrees h hinit hown
  · -- the start of a device, which writes no active feature
    intro common id token h
    exact initDevice_agrees_iff h
  · -- a run without such steps
    intro steps hs h
    exact h.run hs

/-- A feature is configured before any device is named, and then a device is
initialised: it has no active feature. -/
theorem active_feature_of_init :
    let c : Client SimulatedCamera SimulatedCamera.Handle Bytes :=
      Client.run { settings := .default, camera := ({} : SimulatedCamera).attach ⟨"cam-1"⟩ }
        [.setConfig { visitor := some (Text.Utf8.encode
            "\x7b\"configData\":\x7b\"FeatureName\":\"Gain\"\x7d\x7d") },
          .initDevice (some (Text.Utf8.encode
            "\x7b\"customizedValues\":\x7b\"deviceSN\":\"cam-1\"\x7d\x7d"))]
    c.store.current.deviceId = .ok ⟨"cam-1"⟩ ∧ c.store.current.featureName = "Gain"
      ∧ c.activeFeature? ⟨"cam-1"⟩ = some "" ∧ c.Reachable ∧ ¬ c.Agrees := by
  intro c
  have hid : c.store.current.deviceId = .ok ⟨"cam-1"⟩ := by decide +kernel
  have hfeature : c.store.current.featureName = "Gain" := by decide +kernel
  have hactive : c.activeFeature? ⟨"cam-1"⟩ = some "" := by decide +kernel
  refine ⟨hid, hfeature, hactive, ⟨_, _, _, rfl⟩, ?_⟩
  intro h
  have heq := h _ hid
  rw [hactive, hfeature] at heq
  revert heq
  decide

/-- A device that is named when the feature is configured, and initialised
after that. -/
theorem Reachable.active_feature_follows_when_named :
    let common := Text.Utf8.encode
      "\x7b\"customizedValues\":\x7b\"deviceSN\":\"cam-1\"\x7d\x7d"
    let visitor := Text.Utf8.encode "\x7b\"configData\":\x7b\"FeatureName\":\"Gain\"\x7d\x7d"
    let c : Client SimulatedCamera SimulatedCamera.Handle Bytes :=
      Client.run { settings := .default, camera := ({} : SimulatedCamera).attach ⟨"cam-1"⟩ }
        [.setConfig { common := some common, visitor := some visitor }]
    (c.apply (.initDevice none)).Agrees
      ∧ (c.apply (.initDevice none)).activeFeature? ⟨"cam-1"⟩ = some "Gain" := by
  intro common visitor c
  have hinit : (c.initDevice none).1 = .ok (⟨"cam-1"⟩, some 0) := by decide +kernel
  have hbefore : (c.activeFeature? ⟨"cam-1"⟩).getD "" = c.store.current.featureName := by
    decide +kernel
  have hactive : (c.apply (.initDevice none)).activeFeature? ⟨"cam-1"⟩ = some "Gain" := by
    decide +kernel
  have hc : c.Reachable := ⟨_, _, _, rfl⟩
  obtain ⟨-, -, -, hiff, -⟩ := Reachable.active_feature_follows hc
  exact ⟨(hiff none _ _ hinit).mpr hbefore, hactive⟩

end Client

end CameraDriver
