/-
The devices that a client knows are those that were named.

# Naming

A call that merges blobs names the device whose serial number the merged configuration has,
white space around it or not (`Configuration.Names`); a merge that fails names none, and
neither does any other step (`Step.Names`). What the call answers does not matter: the
device is made known before anything is asked of it.

# The registry

A step makes known what it names and nothing else (`knows_apply`), so a device is known after a
run if and only if some step of the run named it (`knows_run`). The first such step finds a
fresh device and asks nothing of it (`apply_creates`). After it the device stays known, and
whatever is done goes on from where the device stands (`Proper.run_grows`): a later call that
names it is what it does at the site that is found (`apply_of_named`).
-/
import CameraDriver.Proofs.Client.Budget
import CameraDriver.Proofs.Client.Isolation
import CameraDriver.Proofs.Client.LastWrite
import CameraDriver.Proofs.Device.Grows
import CameraDriver.Proofs.Number.Numeral

namespace CameraDriver

variable {σ H F : Type}

-- ======================================================== serial numbers

namespace Configuration

variable {configuration : Configuration} {id : DeviceId}

/-- A configuration names a device: its serial number is the identifier, which is not empty and
has no white space at its ends, between white space or nothing. -/
structure Names (configuration : Configuration) (id : DeviceId) : Prop where
  spaced : ∃ lead trail,
    configuration.common.deviceSerial.toList = lead ++ (id.text.toList ++ trail)
      ∧ (∀ c ∈ lead, Text.isBlank c = true) ∧ ∀ c ∈ trail, Text.isBlank c = true
  nonempty : id.text.toList ≠ []
  first : ∀ c ∈ id.text.toList.head?, Text.isBlank c = false
  last : ∀ c ∈ id.text.toList.getLast?, Text.isBlank c = false

theorem names_iff : configuration.Names id ↔ configuration.deviceId = .ok id := by
  unfold deviceId
  dsimp only
  constructor
  · -- the blanks around the identifier are trimmed off
    rintro ⟨⟨lead, trail, hserial, hlead, htrail⟩, hne, hfirst, hlast⟩
    have htrim : Text.trim configuration.common.deviceSerial = id.text := by
      unfold Text.trim
      rw [hserial, Text.stripChars_append hlead htrail hne hfirst hlast, String.ofList_toList]
    rw [htrim, if_neg]
    rw [String.isEmpty_iff]
    rintro hempty
    exact hne (by rw [hempty]; rfl)
  · -- what is left of the serial is the identifier, and the rest is blank
    intro h
    split at h
    case isTrue => cases h
    case isFalse hne =>
      obtain rfl := Except.ok.inj h
      have htext : (Text.trim configuration.common.deviceSerial).toList
          = Text.stripChars Text.isBlank configuration.common.deviceSerial.toList :=
        String.toList_ofList
      refine ⟨?_, ?_, ?_, ?_⟩
      · rw [htext]
        exact Text.exists_stripChars _ _
      · intro hnil
        exact hne (String.isEmpty_iff.mpr (String.toList_eq_nil_iff.mp hnil))
      · rw [htext]
        exact Text.head?_stripChars
      · rw [htext]
        exact Text.getLast?_stripChars

end Configuration

namespace Client

variable {c c₁ : Client σ H F} {step : Step} {blobs : Blobs} {configuration : Configuration}
  {id other : DeviceId}

-- ================================================================= naming

/-- A step names a device: it merges blobs, the merge succeeds, and the merged configuration
names the device. -/
def Step.Names (c : Client σ H F) (step : Step) (id : DeviceId) : Prop :=
  ∃ blobs configuration c₁, step.blobs? = some blobs ∧ c.merge blobs = .ok (configuration, c₁)
    ∧ configuration.Names id

/-- What a call that merges does at the device that is named, by the feature that is
targeted. -/
def Step.does (step : Step) (feature : String) : List Site.Step :=
  match step with
  | .initDevice _ => [.connect]
  | .setConfig _ => [.target feature]
  | .readDeviceData _ => [.target feature, .read feature]
  | .writeDeviceData value _ => [.target feature, .write feature value]
  | _ => []

/-- A call with blobs is about the device that they name. -/
theorem Step.subject?_of_blobs (h : step.blobs? = some blobs) :
    step.subject? c = c.named? blobs := by
  cases step <;> cases h <;> rfl

/-- A call with blobs names that device, and no other. -/
theorem Step.names_iff (h : step.blobs? = some blobs) :
    step.Names c id ↔ c.named? blobs = some id := by
  rw [named?_eq_some]
  constructor
  · rintro ⟨blobs', configuration, c₁, h', hm, hid⟩
    obtain rfl := Option.some.inj (h.symm.trans h')
    exact ⟨configuration, c₁, hm, Configuration.names_iff.mp hid⟩
  · rintro ⟨configuration, c₁, hm, hid⟩
    exact ⟨blobs, configuration, c₁, h, hm, Configuration.names_iff.mpr hid⟩

/-- A step without blobs names none. -/
theorem Step.not_names (h : step.blobs? = none) : ¬ step.Names c id := by
  rintro ⟨blobs, _, _, h', -⟩
  rw [h] at h'
  cases h'

variable [Camera σ H F]

/-- A call that names a device is what it does at the site that it finds. -/
theorem apply_of_named (h : step.blobs? = some blobs) (hm : c.merge blobs = .ok (configuration, c₁))
    (hid : configuration.deviceId = .ok id) :
    c.apply step = c.withSite c₁.store id
      ((c.found id).run c.settings.pace (step.does configuration.featureName)) := by
  cases step with
  | initDevice common =>
      cases h
      exact congrArg Prod.snd (initDevice_eq hm hid)
  | setConfig _ =>
      cases h
      exact congrArg Prod.snd (setConfig_eq hm hid)
  | readDeviceData _ =>
      cases h
      exact congrArg Prod.snd (onTarget_eq Site.read hm hid)
  | writeDeviceData value _ =>
      cases h
      exact congrArg Prod.snd (onTarget_eq (fun feature s => Site.write feature value s) hm hid)
  | _ => cases h

-- =============================================================== registry

/-- A device is known. -/
def Knows (c : Client σ H F) (id : DeviceId) : Prop := ∃ d, c.devices.get? id = some d

omit [Camera σ H F] in
/-- A change of a device makes none known. -/
theorem knows_onDevice (f : Site σ H F → Site σ H F) :
    (c.onDevice other f).Knows id ↔ c.Knows id := by
  unfold Knows
  rw [get?_onDevice]
  split
  case isTrue heq =>
    rw [heq]
    simp
  case isFalse => rfl

/-- Stopping devices makes none known. -/
theorem knows_stopAll (ids : List DeviceId) : (c.stopAll ids).Knows id ↔ c.Knows id := by
  induction ids generalizing c with
  | nil => rfl
  | cons first rest ih => exact ih.trans (knows_onDevice Site.stop)

/-- A step makes known the device that it names, and no other one. -/
theorem knows_apply : (c.apply step).Knows id ↔ c.Knows id ∨ step.Names c id := by
  cases hb : step.blobs? with
  | none =>
      rw [or_iff_left (Step.not_names hb)]
      cases step with
      | getDeviceStatus _ => rfl
      | stop named =>
          show (c.stop named).2.Knows id ↔ _
          unfold stop
          split
          · rfl
          · exact knows_onDevice Site.stop
      | stopDevice => exact knows_stopAll c.devices.ids
      | device named own => exact knows_onDevice _
      | _ => cases hb
  | some blobs =>
      rw [Step.names_iff hb]
      cases hn : c.named? blobs with
      | none =>
          have hstop : step ≠ .stopDevice := by
            rintro rfl
            cases hb
          obtain ⟨store, happly⟩ := apply_of_unnamed ((Step.subject?_of_blobs hb).trans hn) hstop
          rw [happly, or_iff_left nofun]
          rfl
      | some named =>
          obtain ⟨configuration, c₁, hm, hid⟩ := named?_eq_some.mp hn
          rw [apply_of_named hb hm hid]
          by_cases heq : id = named
          · subst heq
            exact iff_of_true ⟨_, Registry.get?_insert_self _ _ _⟩ (.inr rfl)
          · unfold Knows
            rw [get?_withSite_ne heq, or_iff_left]
            rintro h
            exact heq (Option.some.inj h).symm

/-- What names only devices that are known makes no entry. -/
theorem Proper.ids_apply (hp : c.Proper) (h : ∀ id, step.Names c id → c.Knows id) :
    (c.apply step).devices.ids = c.devices.ids := by
  have hp' : (c.apply step).Proper := hp.run [step]
  refine Registry.Ascending.ids_ext hp'.ascending hp.ascending fun id => ?_
  rw [hp.ascending.mem_ids, hp'.ascending.mem_ids]
  exact knows_apply.trans (or_iff_left_of_imp (h id))

/-- A run makes known the devices that its steps name. -/
theorem knows_run (c : Client σ H F) (steps : List Step) (id : DeviceId) :
    (c.run steps).Knows id ↔ c.Knows id ∨ ∃ before step after,
      steps = before ++ step :: after ∧ step.Names (c.run before) id := by
  induction steps generalizing c with
  | nil =>
      rw [or_iff_left]
      · rfl
      · -- no step is in an empty list
        rintro ⟨before, step, after, h, -⟩
        cases before <;> cases h
  | cons first rest ih =>
      show ((c.apply first).run rest).Knows id ↔ _
      rw [ih, knows_apply, or_assoc]
      refine or_congr_right ?_
      constructor
      · -- named by the first step, or by one of the rest
        rintro (h | ⟨before, step, after, rfl, h⟩)
        · exact ⟨[], first, rest, rfl, h⟩
        · exact ⟨first :: before, step, after, rfl, h⟩
      · -- the step that named it is the first, or one of the rest
        rintro ⟨before, step, after, heq, h⟩
        cases before with
        | nil =>
            obtain ⟨rfl, rfl⟩ := List.cons.inj heq
            exact .inl h
        | cons first' before =>
            obtain ⟨rfl, rfl⟩ := List.cons.inj heq
            exact .inr ⟨before, step, after, rfl, h⟩

/-- There is a first step that names it. -/
theorem exists_first_of_knows {steps : List Step} (h : (c.run steps).Knows id)
    (hnew : ¬ c.Knows id) : ∃ before step after,
      steps = before ++ step :: after ∧ ¬ (c.run before).Knows id
        ∧ step.Names (c.run before) id := by
  induction steps generalizing c with
  | nil => exact absurd h hnew
  | cons first rest ih =>
      by_cases hfirst : (c.apply first).Knows id
      · exact ⟨[], first, rest, rfl, hnew, (knows_apply.mp hfirst).resolve_left hnew⟩
      · obtain ⟨before, step, after, rfl, hunknown, hnames⟩ := ih h hfirst
        exact ⟨first :: before, step, after, rfl, hunknown, hnames⟩

-- ================================================================ records

/-- A device as the call leaves it that names it for the first time: it was never connected,
and has the client's settings. -/
structure Created (settings : ClientSettings) (id : DeviceId) (d : Device H F) : Prop where
  id : d.id = id
  status : d.status = .disconnected
  history : d.history = []
  log : d.log = []
  handle : d.record.handle = none
  capture : d.record.capture = { format := settings.imageFormat }
  maxRetry : d.record.maxRetry = settings.maxRetry

omit [Camera σ H F] in
theorem created_fresh (settings : ClientSettings) (id : DeviceId) :
    Created settings id (Device.fresh id settings.imageFormat settings.maxRetry : Device H F) :=
  ⟨rfl, rfl, rfl, rfl, rfl, rfl, rfl⟩

/-- A call on a device that is not connected asks nothing of it. -/
theorem Created.apply {settings : ClientSettings} {s : Site σ H F}
    (h : Created settings id s.device) (pace : Site.Pace) {own : Site.Step}
    (hcall : own.isCall = true) : Created settings id (s.apply pace own).device := by
  have hs : s.device.status ≠ .connected := by
    rw [h.status]
    nofun
  cases own with
  | connect =>
      show Created settings id s.beginConnect.2.device
      unfold Site.beginConnect
      split
      · exact h
      · exact ⟨h.id, h.status, h.history, h.log, h.handle, h.capture, h.maxRetry⟩
  | target feature => exact ⟨h.id, h.status, h.history, h.log, h.handle, h.capture, h.maxRetry⟩
  | read feature =>
      show Created settings id (s.read feature).2.device
      rwa [Site.read_of_not_connected feature hs]
  | write feature value =>
      show Created settings id (s.write feature value).2.device
      rwa [Site.write_of_not_connected feature value hs]
  | _ => cases hcall

/-- A device that was created has the settings until a caller writes others. -/
theorem Created.run {settings : ClientSettings} {s : Site σ H F}
    (h : Created settings id s.device) (pace : Site.Pace) {owns : List Site.Step}
    (hcalls : ∀ own ∈ owns, own.isCall = true) : Created settings id (s.run pace owns).device := by
  induction owns generalizing s with
  | nil => exact h
  | cons own rest ih =>
      obtain ⟨hcall, hrest⟩ := List.forall_mem_cons.mp hcalls
      exact ih (h.apply pace hcall) hrest

omit [Camera σ H F] in
/-- What a call does with its device is a call to it. -/
theorem Step.isCall_of_does (step : Step) (feature : String) :
    ∀ own ∈ step.does feature, own.isCall = true := by
  cases step <;> simp [Step.does, Site.Step.isCall]

/-- The first step that names a device creates it. -/
theorem apply_creates (h : step.Names c id) (hnew : ¬ c.Knows id) :
    ∃ d, (c.apply step).devices.get? id = some d ∧ Created c.settings id d := by
  obtain ⟨blobs, configuration, c₁, hb, hm, hid⟩ := h
  refine ⟨_, ?_, Created.run (s := c.found id) ?_ c.settings.pace
    (step.isCall_of_does configuration.featureName)⟩
  · rw [apply_of_named hb hm (Configuration.names_iff.mp hid)]
    exact Registry.get?_insert_self _ _ _
  · cases hd : c.devices.get? id with
    | some d => exact absurd ⟨d, hd⟩ hnew
    | none =>
        unfold found
        rw [hd]
        exact created_fresh c.settings id

/-- A device that is known stays so, and goes on from where it stands. -/
theorem Proper.run_grows (hp : c.Proper) {d : Device H F} (hd : c.devices.get? id = some d)
    (steps : List Step) : ∃ d', (c.run steps).devices.get? id = some d' ∧ d.Grows d' := by
  induction steps generalizing c d with
  | nil => exact ⟨d, hd, .refl d⟩
  | cons step rest ih =>
      obtain ⟨acts, hmoves, -⟩ := apply_acts c step
      obtain ⟨m, hm, hgrows⟩ := hmoves.keeps_device (P := d.Grows) hp hd (.refl d)
        fun s pace own _ _ h => h.trans (Site.apply_grows pace s own)
      obtain ⟨d', hd', hgrows'⟩ := ih (hp.run [step]) hm
      exact ⟨d', hd', hgrows.trans hgrows'⟩

/-- A device that becomes known in a run is created by one of its steps, and what is known of it
at the end has become of what was created. -/
theorem Proper.run_creates (hp : c.Proper) {steps : List Step} (h : (c.run steps).Knows id)
    (hnew : ¬ c.Knows id) : ∃ before step after d₀ d, steps = before ++ step :: after
      ∧ ¬ (c.run before).Knows id ∧ step.Names (c.run before) id
      ∧ (c.run (before ++ [step])).devices.get? id = some d₀ ∧ Created c.settings id d₀
      ∧ (c.run steps).devices.get? id = some d ∧ d₀.Grows d := by
  obtain ⟨before, step, after, rfl, hunknown, hnames⟩ := exists_first_of_knows h hnew
  obtain ⟨d₀, hd₀, hcreated⟩ := apply_creates hnames hunknown
  rw [run_settings] at hcreated
  have hthen : c.run (before ++ [step]) = (c.run before).apply step := List.foldl_append
  have hlast : c.run (before ++ step :: after) = ((c.run before).apply step).run after :=
    List.foldl_append
  obtain ⟨d, hd, hgrows⟩ := Proper.run_grows ((hp.run before).run [step]) hd₀ after
  exact ⟨before, step, after, d₀, d, rfl, hunknown, hnames, hthen ▸ hd₀, hcreated, hlast ▸ hd,
    hgrows⟩

/-- Whether a step is a write, called for or taken by itself. -/
def Step.isWrite : Step → Bool
  | .writeDeviceData .. => true
  | .device _ own => own.isWrite
  | _ => false

omit [Camera σ H F] in
/-- A call that writes nothing does not write to the device. -/
theorem Step.Acts.not_write {a : DeviceId × Site.Step} (h : step.Acts c a)
    (hwrite : step.isWrite = false) : a.2.isWrite = false := by
  by_cases hown : ∃ other own, step = .device other own
  · obtain ⟨other, own, rfl⟩ := hown
    obtain rfl : a = (other, own) := h
    exact hwrite
  · have hcall := (h.of_call fun other own heq => hown ⟨other, own, heq⟩).2
    rw [Bool.eq_false_iff]
    intro hw
    obtain ⟨value, blobs, rfl⟩ := hcall hw
    cases hwrite

/-- What callers have asked of a device that is known stays, but for the feature that is
targeted, unless something is written. -/
theorem Proper.apply_wishes (hp : c.Proper) {d : Device H F} (hd : c.devices.get? id = some d)
    (hwrite : step.isWrite = false) : ∃ d', (c.apply step).devices.get? id = some d'
      ∧ d'.record.wishes
        = { d.record.wishes with activeFeature := d'.record.wishes.activeFeature } := by
  obtain ⟨acts, hmoves, hacts⟩ := apply_acts c step
  refine hmoves.keeps_device (P := fun d' => d'.record.wishes
    = { d.record.wishes with activeFeature := d'.record.wishes.activeFeature }) hp hd rfl ?_
  intro s pace own hm _ h
  have hown := (hacts _ hm).not_write hwrite
  cases own with
  | target feature => exact congrArg (fun w => { w with activeFeature := feature }) h
  | write feature value => cases hown
  | _ =>
      rw [Site.apply_wishes pace s (fun _ _ h => by cases h) (fun _ h => by cases h)]
      exact h

-- ============================================================== altogether

/-- The registry is exactly the devices that were ever named. After every run the identifiers
stand in strictly ascending order, and they are those that some step of the run has named; a
step that names no device leaves them as they are. A device is created by the first step that
names it, disconnected and with the client's settings. From then on it stays known and goes on
from where it stands, whatever happens. A call that names it again, with white space around
the serial number or without, makes no new entry, and is what it does at the device as it
stands; unless something is written, format, endpoint and retry budget stay. -/
theorem registry_is_what_was_named (settings : ClientSettings) (camera : σ) (steps : List Step) :
    let start : Client σ H F := { settings, camera }
    let c := start.run steps
    (c.devices.ids.Pairwise fun a b => a.text < b.text)
      ∧ (∀ id, id ∈ c.devices.ids ↔ ∃ before step after,
          steps = before ++ step :: after ∧ step.Names (start.run before) id)
      ∧ (∀ step, (∀ id, ¬ step.Names c id) → (c.apply step).devices.ids = c.devices.ids)
      ∧ (∀ id ∈ c.devices.ids, ∃ before step after d₀ d, steps = before ++ step :: after
          ∧ id ∉ (start.run before).devices.ids ∧ step.Names (start.run before) id
          ∧ (start.run (before ++ [step])).devices.get? id = some d₀ ∧ Created settings id d₀
          ∧ c.devices.get? id = some d ∧ d₀.Grows d)
      ∧ ∀ id d, c.devices.get? id = some d →
          (∀ more, ∃ d', (c.run more).devices.get? id = some d' ∧ d.Grows d')
          ∧ (∀ step, step.isWrite = false → ∃ d', (c.apply step).devices.get? id = some d'
              ∧ d'.record.wishes
                = { d.record.wishes with activeFeature := d'.record.wishes.activeFeature })
          ∧ ∀ (step : Step) blobs configuration c₁, step.blobs? = some blobs →
              c.merge blobs = .ok (configuration, c₁) → configuration.Names id →
              (c.apply step).devices.ids = c.devices.ids
              ∧ (c.apply step).devices.get? id
                = some (Site.run settings.pace { camera := c.camera, device := d }
                    (step.does configuration.featureName)).device := by
  intro start c
  have hproper (steps : List Step) : (start.run steps).Proper :=
    (Proper.fresh settings camera).run steps
  have hp : c.Proper := hproper steps
  have hknown (steps : List Step) (id : DeviceId) :
      id ∈ (start.run steps).devices.ids ↔ (start.run steps).Knows id :=
    (hproper steps).ascending.mem_ids
  have hstart (id : DeviceId) : ¬ start.Knows id := by
    rintro ⟨d, hd⟩
    cases hd
  refine ⟨hp.ascending.ids_pairwise.imp of_decide_eq_true, ?_, ?_, ?_, ?_⟩
  · -- a device is known if and only if a step named it
    intro id
    rw [hknown, knows_run, or_iff_right (hstart id)]
  · -- a step that names no new device
    intro step h
    exact hp.ids_apply fun id hn => absurd hn (h id)
  · -- the step that created the device
    intro id hm
    obtain ⟨before, step, after, d₀, d, hsteps, hunknown, hcreation⟩ :=
      (Proper.fresh settings camera).run_creates ((hknown steps id).mp hm) (hstart id)
    exact ⟨before, step, after, d₀, d, hsteps, fun h => hunknown ((hknown before id).mp h),
      hcreation⟩
  · -- a device that is known stays, and is not created again
    intro id d hd
    refine ⟨hp.run_grows hd, fun step => hp.apply_wishes hd, ?_⟩
    intro step blobs configuration c₁ hb hm hnames
    have hid := Configuration.names_iff.mp hnames
    constructor
    · -- a step that names it creates no other
      refine hp.ids_apply fun other hother => ?_
      have hnamed := (Step.names_iff hb).mp hother
      rw [named?_eq_some.mpr ⟨configuration, c₁, hm, hid⟩] at hnamed
      obtain rfl := Option.some.inj hnamed
      exact ⟨d, hd⟩
    · -- and is done on the device as it was found
      rw [apply_of_named hb hm hid, ← found_of_get? hd]
      have hsettings : c.settings = settings := run_settings start steps
      rw [hsettings]
      exact Registry.get?_insert_self _ _ _

/-- A status query for one device, a merge without a serial number, and a read of a second
device, which fails; then a merge that fails, and an initialisation with a line break behind the
serial number. -/
theorem registry_is_what_was_named_of_failed_read :
    let common := fun serial : String => some (Text.Utf8.encode
      ("\x7b\"customizedValues\":\x7b\"deviceSN\":\"" ++ serial ++ "\"\x7d\x7d"))
    let id : DeviceId := ⟨"cam-1"⟩
    let start : Client SimulatedCamera SimulatedCamera.Handle Bytes :=
      { settings := .default, camera := {} }
    let read : Step := .readDeviceData { common := common " cam-1 " }
    let before := [.getDeviceStatus { common := common "cam-9" }, .setConfig {}]
    let c := start.run (before ++ [read, .setConfig { common := some [0x7B] }])
    (start.run before).failure? read = some (.notConnected id)
      ∧ read.Names (start.run before) id
      ∧ c.devices.ids = [id]
      ∧ (c.apply (.initDevice (common "cam-1\\n"))).devices.ids = [id]
      ∧ ∃ d d', c.devices.get? id = some d ∧ d'.status = .disconnected ∧ d.Grows d'
        ∧ (c.apply (.initDevice (common "cam-1\\n"))).devices.get? id = some d' := by
  intro common id start read before c
  have hfailure : (start.run before).failure? read = some (.notConnected id) := by decide +kernel
  have hread : (start.run before).named? { common := common " cam-1 " } = some id := by
    decide +kernel
  have hids : c.devices.ids = [id] := by decide +kernel
  have hsome : (c.devices.get? id).isSome = true := by decide +kernel
  have hinit : c.named? { common := common "cam-1\\n" } = some id := by decide +kernel
  have hstatus : (c.apply (.initDevice (common "cam-1\\n"))).status? id = some .disconnected := by
    decide +kernel
  obtain ⟨d, hd⟩ := Option.isSome_iff_exists.mp hsome
  obtain ⟨configuration, c₁, hm, hid⟩ := named?_eq_some.mp hinit
  obtain ⟨-, -, -, -, hrecords⟩ := registry_is_what_was_named ClientSettings.default
    ({} : SimulatedCamera) (before ++ [read, .setConfig { common := some [0x7B] }])
  obtain ⟨hgrows, -, hcalls⟩ := hrecords id d hd
  obtain ⟨hsame, -⟩ := hcalls (.initDevice (common "cam-1\\n")) _ configuration c₁ rfl hm
    (Configuration.names_iff.mpr hid)
  obtain ⟨d', hd', hgrown⟩ := hgrows [.initDevice (common "cam-1\\n")]
  have hd' : (c.apply (.initDevice (common "cam-1\\n"))).devices.get? id = some d' := hd'
  refine ⟨hfailure, (Step.names_iff rfl).mpr hread, hids, hsame.trans hids, d, d', hd, ?_, hgrown,
    hd'⟩
  unfold status? at hstatus
  rw [hd'] at hstatus
  exact Option.some.inj hstatus

end Client

end CameraDriver
