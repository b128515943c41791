/-
Repeating a call that has set the configuration.

Twice the same edit is the edit once, for everything that a patch can ask: a text
is left or replaced, a part that is read as a whole replaces what was there, and
settings are overlaid, which a second time changes nothing (`Json.merge_merge`).
The second merge starts from a configuration that has been decoded in between, but
that is of no account, since an edit is asked by the patch alone.

So the second merge finds what it asks for in the store, and stores nothing. The
device that is named is named again and known by now, and the feature that becomes
active is the one that is. Nothing is left that the second call could change
(`Client.setConfig_again`).
-/
import CameraDriver.Hardware.Simulated
import CameraDriver.Proofs.Client.ActiveFeature
import CameraDriver.Proofs.Client.Calls
import CameraDriver.Proofs.Store.Histories

namespace CameraDriver

variable {σ H F : Type}

-- =================================================================== edits

/-- A text that is edited twice is edited once. -/
theorem Json.textEdit_twice {patch : Json} {f : String → String} (h : patch.textEdit = .ok f)
    (s : String) : f (f s) = f s := by
  rcases textEdit_cases h with ⟨-, rfl⟩ | ⟨t, -, rfl⟩ <;> rfl

theorem CommonConfig.edit_twice {patch : Json} {f : CommonConfig → CommonConfig}
    (h : edit patch = .ok f) (c : CommonConfig) : f (f c) = f c := by
  rcases edit_cases h with ⟨-, rfl⟩ | ⟨ps, -, hv⟩ | ⟨-, a, -, rfl⟩
  · rfl
  · rcases editValues_cases hv with ⟨-, rfl⟩ | ⟨qs, serial, -, ht, rfl⟩ | ⟨-, a, -, rfl⟩
    · rfl
    · dsimp only
      rw [Json.textEdit_twice ht]
    · rfl
  · rfl

theorem VisitorConfig.edit_twice {patch : Json} {f : VisitorConfig → VisitorConfig}
    (h : edit patch = .ok f) (c : VisitorConfig) : f (f c) = f c := by
  rcases edit_cases h with ⟨-, rfl⟩ | ⟨ps, feature, protocol, -, hd, ht, rfl⟩ | ⟨-, a, -, rfl⟩
  · rfl
  · have hfeature : feature (feature c.featureName) = feature c.featureName := by
      rcases Json.editBy_cases hd with ⟨-, rfl⟩ | ⟨qs, -, hf⟩ | ⟨-, a, -, rfl⟩
      · rfl
      · exact Json.textEdit_twice hf _
      · rfl
    dsimp only
    rw [hfeature, Json.textEdit_twice ht]
  · rfl

theorem ProtocolConfig.edit_twice {patch : Json} {f : ProtocolConfig → ProtocolConfig}
    {c : ProtocolConfig} (hc : c.Proper) (hp : patch.Proper) (h : edit patch = .ok f) :
    f (f c) = f c := by
  rcases edit_cases h with ⟨-, rfl⟩ | ⟨ps, data, protocol, rfl, hd, ht, rfl⟩ | ⟨-, a, -, rfl⟩
  · rfl
  · have hdata : data (data c.configData) = data c.configData := by
      rcases editData_cases hd with ⟨-, rfl⟩ | ⟨qs, hqs, rfl⟩
      · rfl
      · have hpatch : Json.Proper (.obj qs) := hqs ▸ hp.value "configData"
        exact Json.obj.inj (Json.merge_merge hc hpatch)
    dsimp only
    rw [hdata, Json.textEdit_twice ht]
  · rfl

/-- What blobs ask is asked once. -/
theorem Configuration.edit_twice {c : Configuration} {blobs : Blobs}
    {f : Configuration → Configuration} (hc : c.Proper) (h : edit blobs = .ok f) :
    f (f c) = f c := by
  obtain ⟨common, visitor, protocol, hcommon, hvisitor, hprotocol, rfl⟩ := edit_cases h
  dsimp only
  rw [CommonConfig.edit_twice hcommon, VisitorConfig.edit_twice hvisitor,
    ProtocolConfig.edit_twice hc (patchOf_proper _) hprotocol]

-- ================================================================== stores

namespace Store

variable {s s' : Store} {blobs : Blobs} {c : Configuration} {stored : Bool}

/-- A merge of what was merged last stores nothing. -/
theorem merge_merge (hs : s.current.Proper) (h : s.merge blobs = .ok (c, stored, s')) :
    s'.merge blobs = .ok (c, false, s') := by
  obtain ⟨f, he, rfl, ⟨-, rfl⟩ | ⟨-, rfl, hsame⟩⟩ := merge_cases h
  · have htwice := Configuration.edit_twice hs he
    have hself := Configuration.same_self (Configuration.edit_proper hs he)
    rw [merge_of_edit he]
    dsimp only
    rw [htwice, if_pos hself]
  · rw [merge_of_edit he, if_pos hsame]

/-- The configuration that a merge gives is proper. -/
theorem merge_proper (hs : s.current.Proper) (h : s.merge blobs = .ok (c, stored, s')) :
    c.Proper := by
  obtain ⟨f, he, -, ⟨-, rfl⟩ | ⟨-, rfl, -⟩⟩ := merge_cases h
  · exact Configuration.edit_proper hs he
  · exact hs

end Store

-- ================================================================= clients

namespace Client

variable {c c' : Client σ H F} {blobs : Blobs}

theorem merge_store {configuration : Configuration} (h : c.merge blobs = .ok (configuration, c')) :
    c'.store = c.store.after blobs := by
  unfold merge at h
  unfold Store.after
  cases hm : c.store.merge blobs with
  | error e =>
      rw [hm] at h
      cases h
  | ok r =>
      rw [hm] at h
      cases h
      rfl

/-- A merge that fails leaves the store. -/
theorem after_of_merge_error {e : DriverError} (h : c.merge blobs = .error e) :
    c.store.after blobs = c.store := by
  unfold merge at h
  unfold Store.after
  cases hm : c.store.merge blobs with
  | error e => rfl
  | ok r =>
      rw [hm] at h
      cases h

/-- A device that has a feature as its active one is not changed by targeting it
there. -/
theorem targeted_twice (c : Client σ H F) (store : Store) (id : DeviceId) (feature : String) :
    (c.withSite store id (c.targeted id feature)).targeted id feature = c.targeted id feature := by
  unfold targeted
  rw [found_withSite]
  rfl

/-- Only the last state of a device counts. -/
theorem withSite_twice (c : Client σ H F) (store store' : Store) (id : DeviceId)
    (s s' : Site σ H F) :
    (c.withSite store id s).withSite store' id s' = c.withSite store' id s' := by
  unfold withSite
  dsimp only
  rw [Registry.insert_insert]

theorem merge_of_store {s : Store} {configuration : Configuration} {stored : Bool}
    (h : c.store.merge blobs = .ok (configuration, stored, s)) :
    c.merge blobs = .ok (configuration, { c with store := s }) := by
  unfold merge
  rw [h]

/-- A configuration that names no device is set all the same. -/
theorem setConfig_eq_of_unnamed {configuration : Configuration} {e : DriverError}
    (hm : c.merge blobs = .ok (configuration, c')) (hid : configuration.deviceId = .error e) :
    c.setConfig blobs = (.ok (), c') := by
  unfold setConfig
  rw [hm]
  dsimp only
  rw [target_of_unnamed hid, deviceId_error hid]

/-- A client that has set a configuration is as it would be after setting it
once more. -/
theorem setConfig_again {configuration : Configuration} {stored : Bool} {s : Store}
    (h : c.store.merge blobs = .ok (configuration, stored, s))
    (hagain : s.merge blobs = .ok (configuration, false, s))
    (hset : c.setConfig blobs = (.ok (), c')) : c'.setConfig blobs = (.ok (), c') := by
  have hm := merge_of_store h
  cases hid : configuration.deviceId with
  | error e =>
      rw [setConfig_eq_of_unnamed hm hid] at hset
      cases hset
      exact setConfig_eq_of_unnamed (merge_of_store hagain) hid
  | ok id =>
      rw [setConfig_eq hm hid] at hset
      cases hset
      have hm' := merge_of_store (c := c.withSite s id (c.targeted id configuration.featureName))
        hagain
      rw [setConfig_eq hm' hid, targeted_twice, withSite_twice]

/-- A call that sets the configuration stores the merge of its blobs. -/
theorem setConfig_store : (c.setConfig blobs).2.store = c.store.after blobs := by
  cases hm : c.merge blobs with
  | error e =>
      rw [after_of_merge_error hm]
      unfold setConfig
      rw [hm]
  | ok r =>
      obtain ⟨configuration, c₁⟩ := r
      cases hid : configuration.deviceId with
      | error e =>
          rw [setConfig_eq_of_unnamed hm hid]
          exact merge_store hm
      | ok id =>
          rw [setConfig_eq hm hid]
          have hstore := merge_store hm
          exact hstore

/-- A call that initialises a device stores the merge of its blob. -/
theorem initDevice_store {common : Option Bytes} :
    (c.initDevice common).2.store = c.store.after { common } := by
  cases hm : c.merge { common } with
  | error e =>
      rw [after_of_merge_error hm]
      unfold initDevice
      rw [hm]
  | ok r =>
      obtain ⟨configuration, c₁⟩ := r
      cases hid : configuration.deviceId with
      | error e =>
          unfold initDevice
          rw [hm]
          dsimp only
          rw [hid]
          exact merge_store hm
      | ok id =>
          rw [initDevice_eq hm hid]
          have hstore := merge_store hm
          exact hstore

/-- A call on the device that is targeted stores the merge of its blobs. -/
theorem onTarget_store {α : Type} (f : String → Site σ H F → Except DriverError α × Site σ H F) :
    (c.onTarget blobs f).2.store = c.store.after blobs := by
  cases hm : c.merge blobs with
  | error e =>
      rw [onTarget_of_merge_error hm, after_of_merge_error hm]
  | ok r =>
      obtain ⟨configuration, c₁⟩ := r
      have htarget := target_store c₁ configuration
      rw [merge_store hm] at htarget
      unfold onTarget
      rw [hm]
      dsimp only
      split
      next heq =>
        rw [heq] at htarget
        exact htarget
      next id c₂ heq =>
        rw [heq] at htarget
        have hat : (c₂.atDevice? id (f configuration.featureName)).2.store = c.store.after blobs := by
          rw [atDevice?_snd, onDevice_store]
          exact htarget
        split
        next heq' =>
          rw [heq'] at hat
          exact hat
        next heq' =>
          rw [heq'] at hat
          exact hat

section Runs

variable [Camera σ H F]

/-- A call that merges leaves the store that its blobs lead to; nothing else
changes what is stored. -/
theorem apply_store (c : Client σ H F) (step : Step) :
    (c.apply step).store = (step.blobs?.map c.store.after).getD c.store := by
  cases step with
  | initDevice common => exact initDevice_store
  | setConfig blobs => exact setConfig_store
  | readDeviceData blobs => exact onTarget_store _
  | writeDeviceData value blobs => exact onTarget_store _
  | getDeviceStatus blobs => rfl
  | stop id =>
      show (c.stop id).2.store = c.store
      unfold stop
      split
      · rfl
      · exact onDevice_store c id _
  | stopDevice => exact stopAll_store c _
  | device id step => exact onDevice_store c id _

/-- What a client has stored was merged into an empty store. -/
theorem Reachable.store (h : c.Reachable) : c.store.Reachable := by
  obtain ⟨settings, camera, steps, rfl⟩ := h
  have hrun : ∀ (steps : List Step) (c : Client σ H F), c.store.Reachable →
      (c.run steps).store.Reachable := by
    intro steps
    induction steps with
    | nil => exact fun c h => h
    | cons step rest ih =>
        intro c h
        refine ih (c.apply step) ?_
        rw [apply_store]
        cases step.blobs? with
        | none => exact h
        | some blobs => exact h.after blobs
  exact hrun steps _ ⟨[], rfl⟩

end Runs

end Client

-- ============================================================== repetition

/-- A merge that is repeated succeeds again, with a configuration that is the first
one and equal to it by value, and stores nothing. And a client with that store that
has set the configuration, and sets it again, succeeds again and is left as it is,
with what it has stored, the devices that are known and their active features. -/
theorem Store.Reachable.merge_again {s s' : Store} (hs : s.Reachable) {blobs : Blobs}
    {configuration : Configuration} {stored : Bool}
    (h : s.merge blobs = .ok (configuration, stored, s')) :
    s'.merge blobs = .ok (configuration, false, s')
      ∧ configuration.same configuration = true
      ∧ ∀ c c' : Client σ H F, c.store = s → c.setConfig blobs = (.ok (), c') →
          c'.store = s' ∧ c'.setConfig blobs = (.ok (), c') := by
  have hagain := Store.merge_merge hs.proper h
  refine ⟨hagain, Configuration.same_self (Store.merge_proper hs.proper h), ?_⟩
  rintro c c' rfl hset
  refine ⟨?_, Client.setConfig_again h hagain hset⟩
  have hstore : (c.setConfig blobs).2.store = c.store.after blobs := Client.setConfig_store
  rw [hset] at hstore
  unfold Store.after at hstore
  rw [h] at hstore
  exact hstore

/-- Arrays in the place of records, a name that no record has, a member that is
new and has `null` in it, and one that is stored and patched with `null`. -/
theorem Store.Reachable.merge_again_of_arrays :
    let c : Client SimulatedCamera SimulatedCamera.Handle Bytes :=
      Client.run { settings := .default, camera := ({} : SimulatedCamera).attach ⟨"a"⟩ }
        [.setConfig { protocol := some (Text.Utf8.encode
            "\x7b\"configData\":\x7b\"gain\":1.5\x7d\x7d") }]
    let blobs : Blobs :=
      { common := some (Text.Utf8.encode "\x7b\"customizedValues\":[\"a\"],\"unknown\":1\x7d")
        visitor := some (Text.Utf8.encode "[\"GigEVision\",[\"Gain\"]]")
        protocol := some (Text.Utf8.encode
          "\x7b\"configData\":\x7b\"gain\":null,\"trigger\":\x7b\"mode\":null\x7d\x7d\x7d") }
    ∃ (configuration : Configuration) (s : Store),
      c.store.merge blobs = .ok (configuration, true, s)
        ∧ configuration.deviceId = .ok ⟨"a"⟩ ∧ configuration.featureName = "Gain"
        ∧ s.merge blobs = .ok (configuration, false, s)
        ∧ (c.setConfig blobs).2.setConfig blobs = (.ok (), (c.setConfig blobs).2) := by
  intro c blobs
  have hc : c.Reachable := ⟨_, _, _, rfl⟩
  have hread : ((c.store.merge blobs).toOption.map fun r =>
      (r.1.deviceId, r.1.featureName, r.2.1)) = some (.ok ⟨"a"⟩, "Gain", true) := by
    decide +kernel
  have hset : (c.setConfig blobs).1 = .ok () := by decide +kernel
  cases hm : c.store.merge blobs with
  | error e =>
      rw [hm] at hread
      cases hread
  | ok r =>
      obtain ⟨configuration, stored, s⟩ := r
      rw [hm] at hread
      obtain ⟨hid, hfeature, hstored⟩ : configuration.deviceId = .ok ⟨"a"⟩
          ∧ configuration.featureName = "Gain" ∧ stored = true := by
        simpa only [Except.toOption, Option.map_some, Option.some.injEq, Prod.mk.injEq] using hread
      subst hstored
      obtain ⟨hagain, -, hcall⟩ := Store.Reachable.merge_again hc.store hm
      exact ⟨configuration, s, rfl, hid, hfeature, hagain,
        (hcall c _ rfl (Prod.ext hset rfl)).2⟩

end CameraDriver
