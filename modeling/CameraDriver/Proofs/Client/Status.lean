/-
What a status query answers, and that answering is all it does.

A query previews the configuration that its blobs ask for and looks up the device
that is named there. Setting that configuration goes another way: it merges, keeps
what is stored if nothing would change, and makes the device known. The two agree.
A preview and a merge give configurations that are equal by value, or they fail
alike (`Store.Reachable.preview_agrees`); and equal configurations name the same
device (`named?_eq_some_iff_preview`).

So a query foretells a call: it answers yes exactly if the configuration could be
set now, would name a device then, and that device is connected already. It leaves
no trace in a run (`run_without_queries`), whereas the call would make the device
known.
-/
import CameraDriver.Proofs.Client.Repeat

namespace CameraDriver

variable {σ H F : Type}

/-- Equal configurations name the same device. -/
theorem Configuration.deviceId_of_same {c c' : Configuration} (h : c.same c' = true) :
    c.deviceId = c'.deviceId := by
  unfold deviceId
  rw [(same_iff.mp h).1]

-- ================================================================ previews

namespace Store

variable {s : Store} {blobs : Blobs}

/-- A preview of blobs that can be decoded is the edited configuration. -/
theorem preview_of_edit {f : Configuration → Configuration} (h : Configuration.edit blobs = .ok f)
    (s : Store) : s.preview blobs = .ok (f s.current) := by
  unfold preview
  rw [Configuration.merge_eq_edit, h]
  rfl

/-- A preview of blobs that cannot be decoded fails the way a merge does. -/
theorem preview_of_error {e : DriverError} (h : Configuration.edit blobs = .error e) (s : Store) :
    s.preview blobs = .error e := by
  unfold preview
  rw [Configuration.merge_eq_edit, h]
  rfl

/-- A preview gives a configuration equal to the one that a merge of the same blobs
gives, or makes the complaint that the merge makes. -/
theorem Reachable.preview_agrees (hs : s.Reachable) (blobs : Blobs) :
    (∃ c c' stored s', s.preview blobs = .ok c ∧ s.merge blobs = .ok (c', stored, s')
        ∧ c.same c' = true)
      ∨ ∃ part message, s.preview blobs = .error (.decode part message)
        ∧ s.merge blobs = .error (.decode part message) := by
  cases he : Configuration.edit blobs with
  | ok f =>
      left
      rw [preview_of_edit he, merge_of_edit he]
      split
      case isTrue hsame => exact ⟨_, _, _, _, rfl, rfl, hsame⟩
      case isFalse =>
        have hself := Configuration.same_self (Configuration.edit_proper hs.proper he)
        exact ⟨_, _, _, _, rfl, rfl, hself⟩
  | error e =>
      right
      have hm := merge_of_error he s
      obtain ⟨part, message, -, rfl⟩ := Configuration.merge_eq_error.mp (Store.merge_eq_error.mp hm)
      exact ⟨part, message, preview_of_error he s, hm⟩

end Store

namespace Client

variable {c : Client σ H F} {blobs : Blobs} {id : DeviceId}

-- =================================================================== names

/-- A preview names the device that a merge names. -/
theorem named?_eq_some_iff_preview : c.named? blobs = some id ↔
    ∃ configuration, c.store.preview blobs = .ok configuration
      ∧ configuration.deviceId = .ok id := by
  rw [named?_eq_some]
  cases he : Configuration.edit blobs with
  | error e =>
      have hm : c.merge blobs = .error e :=
        merge_eq_error.mpr (Store.merge_eq_error.mp (Store.merge_of_error he c.store))
      rw [hm, Store.preview_of_error he]
      constructor
      · -- blobs that are refused name no device
        rintro ⟨_, _, h, -⟩
        cases h
      · rintro ⟨_, h, -⟩
        cases h
  | ok f =>
      have hmerge := Store.merge_of_edit he c.store
      have hpreview := Store.preview_of_edit he c.store
      -- the configuration that is kept, if nothing would change, equals the new one
      obtain ⟨configuration, stored, s, hm, hid⟩ : ∃ configuration stored s,
          c.store.merge blobs = .ok (configuration, stored, s)
            ∧ configuration.deviceId = (f c.store.current).deviceId := by
        by_cases hsame : (f c.store.current).same c.store.current = true
        · rw [if_pos hsame] at hmerge
          exact ⟨_, _, _, hmerge, (Configuration.deviceId_of_same hsame).symm⟩
        · rw [if_neg hsame] at hmerge
          exact ⟨_, _, _, hmerge, rfl⟩
      rw [merge_of_store hm, hpreview]
      constructor
      · -- blobs that are taken name the same one
        rintro ⟨_, _, h, hnamed⟩
        cases h
        exact ⟨_, rfl, hid ▸ hnamed⟩
      · rintro ⟨_, h, hnamed⟩
        cases h
        exact ⟨_, _, rfl, hid.trans hnamed⟩

/-- The device that is named is the one that setting the configuration leaves named. -/
theorem named?_eq_some_iff_setConfig : c.named? blobs = some id ↔
    ∃ c', c.setConfig blobs = (.ok (), c') ∧ c'.store.current.deviceId = .ok id := by
  rw [named?_eq_some]
  constructor
  · rintro ⟨configuration, c₁, hm, hid⟩
    refine ⟨_, setConfig_eq hm hid, ?_⟩
    show c₁.store.current.deviceId = .ok id
    rw [(merge_eq_ok hm).1, hid]
  · rintro ⟨c', hset, hid⟩
    cases hm : c.merge blobs with
    | error e =>
        unfold setConfig at hset
        rw [hm] at hset
        cases hset
    | ok r =>
        obtain ⟨configuration, c₁⟩ := r
        have hcurrent := (merge_eq_ok hm).1
        refine ⟨configuration, c₁, rfl, ?_⟩
        have hstore : c'.store = c₁.store := by
          have hafter : (c.setConfig blobs).2.store = c.store.after blobs := setConfig_store
          rw [hset] at hafter
          exact hafter.trans (merge_store hm).symm
        rw [← hcurrent, ← hstore]
        exact hid

-- ================================================================= queries

/-- A query answers yes if the device that is named is connected. -/
theorem getDeviceStatus_iff : c.getDeviceStatus blobs = true ↔
    ∃ id d, c.named? blobs = some id ∧ c.devices.get? id = some d ∧ d.status = .connected := by
  have hconnected : ∀ id, ((c.status? id).map Status.isConnected).getD false = true ↔
      ∃ d, c.devices.get? id = some d ∧ d.status = .connected := by
    intro id
    unfold status?
    cases c.devices.get? id with
    | none => simp
    | some d => cases hs : d.status <;> simp [hs, Status.isConnected]
  simp only [named?_eq_some_iff_preview]
  unfold getDeviceStatus
  cases hp : c.store.preview blobs with
  | error e => simp
  | ok configuration =>
      cases hid : configuration.deviceId with
      | error e => simp [hid]
      | ok id => simp [hid, hconnected]

section Runs

variable [Camera σ H F]

/-- Whether a step is a status query. -/
def Step.isQuery : Step → Bool
  | .getDeviceStatus _ => true
  | _ => false

/-- A run leads where it leads without its queries. -/
theorem run_without_queries (c : Client σ H F) (steps : List Step) :
    c.run (steps.filter fun step => !step.isQuery) = c.run steps := by
  induction steps generalizing c with
  | nil => rfl
  | cons step rest ih =>
      rw [List.filter_cons]
      cases step with
      | getDeviceStatus blobs => exact ih c
      | _ => exact ih _

/-- A status query changes nothing: neither what is stored, nor which devices are
known, nor any record, status or task of a device, nor the camera; so it can be left
out of every run. Its preview gives a configuration equal to the one that a merge
gives, or the same complaint. And it answers yes exactly if the configuration could
be set, would name a device then, and that device is connected now. A device that is
not known is none. -/
theorem Reachable.status_query (hc : c.Reachable) (blobs : Blobs) :
    c.apply (.getDeviceStatus blobs) = c
      ∧ (∀ steps, c.run (steps.filter fun step => !step.isQuery) = c.run steps)
      ∧ ((∃ configuration configuration' stored s,
          c.store.preview blobs = .ok configuration
            ∧ c.store.merge blobs = .ok (configuration', stored, s)
            ∧ configuration.same configuration' = true)
        ∨ ∃ part message, c.store.preview blobs = .error (.decode part message)
            ∧ c.store.merge blobs = .error (.decode part message))
      ∧ (c.getDeviceStatus blobs = true ↔
          ∃ c' id d, c.setConfig blobs = (.ok (), c') ∧ c'.store.current.deviceId = .ok id
            ∧ c.devices.get? id = some d ∧ d.status = .connected)
      ∧ ∀ c' id, c.setConfig blobs = (.ok (), c') → c'.store.current.deviceId = .ok id →
          c.devices.get? id = none → c.getDeviceStatus blobs = false := by
  refine ⟨rfl, run_without_queries c, hc.store.preview_agrees blobs, ?_, ?_⟩
  · -- what is asked about is the device that a merge would name
    rw [getDeviceStatus_iff]
    constructor
    · rintro ⟨id, d, hnamed, hd, hs⟩
      obtain ⟨c', hset, hid⟩ := named?_eq_some_iff_setConfig.mp hnamed
      exact ⟨c', id, d, hset, hid, hd, hs⟩
    · rintro ⟨c', id, d, hset, hid, hd, hs⟩
      exact ⟨id, d, named?_eq_some_iff_setConfig.mpr ⟨c', hset, hid⟩, hd, hs⟩
  · -- which is not connected while nobody knows it
    intro c' id hset hid hunknown
    rw [← Bool.not_eq_true, getDeviceStatus_iff]
    rintro ⟨other, d, hnamed, hd, -⟩
    have hnamed' := named?_eq_some_iff_setConfig.mpr ⟨c', hset, hid⟩
    rw [hnamed] at hnamed'
    rw [Option.some.inj hnamed', hunknown] at hd
    cases hd

end Runs

/-- A device that is connected is asked for while the stored configuration names
another one, and so is a device that is not known. -/
theorem Reachable.status_query_of_other :
    let naming := fun serial : String => ({ common := some (Text.Utf8.encode
      ("\x7b\"customizedValues\":\x7b\"deviceSN\":\"" ++ serial ++ "\"\x7d\x7d")) } : Blobs)
    let c : Client SimulatedCamera SimulatedCamera.Handle Bytes :=
      Client.run { settings := .default, camera := ({} : SimulatedCamera).attach ⟨"a"⟩ }
        [.initDevice (naming "a").common, .device ⟨"a"⟩ (.reach 0), .device ⟨"a"⟩ (.resume 0 0),
          .setConfig (naming "b")]
    c.store.current.deviceId = .ok ⟨"b"⟩
      ∧ (∃ c' d, c.setConfig (naming "a") = (.ok (), c')
        ∧ c'.store.current.deviceId = .ok ⟨"a"⟩ ∧ c.devices.get? ⟨"a"⟩ = some d
        ∧ d.status = .connected)
      ∧ c.apply (.getDeviceStatus (naming "a")) = c
      ∧ (c.setConfig (naming "x")).1 = .ok () ∧ c.getDeviceStatus (naming "x") = false := by
  intro naming c
  have hc : c.Reachable := ⟨_, _, _, rfl⟩
  have hstored : c.store.current.deviceId = .ok ⟨"b"⟩ := by decide +kernel
  have hyes : c.getDeviceStatus (naming "a") = true := by decide +kernel
  have hnamed : (c.setConfig (naming "a")).2.store.current.deviceId = .ok ⟨"a"⟩ := by
    decide +kernel
  have hset : (c.setConfig (naming "x")).1 = .ok () := by decide +kernel
  have hid : (c.setConfig (naming "x")).2.store.current.deviceId = .ok ⟨"x"⟩ := by decide +kernel
  have hunknown : (c.devices.get? ⟨"x"⟩).isNone = true := by decide +kernel
  obtain ⟨hsame, -, -, hiff, -⟩ := Reachable.status_query hc (naming "a")
  obtain ⟨-, -, -, -, hno⟩ := Reachable.status_query hc (naming "x")
  obtain ⟨c', id, d, hc', hid', hd, hs⟩ := hiff.mp hyes
  rw [hc', hid'] at hnamed
  cases hnamed
  exact ⟨hstored, ⟨c', d, hc', hid', hd, hs⟩, hsame, hset,
    hno _ _ (Prod.ext hset rfl) hid (Option.isNone_iff_eq_none.mp hunknown)⟩

end Client

end CameraDriver
