/-
From a status code of the library to the state of the link.

The code of a call passes the binding, which makes a failure of it, the
severity that a failure has, and the call of the device that was asked for,
which reports the link down or does not. `JudgedBy` says what comes out at the
end: 0 answers, a code above 1 takes the link down, and all that is left, a
text that cannot be passed on included, is reported and changes nothing.

A capture is judged in the same way, but nothing of it is reported. An open has
no link to lose: its failure leaves a reconnect loop in charge, whatever the
code is.
-/
import CameraDriver.Proofs.Device.Coherence
import CameraDriver.Proofs.Device.Effects
import CameraDriver.Proofs.Hardware.Codes

namespace CameraDriver

namespace Site

open Native (codeOf TakesDown Judges not_takesDown_zero HoldsNul)

variable {σ H F : Type}

/-- The link went down: the device is disconnected, and one reconnect loop was
started, which is in charge. -/
structure LinkLost (s s' : Site σ H F) : Prop where
  status : s'.device.status = .disconnected
  linkTask : s'.device.record.linkTask = some s.device.nextToken
  links : s'.device.links = s.device.links ++ [{ token := s.device.nextToken, stage := .spawned }]
  loops : s'.device.record.reconnectLoops = s.device.record.reconnectLoops + 1

/-- The link stays up: the device is connected as it was, and no reconnect loop
was started. -/
structure LinkKept (s s' : Site σ H F) : Prop where
  status : s'.device.status = .connected
  handle : s'.device.record.handle = s.device.record.handle
  linkTask : s'.device.record.linkTask = s.device.record.linkTask
  links : s'.device.links = s.device.links
  loops : s'.device.record.reconnectLoops = s.device.record.reconnectLoops

/-- What the code of a call makes of its answer and of the link. -/
structure JudgedBy {α : Type} (code : Option Int) (s : Site σ H F) (answer : Except DriverError α)
    (s' : Site σ H F) : Prop where
  ok : (∃ a, answer = .ok a) ↔ code = some 0
  hard : (∃ reason, answer = .error (.hardHardware s.device.id reason)) ↔ TakesDown code
  soft : (∃ reason, answer = .error (.softHardware s.device.id reason))
    ↔ code ≠ some 0 ∧ ¬ TakesDown code
  lost : LinkLost s s' ↔ TakesDown code
  kept : LinkKept s s' ↔ ¬ TakesDown code

variable {s s' : Site σ H F} {code : Option Int}

/-- A link that was kept was not lost. -/
theorem LinkKept.not_lost (h : LinkKept s s') : ¬ LinkLost s s' := by
  intro hl
  have hs := h.status.symm.trans hl.status
  cases hs

namespace JudgedBy

variable {α : Type}

/-- An answer without an error has code zero, and keeps the link. -/
theorem of_ok (a : α) (hcode : code = some 0) (hk : LinkKept s s') :
    JudgedBy code s (.ok a) s' := by
  have hdown : ¬ TakesDown code := hcode ▸ not_takesDown_zero
  constructor
  · simp [hcode]
  · simp [hdown]
  · simp [hcode]
  · exact iff_of_false hk.not_lost hdown
  · exact iff_of_true hk hdown

/-- A soft error has another code, which does not take the link down. -/
theorem of_soft (reason : String) (hcode : code ≠ some 0) (hdown : ¬ TakesDown code)
    (hk : LinkKept s s') :
    JudgedBy code s (.error (.softHardware s.device.id reason) : Except DriverError α) s' := by
  constructor
  · simp [hcode]
  · simp [hdown]
  · simp [hcode, hdown]
  · exact iff_of_false hk.not_lost hdown
  · exact iff_of_true hk hdown

/-- A hard error has a code that takes the link down, and the link is lost. -/
theorem of_hard (reason : String) (hdown : TakesDown code) (hl : LinkLost s s') :
    JudgedBy code s (.error (.hardHardware s.device.id reason) : Except DriverError α) s' := by
  have hcode : code ≠ some 0 := fun h => not_takesDown_zero (h ▸ hdown)
  constructor
  · simp [hcode]
  · simp [hdown]
  · simp [hdown]
  · exact iff_of_true hl hdown
  · exact iff_of_false (fun hk => hk.not_lost hl) (not_not_intro hdown)

end JudgedBy

/-- A note in the log keeps the link. -/
theorem linkKept_note (hs : s.device.status = .connected) (camera : σ) (e : Event) :
    LinkKept s { camera, device := s.device.note e } := ⟨hs, rfl, rfl, rfl, rfl⟩

/-- When the link is lost after a call was noted, it is lost. -/
theorem linkLost_note (s : Site σ H F) (camera : σ) (e : Event) :
    LinkLost s { camera, device := (s.device.note e).lost } := ⟨rfl, rfl, rfl, rfl⟩

/-- A call that failed, and whose failure is hard where its code is above 1. -/
theorem judged_of_failure {α : Type} (hs : s.device.status = .connected)
    (hfree : s.device.record.linkTask = none) (hcode : code ≠ some 0) {e : HardwareError}
    (he : e.isHard = true ↔ TakesDown code) (camera : σ) (note : Event)
    (action feature : String) :
    let noted : Site σ H F := { camera, device := s.device.note note }
    let r := noted.failure s.device.record.linkEpoch action feature e
    JudgedBy code s (.error r.1 : Except DriverError α) r.2 := by
  intro noted r
  by_cases hhard : e.isHard = true
  · obtain ⟨reason, hr⟩ := failure_hard (s := noted) hhard hfree action feature
    have hr : r = _ := hr
    rw [hr]
    exact .of_hard reason (he.mp hhard) (linkLost_note s camera note)
  · obtain ⟨reason, hr⟩ := failure_soft (s := noted) (by simpa using hhard)
      s.device.record.linkEpoch action feature
    have hr : r = _ := hr
    rw [hr]
    exact .of_soft reason hcode (fun hd => hhard (he.mpr hd)) (linkKept_note hs camera note)

-- ===================================================== reading and writing

variable {d : Site Vendor Nat Native.Frame}

/-- A read that reaches the library is judged by the code of its answer. -/
theorem readDevice_judged (hs : d.device.status = .connected)
    (hfree : d.device.record.linkTask = none) (feature : String) (c : Connection Nat) :
    JudgedBy (codeOf d.camera [feature]) d (d.readDevice feature c).1
      (d.readDevice feature c).2 := by
  have hjudged : Judges _ (Camera.readFeature c.handle feature d.camera).1 :=
    Native.readFeature_judged d.camera c.handle feature
  unfold readDevice
  generalize Camera.readFeature c.handle feature d.camera = answer at hjudged ⊢
  obtain ⟨result, camera⟩ := answer
  cases result with
  | ok value => exact .of_ok _ hjudged (linkKept_note hs camera _)
  | error e => exact judged_of_failure hs hfree hjudged.1 hjudged.2 camera _ "get" feature

/-- A write that reaches the library is judged by the code of its answer. -/
theorem writeDevice_judged (hs : d.device.status = .connected)
    (hfree : d.device.record.linkTask = none) (feature text : String) (c : Connection Nat) :
    JudgedBy (codeOf d.camera [feature, text]) d (d.writeDevice feature text c).1
      (d.writeDevice feature text c).2 := by
  have hjudged : Judges _ (Camera.writeFeature c.handle feature text d.camera).1 :=
    Native.writeFeature_judged d.camera c.handle feature text
  unfold writeDevice
  generalize Camera.writeFeature c.handle feature text d.camera = answer at hjudged ⊢
  obtain ⟨result, camera⟩ := answer
  cases result with
  | ok value => exact .of_ok _ hjudged (linkKept_note hs camera _)
  | error e => exact judged_of_failure hs hfree hjudged.1 hjudged.2 camera _ "set" feature

-- ============================================================== capturing

/-- Whether a capture asks the camera for an image: there is an endpoint to
report to, and no upload under way. -/
def Captures (s : Site σ H F) : Prop :=
  s.device.record.capture.endpoint.isSome = true ∧ s.device.record.publishBusy = false

/-- What the code of a call makes of the link. -/
structure LinkJudgedBy (code : Option Int) (s s' : Site σ H F) : Prop where
  lost : LinkLost s s' ↔ TakesDown code
  kept : LinkKept s s' ↔ ¬ TakesDown code

/-- A link that was kept is judged right by a code that does not take it down. -/
theorem LinkJudgedBy.of_kept (hdown : ¬ TakesDown code) (hk : LinkKept s s') :
    LinkJudgedBy code s s' :=
  ⟨iff_of_false hk.not_lost hdown, iff_of_true hk hdown⟩

/-- A link that was lost is judged right by a code that takes it down. -/
theorem LinkJudgedBy.of_lost (hdown : TakesDown code) (hl : LinkLost s s') :
    LinkJudgedBy code s s' :=
  ⟨iff_of_true hl hdown, iff_of_false (fun hk => hk.not_lost hl) (not_not_intro hdown)⟩

/-- The name of an image format holds no NUL byte. -/
theorem bare_format (format : ImageFormat) : ¬ HoldsNul format.name := by
  cases format <;> decide

/-- A trigger that captures nothing changes nothing. -/
theorem writeTrigger_of_idle {s : Site σ H F} [Camera σ H F] (h : ¬ s.Captures)
    {mode : TriggerMode} (hmode : mode.startsCapture = true) : s.writeTrigger mode = s := by
  have htrigger : ∃ answer, s.trigger mode = (.ok answer, s) := by
    unfold trigger
    cases he : s.device.record.capture.endpoint with
    | none =>
      simp only [he]
      exact ⟨_, rfl⟩
    | some endpoint =>
      have hbusy : s.device.record.publishBusy = true := by
        by_contra hb
        exact h ⟨by rw [he]; rfl, by simpa using hb⟩
      simp only [he, hbusy, if_true]
      exact ⟨_, rfl⟩
  obtain ⟨answer, htrigger⟩ := htrigger
  unfold writeTrigger
  rw [if_pos hmode]
  simp only [htrigger]

/-- A capture is judged by the code of the library's answer. -/
theorem writeTrigger_judged (hs : d.device.status = .connected)
    (hfree : d.device.record.linkTask = none) {c : Connection Nat}
    (hc : d.device.record.handle = some c) (h : d.Captures) {mode : TriggerMode}
    (hmode : mode.startsCapture = true) :
    LinkJudgedBy (some d.camera.next.code) d (d.writeTrigger mode) := by
  obtain ⟨hendpoint, hbusy⟩ := h
  obtain ⟨endpoint, he⟩ := Option.isSome_iff_exists.mp hendpoint
  let format := d.device.record.capture.format.name
  have hjudged : Judges _ (Camera.grabImage c.handle format d.camera).1 :=
    Native.grabImage_judged d.camera c.handle format
  rw [Native.codeOf_of_bare (by simpa using bare_format _)] at hjudged
  unfold writeTrigger trigger
  rw [if_pos hmode]
  simp only [he, hbusy, hc]
  generalize Camera.grabImage c.handle d.device.record.capture.format.name d.camera = answer
    at hjudged ⊢
  obtain ⟨result, camera⟩ := answer
  cases result with
  | ok frame =>
    have hcode : some d.camera.next.code = some 0 := hjudged
    refine .of_kept ?_ ⟨hs, rfl, rfl, rfl, rfl⟩
    rw [hcode]
    exact not_takesDown_zero
  | error e =>
    obtain ⟨hcode, hhard⟩ := hjudged
    let noted : Site Vendor Nat Native.Frame :=
      { camera, device := d.device.note (.grabbed c.number format (.error e)) }
    by_cases hdown : e.isHard = true
    · have hcounts : noted.linkDown d.device.record.linkEpoch = _ :=
        linkDown_counts (linkDown_starts.mpr ⟨hfree, rfl⟩)
      have hlost : LinkLost d (noted.linkDown d.device.record.linkEpoch).2 := by
        rw [hcounts]
        exact linkLost_note d camera _
      refine .of_lost (hhard.mp hdown) ?_
      simpa [hdown] using hlost
    · refine .of_kept (fun ht => hdown (hhard.mpr ht)) ?_
      simpa [hdown] using linkKept_note hs camera _

-- =================================================================== opens

/-- Whether the next open of a device succeeds. -/
def Opens (v : Vendor) (id : DeviceId) : Prop :=
  ¬ HoldsNul id.text ∧ v.next.code = 0 ∧ v.next.device = true

/-- The open of a task reaches the library, and gives a connection if it
succeeds. -/
theorem Reachable.reach_judged (h : d.Reachable) {token : Token} {k : LinkTask Nat}
    (hk : d.device.link? token = some k) {attempt : Attempt} (hst : k.stage = .opening attempt) :
    ∃ result, (d.reach token).device.link? token = some { k with stage := .opened attempt result }
      ∧ ∀ c, result = .ok c ↔
        Opens d.camera d.device.id ∧ c = ⟨d.device.opened + 1, d.camera.devices⟩ := by
  have hx := (h.step ⟨0, 0⟩ (.reach token)).exclusive
  obtain ⟨t, cancelled, stage⟩ := k
  obtain rfl : t = token := (Device.mem_of_link? hk).2
  dsimp only at hst
  subst hst
  have hopens : ∀ device, (Camera.openDevice d.device.id d.camera).1 = .ok device ↔ _ := fun _ =>
    Native.openDevice_eq_ok (v := d.camera)
  have hreach : ∃ result, { token := t, cancelled, stage := .opened attempt result }
        ∈ (d.reach t).device.links
      ∧ ∀ c, result = .ok c ↔
        Opens d.camera d.device.id ∧ c = ⟨d.device.opened + 1, d.camera.devices⟩ := by
    unfold reach
    rw [hk]
    dsimp only
    generalize Camera.openDevice d.device.id d.camera = answer at hopens ⊢
    obtain ⟨result, camera⟩ := answer
    cases result with
    | ok device =>
      obtain ⟨hbare, hcode, hdevice, rfl⟩ := (hopens _).mp rfl
      refine ⟨_, Device.mem_of_setStage _ hk, ?_⟩
      intro c
      simp [Opens, hbare, hcode, hdevice, eq_comm]
    | error e =>
      refine ⟨_, Device.mem_of_setStage _ hk, ?_⟩
      intro c
      refine iff_of_false (by simp) ?_
      rintro ⟨⟨hbare, hcode, hdevice⟩, -⟩
      have hok := (hopens _).mpr ⟨hbare, hcode, hdevice, rfl⟩
      cases hok
  obtain ⟨result, hm, hresult⟩ := hreach
  exact ⟨result, Device.Exclusive.link?_eq hx hm, hresult⟩

/-- What a task does with what its open gave. With a connection the device is
connected; without one it is not, and the task of a connect leaves a reconnect
loop in charge under its token. -/
structure SettledBy (token : Token) (attempt : Attempt)
    (result : Except HardwareError (Connection H)) (s s' : Site σ H F) : Prop where
  connected : ∀ c, result = .ok c →
    s'.device.status = .connected ∧ s'.device.record.handle = some c
      ∧ s'.device.record.linkTask = none
  failed : ∀ e, result = .error e → s'.device.status ≠ .connected
  handedOver : ∀ e, result = .error e → attempt = .first →
    s'.device.status = .disconnected ∧ s'.device.record.linkTask = some token
      ∧ { token, stage := .spawned } ∈ s'.device.links
      ∧ s'.device.record.reconnectLoops = s.device.record.reconnectLoops + 1

/-- What a task makes of its open goes by the result of the open. -/
theorem Reachable.settle_judged [Camera σ H F] {s : Site σ H F} (h : s.Reachable) {token : Token}
    {k : LinkTask H} (hk : s.device.link? token = some k) (hc : k.cancelled = false)
    {attempt : Attempt} {result : Except HardwareError (Connection H)}
    (hst : k.stage = .opened attempt result) (pace : Pace) (now : Nat) :
    SettledBy token attempt result s (s.apply pace (.resume now token)) := by
  obtain ⟨hm, ht⟩ := Device.mem_of_link? hk
  have hfits := h.phased.busy k hm hc
  have hcharge : s.device.record.linkTask = some token := ht ▸ (h.exclusive.live k hm).mp hc
  have hnone : s.device.record.handle = none := hfits.bare (by rw [hst]; rfl)
  have hshown : s.device.status ≠ .connected := hfits.shown ▸ k.stage.shown_ne_connected
  show SettledBy token attempt result s (s.resume pace.interval now token)
  unfold resume
  rw [hk]
  dsimp only
  rw [hst]
  dsimp only
  unfold settle
  rw [if_neg (by simp [hc]), ht]
  cases result with
  | ok c =>
    have hinstall : (s.onDevice (·.endLink token)).install c =
        (s.onDevice (·.endLink token)).onDevice fun d =>
          ((d.modifyRecord (·.install c)).modifyRecord
            ({ · with linkTask := none, retryCount := 0 })).announce .connected := by
      have hstale : (s.onDevice (·.endLink token)).device.record.handle = none := hnone
      unfold install
      rw [hstale]
      rfl
    dsimp only
    rw [hinstall]
    constructor
    · -- the connection is installed
      intro c' hc'
      rw [← Except.ok.inj hc']
      exact ⟨rfl, rfl, rfl⟩
    · intro e he
      cases he
    · intro e he
      cases he
  | error e =>
    constructor
    · intro c hc
      cases hc
    · intro _ _
      cases attempt with
      | first => exact fun hs => by cases hs
      | retry number max =>
        dsimp only
        split
        · -- another attempt is to come, so the status stays
          exact hshown
        · -- the budget is spent, and the device down
          exact fun hs => by cases hs
    · -- the first attempt has failed, and a loop takes its token
      rintro _ _ rfl
      exact ⟨rfl, hcharge, List.mem_append_right _ (List.mem_singleton_self _), rfl⟩

-- ============================================================== end to end

variable {s : Site σ H F} [Camera σ H F] {c : Connection H} {text : String} {value : Value}

omit [Camera σ H F] in
/-- Where a connection is found the device is connected. -/
theorem status_of_connection (hc : s.connection = .ok c) : s.device.status = .connected := by
  unfold connection at hc
  split at hc
  case isTrue => cases hc
  case isFalse h => exact status_of_isConnected (by simpa using h)

/-- A read of a camera's feature is made on the connection that is found. -/
theorem read_of_connection (hc : s.connection = .ok c) {feature : String}
    (hf : VirtualFeature.ofName? feature = none) : s.read feature = s.readDevice feature c := by
  unfold Site.read
  simp only [status_of_connection hc, Status.isConnected, Bool.not_true, Bool.false_eq_true,
    if_false, hf, hc]

/-- A write to a camera's feature is made on the connection that is found. -/
theorem write_of_connection (hc : s.connection = .ok c) (hw : value.wire = .ok text)
    {feature : String} (hf : VirtualFeature.ofName? feature = none) :
    s.write feature value = s.writeDevice feature text c := by
  unfold Site.write
  simp only [hw, status_of_connection hc, Status.isConnected, Bool.not_true, Bool.false_eq_true,
    if_false, hf, hc]

omit [Camera σ H F] in
/-- A connected device that holds no connection has none to call on. -/
theorem connection_of_bare (hs : s.device.status = .connected)
    (hc : s.device.record.handle = none) :
    s.connection = .error (.notConnected s.device.id) := by
  unfold connection
  simp only [hs, Status.isConnected, Bool.not_true, Bool.false_eq_true, if_false, hc]

/-- Without a connection a read is refused, and the camera is not called. -/
theorem read_of_bare (hs : s.device.status = .connected) (hc : s.device.record.handle = none)
    {feature : String} (hf : VirtualFeature.ofName? feature = none) :
    s.read feature = (.error (.notConnected s.device.id), s) := by
  unfold Site.read
  simp only [hs, Status.isConnected, Bool.not_true, Bool.false_eq_true, if_false, hf,
    connection_of_bare hs hc]

/-- Without a connection a write is refused, and the camera is not called. -/
theorem write_of_bare (hs : s.device.status = .connected) (hc : s.device.record.handle = none)
    (hw : value.wire = .ok text) {feature : String}
    (hf : VirtualFeature.ofName? feature = none) :
    s.write feature value = (.error (.notConnected s.device.id), s) := by
  unfold Site.write
  simp only [hw, hs, Status.isConnected, Bool.not_true, Bool.false_eq_true, if_false, hf,
    connection_of_bare hs hc]

/-- Without a connection no trigger does anything: there is nothing to grab an image
from, and this fault of a capture is not hard. -/
theorem writeTrigger_of_bare (hc : s.device.record.handle = none) {mode : TriggerMode}
    (hmode : mode.startsCapture = true) : s.writeTrigger mode = s := by
  by_cases hasks : s.Captures
  · obtain ⟨hendpoint, hbusy⟩ := hasks
    obtain ⟨endpoint, he⟩ := Option.isSome_iff_exists.mp hendpoint
    unfold writeTrigger trigger
    rw [if_pos hmode]
    simp only [he, hbusy, hc]
    rfl
  · exact writeTrigger_of_idle hasks hmode

/-- A write to the trigger feature triggers, and is answered at once. -/
theorem write_of_trigger (hs : s.device.status = .connected) (hw : value.wire = .ok text)
    {mode : TriggerMode} (hmode : TriggerMode.ofName? text = some mode) :
    s.write VirtualFeature.imageTrigger.name value = (.ok (), s.writeTrigger mode) := by
  rw [write_virtual hs hw]
  unfold writeVirtual VirtualFeature.triggerMode
  simp only [hmode]

/-- While steps keep to the queue, a connected device has a connection. -/
theorem InTurn.connection_of_connected {q : Queue} (h : InTurn q s)
    (hs : s.device.status = .connected) : ∃ c, s.connection = .ok c := by
  obtain ⟨c, hc⟩ := Option.isSome_iff_exists.mp (h.coherent.1.mp hs).1
  refine ⟨c, ?_⟩
  unfold connection
  simp only [hs, Status.isConnected, Bool.not_true, Bool.false_eq_true, if_false, hc]

end Site

end CameraDriver
