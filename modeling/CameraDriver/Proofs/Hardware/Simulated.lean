/-
The simulated camera as tables of features and queues of failures.

Of a device two things last from call to call, the table of its features and the
queue of the failures that were scripted for its calls. One call writes the table
in one place at most and takes at most the first failure off the queue
(`Served.single`), never both, since a call that finds a failure answers it.
Scripting writes the table or adds to the queue (`scripted_feature?`,
`scripted_failures`); only detaching a device drops either.
-/
import CameraDriver.Hardware.Simulated
import CameraDriver.Proofs.Device.Calls
import CameraDriver.Proofs.General
import CameraDriver.Proofs.Registry

namespace CameraDriver

-- ================================================================== events

namespace Event

/-- How a call for a feature or an image came out. -/
def outcome? : Event → Option (Except HardwareError Unit)
  | .read _ _ result => some (result.map fun _ => ())
  | .written _ _ _ result => some result
  | .grabbed _ _ result => some (result.map fun _ => ())
  | _ => none

/-- The text that a call has written into a feature. -/
def stored? (feature : String) : Event → Option String
  | .written _ target text (.ok ()) => if target = feature then some text else none
  | _ => none

/-- A call that fails writes nothing. -/
theorem stored?_of_error {event : Event} {e : HardwareError}
    (h : event.outcome? = some (.error e)) (feature : String) : event.stored? feature = none := by
  cases event with
  | written n target text result =>
      rw [Option.some.inj h]
      rfl
  | _ => rfl

/-- A call for a feature or an image is made on a connection. -/
theorem on?_of_outcome? {event : Event} {result : Except HardwareError Unit}
    (h : event.outcome? = some result) : ∃ n, event.on? = some n := by
  cases event with
  | read n feature result => exact ⟨n, rfl⟩
  | written n feature text result => exact ⟨n, rfl⟩
  | grabbed n format result => exact ⟨n, rfl⟩
  | _ => cases h

/-- So is one that has written something. -/
theorem on?_of_stored? {event : Event} {feature text : String}
    (h : event.stored? feature = some text) : ∃ n, event.on? = some n := by
  cases event with
  | written n target text result => exact ⟨n, rfl⟩
  | _ => cases h

end Event

namespace SimulatedDevice

/-- A feature that is set reads as it was set, and no other one changes. -/
theorem feature?_setFeature (d : SimulatedDevice) (target value feature : String) :
    (d.setFeature target value).feature? feature
      = (if target = feature then some value else none).or (d.feature? feature) := by
  unfold setFeature feature?
  by_cases h : target = feature
  · rw [if_pos h, h, List.lookup_cons_self]
    rfl
  · have hne : feature ≠ target := Ne.symm h
    rw [if_neg h, Option.none_or, List.lookup_cons, beq_false_of_ne hne]
    exact lookup_filter_ne hne d.features

end SimulatedDevice

namespace SimulatedCamera

variable {a b c : SimulatedCamera} {id : DeviceId} {x : Call Handle}

-- ================================================================= devices

/-- A device as it stands, or as it would be attached. -/
def device (c : SimulatedCamera) (id : DeviceId) : SimulatedDevice :=
  (c.devices.get? id).getD {}

def isAttached (c : SimulatedCamera) (id : DeviceId) : Bool := (c.devices.get? id).isSome

/-- The failures that wait for the next calls of a device, in order. -/
def failures (c : SimulatedCamera) (id : DeviceId) : List HardwareError :=
  (c.device id).callFailures

/-- A feature stands in the entry of its device. -/
theorem feature?_eq (c : SimulatedCamera) (id : DeviceId) (feature : String) :
    c.feature? id feature = (c.device id).feature? feature := by
  unfold SimulatedCamera.feature? device
  cases c.devices.get? id <;> rfl

theorem device_of_get? {d : SimulatedDevice} (h : c.devices.get? id = some d) :
    c.device id = d := by
  unfold device
  rw [h]
  rfl

/-- A change of one entry is not seen in another. -/
theorem device_modify (c : SimulatedCamera) (id other : DeviceId)
    (f : SimulatedDevice → SimulatedDevice) :
    (c.modify id f).device other = if other = id then f (c.device id) else c.device other := by
  unfold device modify
  split
  case isTrue h => rw [h, Registry.get?_insert_self, Option.getD_some]
  case isFalse h => rw [Registry.get?_insert_ne _ _ h]

theorem isAttached_modify (c : SimulatedCamera) (id other : DeviceId)
    (f : SimulatedDevice → SimulatedDevice) :
    (c.modify id f).isAttached other = (other == id || c.isAttached other) := by
  unfold isAttached modify
  by_cases h : other = id
  · rw [h, Registry.get?_insert_self, beq_self_eq_true, Bool.true_or]
    rfl
  · rw [Registry.get?_insert_ne _ _ h, beq_false_of_ne h, Bool.false_or]

/-- A device that is found is attached. -/
theorem isAttached_of_get? {d : SimulatedDevice} (h : c.devices.get? id = some d) :
    c.isAttached id = true := by
  unfold isAttached
  rw [h]
  rfl

theorem isAttached_of_known {d : SimulatedDevice} (h : c.devices.get? id = some d)
    (f : SimulatedDevice → SimulatedDevice) (other : DeviceId) :
    (c.modify id f).isAttached other = c.isAttached other := by
  rw [isAttached_modify]
  by_cases heq : other = id
  · rw [heq, isAttached_of_get? h, Bool.or_true]
  · rw [beq_false_of_ne heq, Bool.false_or]

end SimulatedCamera

-- =================================================================== calls

namespace Call

open SimulatedCamera (Handle)

/-- Whether a call asks a device for a feature or an image. -/
def asks (id : DeviceId) (x : Call Handle) : Bool :=
  x.event.outcome?.isSome && x.handle == some ⟨id⟩

/-- The text that a call has written into a feature of a device. -/
def stored? (id : DeviceId) (feature : String) (x : Call Handle) : Option String :=
  if x.handle = some ⟨id⟩ then x.event.stored? feature else none

variable {x : Call Handle} {h : Handle}

/-- A call that asks for a feature of a device is made on a handle of it. -/
theorem handle_of_asks {id : DeviceId} (hx : x.asks id = true) : x.handle = some ⟨id⟩ :=
  eq_of_beq (Bool.and_eq_true_iff.mp hx).2

/-- A call asks the device of the handle that is passed. -/
theorem asks_of_handle (hh : x.handle = some h) (ho : x.event.outcome?.isSome = true)
    (id : DeviceId) : x.asks id = (id == h.device) := by
  unfold asks
  rw [hh, ho, Bool.true_and]
  cases h with
  | mk device => by_cases heq : id = device <;> simp [heq, eq_comm]

/-- A call stores what its event says in the device of its handle. -/
theorem stored?_of_handle (hh : x.handle = some h) (id : DeviceId) (feature : String) :
    x.stored? id feature = if id = h.device then x.event.stored? feature else none := by
  unfold stored?
  rw [hh]
  cases h with
  | mk device => simp [eq_comm]

/-- A call that fails writes no feature of any device. -/
theorem stored?_of_error {e : HardwareError} (h : x.event.outcome? = some (.error e))
    (id : DeviceId) (feature : String) : x.stored? id feature = none := by
  unfold stored?
  rw [Event.stored?_of_error h, ite_self]

end Call

namespace SimulatedCamera

variable {a b c : SimulatedCamera} {id : DeviceId} {x : Call Handle}

/-- The failure that a call takes off the queue of a device. -/
def spent? (c : SimulatedCamera) (id : DeviceId) (x : Call Handle) : Option HardwareError :=
  if x.asks id then (c.failures id).head? else none

/-- What a call does to a simulated camera. -/
structure Single (a : SimulatedCamera) (x : Call Handle) (b : SimulatedCamera) : Prop where
  attached : ∀ id, b.isAttached id = a.isAttached id
  failures : ∀ id, a.failures id = (a.spent? id x).toList ++ b.failures id
  feature? : ∀ id feature, b.feature? id feature
    = (x.stored? id feature).or (a.feature? id feature)
  /-- A failure that is taken is the answer. -/
  answered : ∀ id e, a.spent? id x = some e → x.event.outcome? = some (.error e)

namespace Single

/-- A call that asks for nothing leaves what lasts. -/
theorem of_silent (hx : x.event.outcome? = none)
    (hattached : ∀ id, b.isAttached id = a.isAttached id)
    (hfeatures : ∀ id, (b.device id).features = (a.device id).features)
    (hfailures : ∀ id, (b.device id).callFailures = (a.device id).callFailures) :
    Single a x b := by
  have hspent : ∀ id, a.spent? id x = none := by
    intro id
    unfold spent? Call.asks
    rw [hx]
    rfl
  have hstored : ∀ id feature, x.stored? id feature = none := by
    intro id feature
    unfold Call.stored?
    split
    · cases hs : x.event with
      | written n target text result => rw [hs] at hx; cases hx
      | _ => rfl
    · rfl
  refine ⟨hattached, ?_, ?_, ?_⟩
  · -- no failure is spent
    intro id
    rw [hspent id]
    exact (hfailures id).symm
  · -- nothing is stored
    intro id feature
    rw [hstored id feature, Option.none_or, feature?_eq, feature?_eq]
    unfold SimulatedDevice.feature?
    rw [hfeatures id]
  · -- so no failure is to be the answer
    intro id e he
    rw [hspent id] at he
    cases he

/-- So does one that leaves the camera. -/
theorem of_same (hx : x.event.outcome? = none) (hb : b.devices = a.devices) : Single a x b := by
  have hdevice : ∀ id, b.device id = a.device id := by
    intro id
    unfold device
    rw [hb]
  refine of_silent hx ?_ (fun id => by rw [hdevice]) (fun id => by rw [hdevice])
  intro id
  unfold isAttached
  rw [hb]

/-- So does one that changes something else of an attached device. -/
theorem of_modify (hx : x.event.outcome? = none) {d : SimulatedDevice}
    (hd : a.devices.get? id = some d) {f : SimulatedDevice → SimulatedDevice}
    (hfeatures : (f d).features = d.features)
    (hfailures : (f d).callFailures = d.callFailures) : Single a x (a.modify id f) := by
  refine of_silent hx (isAttached_of_known hd f) ?_ ?_
  all_goals
    intro other
    rw [device_modify, device_of_get? hd]
    split
    case isTrue h => rw [h, device_of_get? hd]; assumption
    case isFalse => rfl

variable {h : Handle} {d : SimulatedDevice}

/-- Where no failure waits none is taken. -/
theorem spent?_of_nil (hh : x.handle = some h) (hq : a.failures h.device = []) (id : DeviceId) :
    a.spent? id x = none := by
  unfold spent?
  split
  case isTrue hasks =>
    have ho : x.event.outcome?.isSome = true := (Bool.and_eq_true_iff.mp hasks).1
    rw [Call.asks_of_handle hh ho, beq_iff_eq] at hasks
    rw [hasks, hq]
    rfl
  case isFalse => rfl

/-- A call on a device that is not attached fails of itself. -/
theorem of_missing (hh : x.handle = some h) (hd : a.devices.get? h.device = none)
    {e : HardwareError} (ho : x.event.outcome? = some (.error e)) : Single a x a := by
  have hnone : a.failures h.device = [] := by
    unfold SimulatedCamera.failures device
    rw [hd]
    rfl
  refine ⟨fun _ => rfl, ?_, ?_, ?_⟩
  · intro id
    rw [spent?_of_nil hh hnone]
    rfl
  · intro id feature
    rw [Call.stored?_of_error ho, Option.none_or]
  · intro id e' he
    rw [spent?_of_nil hh hnone] at he
    cases he

/-- A call that finds a failure takes it off the queue, and answers it. -/
theorem of_failed (hh : x.handle = some h) (hd : a.devices.get? h.device = some d)
    {e : HardwareError} {rest : List HardwareError} (hq : d.callFailures = e :: rest)
    (ho : x.event.outcome? = some (.error e)) :
    Single a x (a.modify h.device fun d => { d with callFailures := rest }) := by
  have hasks := Call.asks_of_handle hh (by rw [ho]; rfl)
  have hdevice := device_of_get? hd
  refine ⟨isAttached_of_known hd _, ?_, ?_, ?_⟩
  · -- the device spends the failure that was first in its queue
    intro id
    unfold spent? SimulatedCamera.failures
    rw [hasks, device_modify]
    by_cases heq : id = h.device
    · simp [heq, hdevice, hq]
    · simp [heq]
  · -- nothing is stored
    intro id feature
    rw [Call.stored?_of_error ho, Option.none_or, feature?_eq, feature?_eq, device_modify]
    split
    case isTrue heq => rw [heq]; rfl
    case isFalse => rfl
  · -- the failure is the answer
    intro id e' he
    unfold spent? SimulatedCamera.failures at he
    rw [hasks] at he
    split at he
    case isTrue heq =>
      rw [eq_of_beq heq, hdevice, hq] at he
      rw [ho, ← Option.some.inj he]
    case isFalse => cases he

/-- A call that finds none is answered by the device. -/
theorem of_served (hh : x.handle = some h) (hd : a.devices.get? h.device = some d)
    (hq : d.callFailures = []) {d' : SimulatedDevice} (hq' : d'.callFailures = [])
    (hfeature : ∀ feature, d'.feature? feature
      = (x.event.stored? feature).or (d.feature? feature)) :
    Single a x (a.modify h.device fun _ => d') := by
  have hdevice := device_of_get? hd
  have hnone : a.failures h.device = [] := by
    unfold SimulatedCamera.failures
    rw [hdevice, hq]
  refine ⟨isAttached_of_known hd _, ?_, ?_, ?_⟩
  · intro id
    rw [spent?_of_nil hh hnone]
    unfold SimulatedCamera.failures
    rw [device_modify]
    split
    case isTrue heq => rw [heq, hdevice, hq, hq']; rfl
    case isFalse => rfl
  · intro id feature
    rw [Call.stored?_of_handle hh, feature?_eq, feature?_eq, device_modify]
    split
    case isTrue heq => rw [hfeature, heq, hdevice]
    case isFalse => rw [Option.none_or]
  · intro id e he
    rw [spent?_of_nil hh hnone] at he
    cases he

/-- What a device answers when it is asked, and what it is then. -/
theorem of_answer {α : Type}
    {f : SimulatedDevice → Except HardwareError α × SimulatedDevice} (hh : x.handle = some h)
    (ho : x.event.outcome? = some ((answer h f a).1.map fun _ => ()))
    (hf : ∀ d, (answer h f a).1 = (f d).1 →
      (f d).2.callFailures = d.callFailures ∧ ∀ feature,
        (f d).2.feature? feature = (x.event.stored? feature).or (d.feature? feature)) :
    Single a x (answer h f a).2 := by
  unfold answer at ho hf ⊢
  cases hd : a.devices.get? h.device with
  | none =>
      rw [hd] at ho
      exact of_missing hh hd ho
  | some d =>
      rw [hd] at ho hf
      dsimp only at ho hf ⊢
      cases hq : d.callFailures with
      | cons e rest =>
          rw [hq] at ho
          exact of_failed hh hd hq ho
      | nil =>
          rw [hq] at hf
          obtain ⟨hqueue, hfeature⟩ := hf d rfl
          exact of_served hh hd hq (hqueue.trans hq) hfeature

end Single

-- ============================================================== one call

/-- Counting a call hides nothing of what it does. -/
theorem Single.of_count {f : CallCounts → CallCounts} (h : Single (a.count f) x b) :
    Single a x b :=
  ⟨h.attached, h.failures, h.feature?, h.answered⟩

theorem single_openDevice (id : DeviceId) (a : SimulatedCamera)
    (hx : x.event.outcome? = none) : Single a x (openDevice id a).2 := by
  unfold openDevice
  dsimp only
  split
  next => exact .of_same hx rfl
  next d hd =>
    refine Single.of_count (f := fun n => { n with opens := n.opens + 1 }) ?_
    split
    all_goals
      dsimp only
      exact .of_modify hx hd rfl rfl

theorem single_closeDevice (h : Handle) (a : SimulatedCamera)
    (hx : x.event.outcome? = none) : Single a x (closeDevice h a) := by
  unfold closeDevice
  dsimp only
  split
  next => exact .of_same hx rfl
  next d hd => exact .of_count (.of_modify hx hd rfl rfl)

theorem single_readFeature (id : DeviceId) (con : Connection Handle) (feature : String)
    (a : SimulatedCamera) :
    Single a
      { device := id
        event := .read con.number feature (readFeature con.handle feature a).1
        handle := some con.handle }
      (readFeature con.handle feature a).2 := by
  refine Single.of_count (.of_answer rfl rfl ?_)
  intro d _
  constructor
  · split <;> rfl
  · intro name
    show _ = (none : Option String).or _
    rw [Option.none_or]
    split <;> rfl

theorem single_writeFeature (id : DeviceId) (con : Connection Handle) (feature value : String)
    (a : SimulatedCamera) :
    Single a
      { device := id
        event := .written con.number feature value (writeFeature con.handle feature value a).1
        handle := some con.handle }
      (writeFeature con.handle feature value a).2 := by
  have hmap : ∀ r : Except HardwareError Unit, some r = some (r.map fun _ => ()) := by
    intro r
    cases r <;> rfl
  refine Single.of_count (.of_answer rfl (hmap _) ?_)
  intro d hok
  refine ⟨rfl, ?_⟩
  intro name
  rw [SimulatedDevice.feature?_setFeature]
  unfold writeFeature
  rw [hok]
  rfl

theorem single_grabImage (id : DeviceId) (con : Connection Handle) (format : String)
    (a : SimulatedCamera) :
    Single a
      { device := id
        event := .grabbed con.number format
          ((grabImage con.handle format a).1.map fun frame => frame.length)
        handle := some con.handle }
      (grabImage con.handle format a).2 := by
  have hmap : ∀ r : Except HardwareError Bytes,
      some ((r.map fun frame => frame.length).map fun _ => ()) = some (r.map fun _ => ()) := by
    intro r
    cases r <;> rfl
  refine Single.of_count (.of_answer rfl (hmap _) ?_)
  intro d _
  constructor
  · split <;> rfl
  · intro name
    show _ = (none : Option String).or _
    rw [Option.none_or]
    split <;> rfl

/-- While no failure waits a feature of an attached device reads as it was stored. -/
theorem readFeature_fst {id : DeviceId} (hattached : a.isAttached id = true)
    (hq : a.failures id = []) (feature : String) :
    (readFeature ⟨id⟩ feature a).1 =
      match a.feature? id feature with
      | some value => .ok value
      | none => .error (.soft ("feature " ++ feature ++ " not found")) := by
  obtain ⟨d, hd⟩ := Option.isSome_iff_exists.mp hattached
  have hd' : (a.count fun n => { n with reads := n.reads + 1 }).devices.get? id = some d := hd
  have hqueue : d.callFailures = [] := by
    unfold SimulatedCamera.failures at hq
    rw [device_of_get? hd] at hq
    exact hq
  unfold readFeature answer
  dsimp only
  rw [hd']
  dsimp only
  rw [hqueue, feature?_eq, device_of_get? hd]
  cases d.feature? feature <;> rfl

end SimulatedCamera

open SimulatedCamera (Handle Single)

/-- What any one call does. -/
theorem Served.single {a b : SimulatedCamera} {x : Call Handle} (h : Served a [x] b) :
    Single a x b := by
  cases h with
  | opened id con h hr =>
      rw [h.eq_of_nil]
      exact SimulatedCamera.single_openDevice id a rfl
  | refused id e h hr =>
      rw [h.eq_of_nil]
      exact SimulatedCamera.single_openDevice id a rfl
  | read id con feature h =>
      rw [h.eq_of_nil]
      exact SimulatedCamera.single_readFeature id con feature a
  | written id con feature value h =>
      rw [h.eq_of_nil]
      exact SimulatedCamera.single_writeFeature id con feature value a
  | grabbed id con format h =>
      rw [h.eq_of_nil]
      exact SimulatedCamera.single_grabImage id con format a
  | freed id frame h =>
      rw [h.eq_of_nil]
      exact .of_same rfl rfl
  | closed id con h =>
      rw [h.eq_of_nil]
      exact SimulatedCamera.single_closeDevice con.handle a rfl
  | posted id request h =>
      rw [h.eq_of_nil]
      exact .of_same rfl rfl

-- ================================================================ many calls

section

variable {a b : SimulatedCamera} {calls : List (Call Handle)}

/-- Calls attach and detach nothing. -/
theorem Served.isAttached (h : Served a calls b) (id : DeviceId) :
    b.isAttached id = a.isAttached id := by
  induction calls generalizing b with
  | nil => rw [h.eq_of_nil]
  | cons x older ih =>
      obtain ⟨m, hm, hx⟩ := h.split
      rw [hx.single.attached, ih hm]

/-- After calls a feature is as it was last written, or as it was. -/
theorem Served.feature? (h : Served a calls b) (id : DeviceId) (feature : String) :
    b.feature? id feature
      = (calls.findSome? (·.stored? id feature)).or (a.feature? id feature) := by
  induction calls generalizing b with
  | nil =>
      rw [h.eq_of_nil]
      rfl
  | cons x older ih =>
      obtain ⟨m, hm, hx⟩ := h.split
      rw [hx.single.feature?, ih hm, List.findSome?_cons]
      cases x.stored? id feature <;> rfl

/-- An open gives a handle on the device, which is attached. -/
theorem SimulatedCamera.openDevice_ok {id : DeviceId} {h : Handle}
    (hr : (openDevice id a).1 = .ok h) : h = ⟨id⟩ ∧ a.isAttached id = true := by
  unfold openDevice at hr
  dsimp only at hr
  split at hr
  next => cases hr
  next d hd =>
    refine ⟨?_, isAttached_of_get? hd⟩
    split at hr <;> cases hr
    rfl

/-- A device that was opened is attached, and its handle is one of it. -/
theorem Served.opened_handle (h : Served a calls b) {id : DeviceId} {con : Connection Handle}
    (hm : .opened id con ∈ calls) : con.handle = ⟨id⟩ ∧ b.isAttached id = true := by
  induction calls generalizing b with
  | nil => cases hm
  | cons x older ih =>
      obtain ⟨m, hold, hx⟩ := h.split
      rw [hx.isAttached]
      rcases List.mem_cons.mp hm with rfl | hm
      · generalize hopened : Call.opened id con = x at hx
        cases hx with
        | opened other con' hnil hr =>
            obtain ⟨rfl, -, hhandle⟩ := Call.mk.inj hopened
            rw [hnil.eq_of_nil] at hr
            rw [Option.some.inj hhandle]
            exact SimulatedCamera.openDevice_ok hr
        | _ => cases hopened
      · exact ih hold hm

end

-- ================================================================= scripts

namespace SimulatedCamera

/-- What can be scripted. -/
inductive Script where
  | attach (id : DeviceId)
  | detach (id : DeviceId)
  | setFeature (id : DeviceId) (feature value : String)
  | setFrame (id : DeviceId) (frame : Bytes)
  | failNextOpens (id : DeviceId) (count : Nat)
  | failNextCall (id : DeviceId) (e : HardwareError)
deriving DecidableEq

namespace Script

/-- The text that a script sets a feature of a device to. -/
def stored? (id : DeviceId) (feature : String) : Script → Option String
  | .setFeature other target value => if other = id ∧ target = feature then some value else none
  | _ => none

/-- The failure that a script queues for the calls of a device. -/
def queued? (id : DeviceId) : Script → Option HardwareError
  | .failNextCall other e => if other = id then some e else none
  | _ => none

end Script

/-- Follows a script. -/
def scripted (c : SimulatedCamera) : Script → SimulatedCamera
  | .attach id => c.attach id
  | .detach id => c.detach id
  | .setFeature id feature value => c.setFeature id feature value
  | .setFrame id frame => c.setFrame id frame
  | .failNextOpens id count => c.failNextOpens id count
  | .failNextCall id e => c.failNextCall id e

variable {c : SimulatedCamera} {id : DeviceId} {script : Script}

theorem get?_detach_ne (c : SimulatedCamera) {id other : DeviceId} (h : id ≠ other) :
    (c.detach other).devices.get? id = c.devices.get? id :=
  lookup_filter_ne h c.devices.entries

/-- What a device is after a script, if it is not detached. -/
theorem device_scripted (h : script ≠ .detach id) :
    (c.scripted script).device id =
      match script with
      | .setFeature other feature value =>
          if id = other then (c.device id).setFeature feature value else c.device id
      | .setFrame other frame => if id = other then { c.device id with frame } else c.device id
      | .failNextOpens other count =>
          if id = other then { c.device id with openFailures := count } else c.device id
      | .failNextCall other e =>
          if id = other then { c.device id with callFailures := (c.device id).callFailures ++ [e] }
          else c.device id
      | _ => c.device id := by
  have hself : ∀ other (f : SimulatedDevice → SimulatedDevice), (c.modify other f).device id
      = if id = other then f (c.device id) else c.device id := by
    intro other f
    rw [device_modify]
    split
    case isTrue heq => rw [heq]
    case isFalse => rfl
  cases script with
  | attach other => exact (hself other _).trans (ite_self _)
  | detach other =>
      have hne : id ≠ other := fun heq => h (by rw [heq])
      show (c.detach other).device id = c.device id
      unfold device
      rw [get?_detach_ne c hne]
  | setFeature other feature value => exact hself other _
  | setFrame other frame => exact hself other _
  | failNextOpens other count => exact hself other _
  | failNextCall other e => exact hself other _

theorem isAttached_scripted (h : script ≠ .detach id) (hid : c.isAttached id = true) :
    (c.scripted script).isAttached id = true := by
  have hmodify : ∀ other f, (c.modify other f).isAttached id = true := by
    intro other f
    rw [isAttached_modify, hid, Bool.or_true]
  cases script with
  | detach other =>
      have hne : id ≠ other := fun heq => h (by rw [heq])
      show (c.detach other).isAttached id = true
      unfold isAttached
      rw [get?_detach_ne c hne]
      exact hid
  | attach other => exact hmodify other _
  | setFeature other feature value => exact hmodify other _
  | setFrame other frame => exact hmodify other _
  | failNextOpens other count => exact hmodify other _
  | failNextCall other e => exact hmodify other _

/-- A scene stores what it says, and else the feature stays. -/
theorem scripted_feature? (h : script ≠ .detach id) (feature : String) :
    (c.scripted script).feature? id feature
      = (script.stored? id feature).or (c.feature? id feature) := by
  rw [feature?_eq, feature?_eq, device_scripted h]
  cases script with
  | setFeature other target value =>
      unfold Script.stored?
      by_cases heq : id = other
      · subst heq
        simp [SimulatedDevice.feature?_setFeature]
      · simp [heq, Ne.symm heq]
  | setFrame other frame => dsimp only; split <;> rfl
  | failNextOpens other count => dsimp only; split <;> rfl
  | failNextCall other e => dsimp only; split <;> rfl
  | _ => rfl

/-- A scene queues the failure it says behind the others. -/
theorem scripted_failures (h : script ≠ .detach id) :
    (c.scripted script).failures id = c.failures id ++ (script.queued? id).toList := by
  unfold SimulatedCamera.failures
  rw [device_scripted h]
  cases script with
  | failNextCall other e =>
      unfold Script.queued?
      by_cases heq : id = other
      · simp [heq]
      · simp [heq, Ne.symm heq]
  | setFeature other target value =>
      dsimp only
      split <;> simp [Script.queued?, SimulatedDevice.setFeature]
  | setFrame other frame => dsimp only; split <;> simp [Script.queued?]
  | failNextOpens other count => dsimp only; split <;> simp [Script.queued?]
  | _ => simp [Script.queued?]

end SimulatedCamera

end CameraDriver
