/-
What the binding makes of an answer of the library.

A text with a NUL byte fails before the call, softly, and the library is not
asked. Any other call enters once and is judged by its code: 0 succeeds, if an
open has a device to show for it, and every other code is a failure of that
code, a hard one if the code is above 1 (`Judges`). What is written into the
ledger after the call entered is the binding tidying up (`Aftermath`).
-/
import CameraDriver.Hardware.Native

namespace CameraDriver

namespace Vendor

variable {v v' w : Vendor} {call : VendorCall}

/-- The answer to the next call. -/
def next (v : Vendor) : VendorAnswer := v.script.headD {}

/-- What follows when a call has entered: texts and buffers come and go, and
no other call enters. -/
def Aftermath (v v' : Vendor) : Prop :=
  ∃ later, v'.ledger = later ++ v.ledger ∧
    ∀ call, .entered call ∈ later → ∃ block, call = .freeImage block

/-- A call entered, and nothing but its aftermath followed. -/
def Entered (v : Vendor) (call : VendorCall) (v' : Vendor) : Prop :=
  (v.note (.entered call)).Aftermath v'

namespace Aftermath

theorem refl (v : Vendor) : v.Aftermath v := ⟨[], rfl, fun _ hc => by cases hc⟩

theorem trans (h : v.Aftermath v') (h' : v'.Aftermath w) : v.Aftermath w := by
  obtain ⟨later, hledger, honly⟩ := h
  obtain ⟨later', hledger', honly'⟩ := h'
  refine ⟨later' ++ later, by rw [hledger', hledger, List.append_assoc], ?_⟩
  intro call hc
  rcases List.mem_append.mp hc with hc | hc
  · exact honly' call hc
  · exact honly call hc

/-- One entry that is no call. -/
theorem of_entry {e : VendorEvent} (hledger : v'.ledger = e :: v.ledger)
    (he : ∀ call, e = .entered call → ∃ block, call = .freeImage block) : v.Aftermath v' := by
  refine ⟨[e], hledger, ?_⟩
  intro call hc
  exact he call (List.mem_singleton.mp hc).symm

/-- The library may hand out a text. -/
theorem allocateText (v : Vendor) (text : Option Bytes) : v.Aftermath (v.allocateText text).2 := by
  cases text with
  | none => exact refl v
  | some content => exact of_entry rfl fun _ hc => by cases hc

/-- The library may hand out an image. -/
theorem allocateImage (v : Vendor) (image : Option Bytes) :
    v.Aftermath (v.allocateImage image).2 := by
  cases image with
  | none => exact refl v
  | some content => exact of_entry rfl fun _ hc => by cases hc

/-- The library may hand over a device. -/
theorem handOver (v : Vendor) (serial : String) (a : VendorAnswer) :
    v.Aftermath (v.handOver serial a).2 := by
  unfold Vendor.handOver
  split
  · exact of_entry rfl fun _ hc => by cases hc
  · exact refl v

/-- A text may be taken and given back. -/
theorem takeText (v : Vendor) (text : Option Block) :
    v.Aftermath (Native.takeText v text).2 := by
  cases text with
  | none => exact refl v
  | some block => exact of_entry rfl fun _ hc => by cases hc

/-- An image may be given back. -/
theorem freeImage (v : Vendor) (f : Native.Frame) : v.Aftermath (Native.freeImage f v) := by
  obtain ⟨image, size⟩ := f
  cases image with
  | none => exact refl v
  | some block =>
    refine of_entry rfl ?_
    rintro call ⟨⟩
    exact ⟨_, rfl⟩

end Aftermath

/-- The call itself, with its answer. -/
theorem Entered.enter (v : Vendor) (call : VendorCall) : v.Entered call (v.enter call).2 :=
  ⟨[], rfl, fun _ hc => by cases hc⟩

theorem Entered.openDevice (v : Vendor) (serial : String) :
    v.Entered (.openDevice serial) (v.openDevice serial).2.2.2 :=
  ((Entered.enter v (.openDevice serial)).trans (.handOver _ serial v.next)).trans
    (.allocateText _ v.next.error)

theorem Entered.getValue (v : Vendor) (device : Nat) (feature : String) :
    v.Entered (.getValue device feature) (v.getValue device feature).2.2.2 :=
  ((Entered.enter v (.getValue device feature)).trans (.allocateText _ v.next.out)).trans
    (.allocateText _ v.next.error)

theorem Entered.setValue (v : Vendor) (device : Nat) (feature value : String) :
    v.Entered (.setValue device feature value) (v.setValue device feature value).2.2 :=
  (Entered.enter v (.setValue device feature value)).trans (.allocateText _ v.next.error)

theorem Entered.getImage (v : Vendor) (device : Nat) (format : String) :
    v.Entered (.getImage device format) (v.getImage device format).2.2.2.2 :=
  ((Entered.enter v (.getImage device format)).trans (.allocateImage _ v.next.out)).trans
    (.allocateText _ v.next.error)

/-- A device is handed over exactly if the answer has one. -/
theorem handOver_fst (v : Vendor) (serial : String) (a : VendorAnswer) :
    (v.handOver serial a).1 = if a.device = true then some v.devices else none := by
  unfold handOver
  split <;> rfl

/-- An image is handed out exactly if the answer has one. -/
theorem allocateImage_isSome (v : Vendor) (image : Option Bytes) :
    (v.allocateImage image).1.isSome = image.isSome := by
  cases image <;> rfl

end Vendor

namespace Native

open Vendor

variable {text what feature value format : String} {id : DeviceId}

theorem passable_of_nul (h : HoldsNul text) :
    passable what text = .error (.soft (what ++ " contains a NUL byte")) := if_pos h

theorem passable_of_bare (h : ¬ HoldsNul text) : passable what text = .ok text := if_neg h

/-- A failure is hard if its code is above 1. -/
theorem failure_isHard {code : Int} (h : code ≠ 0) (message : String) :
    (failure code message).isHard = decide (1 < code) := by
  unfold failure HardwareError.ofCode Signal.ofCode HardwareError.isHard
  rw [if_neg h, if_neg h]
  by_cases hcode : 1 < code
  · simp [hcode]
  · simp [hcode]

-- =================================================================== calls

theorem openDevice_of_nul (v : Vendor) (h : HoldsNul id.text) :
    openDevice id v = (.error (.soft "device serial number contains a NUL byte"), v) := by
  unfold openDevice
  rw [passable_of_nul h]
  rfl

/-- An open succeeds with the code 0 and a device. -/
theorem openDevice_of_bare (v : Vendor) (h : ¬ HoldsNul id.text) :
    v.Entered (.openDevice id.text) (openDevice id v).2 ∧
    ∃ message, (openDevice id v).1 =
      if v.next.code = 0 ∧ v.next.device = true then .ok v.devices
      else .error (failure v.next.code message) := by
  let entered := (v.openDevice id.text).2.2.2
  let error := (v.openDevice id.text).2.2.1
  have hentered := (Entered.openDevice v id.text).trans (.takeText entered error)
  have hhanded : (v.openDevice id.text).2.1 =
      if v.next.device = true then some v.devices else none := handOver_fst _ _ _
  unfold openDevice
  rw [passable_of_bare h]
  dsimp only
  by_cases hdevice : v.next.device = true
  · rw [hhanded, if_pos hdevice]
    refine ⟨hentered, (takeText entered error).1, ?_⟩
    simp only [hdevice, and_true]
    rfl
  · rw [hhanded, if_neg hdevice]
    refine ⟨hentered, (takeText entered error).1, ?_⟩
    rw [if_neg fun hok => hdevice hok.2]
    rfl

/-- An open succeeds if the text of the device can be passed on, the code is 0
and there is a device. -/
theorem openDevice_eq_ok {v : Vendor} {device : Nat} :
    (openDevice id v).1 = .ok device ↔
      ¬ HoldsNul id.text ∧ v.next.code = 0 ∧ v.next.device = true ∧ device = v.devices := by
  by_cases h : HoldsNul id.text
  · rw [openDevice_of_nul v h]
    simp [h]
  · obtain ⟨-, message, hresult⟩ := openDevice_of_bare v h
    rw [hresult]
    by_cases hok : v.next.code = 0 ∧ v.next.device = true
    · rw [if_pos hok]
      simp [h, hok, eq_comm]
    · rw [if_neg hok]
      simp only [reduceCtorEq, false_iff]
      exact fun hall => hok ⟨hall.2.1, hall.2.2.1⟩

/-- A feature to be read whose name has a NUL byte never reaches the library. -/
theorem readFeature_of_nul (v : Vendor) (device : Nat) (h : HoldsNul feature) :
    readFeature device feature v = (.error (.soft "feature name contains a NUL byte"), v) := by
  unfold readFeature
  rw [passable_of_nul h]
  rfl

/-- A read succeeds with the code 0. -/
theorem readFeature_of_bare (v : Vendor) (device : Nat) (h : ¬ HoldsNul feature) :
    v.Entered (.getValue device feature) (readFeature device feature v).2 ∧
    ∃ value message, (readFeature device feature v).1 =
      if v.next.code = 0 then .ok value else .error (failure v.next.code message) := by
  unfold readFeature
  rw [passable_of_bare h]
  exact ⟨((Entered.getValue v device feature).trans (.takeText _ _)).trans (.takeText _ _),
    _, _, rfl⟩

/-- A feature or a value to be written with a NUL byte never reaches the library. -/
theorem writeFeature_of_nul (v : Vendor) (device : Nat) (h : HoldsNul feature ∨ HoldsNul value) :
    ∃ what, writeFeature device feature value v =
      (.error (.soft (what ++ " contains a NUL byte")), v) := by
  unfold writeFeature
  by_cases hf : HoldsNul feature
  · rw [passable_of_nul hf]
    exact ⟨_, rfl⟩
  · rw [passable_of_bare hf, passable_of_nul (h.resolve_left hf)]
    exact ⟨_, rfl⟩

/-- A write succeeds with the code 0. -/
theorem writeFeature_of_bare (v : Vendor) (device : Nat) (hf : ¬ HoldsNul feature)
    (hv : ¬ HoldsNul value) :
    v.Entered (.setValue device feature value) (writeFeature device feature value v).2 ∧
    ∃ message, (writeFeature device feature value v).1 =
      if v.next.code = 0 then .ok () else .error (failure v.next.code message) := by
  unfold writeFeature
  rw [passable_of_bare hf, passable_of_bare hv]
  exact ⟨(Entered.setValue v device feature value).trans (.takeText _ _), _, rfl⟩

/-- An image format with a NUL byte never reaches the library. -/
theorem grabImage_of_nul (v : Vendor) (device : Nat) (h : HoldsNul format) :
    grabImage device format v = (.error (.soft "image format contains a NUL byte"), v) := by
  unfold grabImage
  rw [passable_of_nul h]
  rfl

/-- A grab succeeds with the code 0, with a buffer if the library handed one
out. -/
theorem grabImage_of_bare (v : Vendor) (device : Nat) (h : ¬ HoldsNul format) :
    v.Entered (.getImage device format) (grabImage device format v).2 ∧
    ∃ frame message, (grabImage device format v).1 =
        (if v.next.code = 0 then .ok frame else .error (failure v.next.code message))
      ∧ frame.image.isSome = v.next.out.isSome := by
  have hentered := (Entered.getImage v device format).trans
    (.takeText _ (v.getImage device format).2.2.2.1)
  let frame : Frame :=
    ⟨(v.getImage device format).2.1, (v.getImage device format).2.2.1.toNat⟩
  have hbuffer : frame.image.isSome = v.next.out.isSome := allocateImage_isSome _ v.next.out
  unfold grabImage
  rw [passable_of_bare h]
  dsimp only
  split
  · exact ⟨hentered, frame, "", (if_pos ‹_›).symm, hbuffer⟩
  · exact ⟨hentered.trans (.freeImage _ _), frame, _, (if_neg ‹_›).symm, hbuffer⟩

-- ============================================================== judgements

/-- The code that judges a call with some texts; there is none if one of them
cannot be passed to the library. -/
def codeOf (v : Vendor) (texts : List String) : Option Int :=
  if ∃ text ∈ texts, HoldsNul text then none else some v.next.code

/-- Whether a code takes a link down. -/
def TakesDown (code : Option Int) : Prop := ∃ n, code = some n ∧ 1 < n

/-- A code judges the result of a call: the call succeeded if the code is 0,
and failed hard if the code takes a link down. -/
def Judges {α : Type} (code : Option Int) : Except HardwareError α → Prop
  | .ok _ => code = some 0
  | .error e => code ≠ some 0 ∧ (e.isHard = true ↔ TakesDown code)

/-- Without a code the link stays up. -/
theorem not_takesDown_none : ¬ TakesDown none := by
  rintro ⟨n, hn, -⟩
  cases hn

/-- With code zero the link stays up. -/
theorem not_takesDown_zero : ¬ TakesDown (some 0) := by
  rintro ⟨n, hn, hlt⟩
  cases hn
  omega

/-- A call with a NUL byte has no code: the library is not entered. -/
theorem codeOf_of_nul {v : Vendor} {texts : List String} (h : ∃ text ∈ texts, HoldsNul text) :
    codeOf v texts = none := if_pos h

/-- A call without a NUL byte has the code of the library's next answer. -/
theorem codeOf_of_bare {v : Vendor} {texts : List String} (h : ∀ text ∈ texts, ¬ HoldsNul text) :
    codeOf v texts = some v.next.code :=
  if_neg fun ⟨text, hm, hn⟩ => h text hm hn

/-- A call that did not enter. -/
theorem judges_soft {α : Type} (message : String) :
    Judges none (.error (.soft message) : Except HardwareError α) :=
  ⟨by simp, iff_of_false (by simp [HardwareError.soft, HardwareError.isHard]) not_takesDown_none⟩

/-- A call that entered. -/
theorem judges_code {α : Type} (code : Int) (a : α) (message : String) :
    Judges (some code) (if code = 0 then .ok a else .error (failure code message)) := by
  split
  · exact congrArg some ‹_›
  · refine ⟨by simpa using ‹¬ code = 0›, ?_⟩
    rw [failure_isHard ‹_›, decide_eq_true_iff]
    exact ⟨fun h => ⟨code, rfl, h⟩, fun ⟨n, hn, h⟩ => Option.some.inj hn ▸ h⟩

/-- The answer of a read is judged by its code. -/
theorem readFeature_judged (v : Vendor) (device : Nat) (feature : String) :
    Judges (codeOf v [feature]) (readFeature device feature v).1 := by
  by_cases h : HoldsNul feature
  · rw [codeOf_of_nul ⟨feature, List.mem_singleton_self _, h⟩, readFeature_of_nul v device h]
    exact judges_soft _
  · obtain ⟨-, value, message, hresult⟩ := readFeature_of_bare v device h
    rw [codeOf_of_bare (by simpa using h), hresult]
    exact judges_code _ _ _

/-- The answer of a write is judged by its code. -/
theorem writeFeature_judged (v : Vendor) (device : Nat) (feature value : String) :
    Judges (codeOf v [feature, value]) (writeFeature device feature value v).1 := by
  by_cases h : HoldsNul feature ∨ HoldsNul value
  · obtain ⟨what, hresult⟩ := writeFeature_of_nul v device h
    rw [codeOf_of_nul (by simpa using h), hresult]
    exact judges_soft _
  · obtain ⟨hf, hv⟩ := not_or.mp h
    obtain ⟨-, message, hresult⟩ := writeFeature_of_bare v device hf hv
    rw [codeOf_of_bare (by simp [hf, hv]), hresult]
    exact judges_code _ _ _

/-- The answer of a grab is judged by its code. -/
theorem grabImage_judged (v : Vendor) (device : Nat) (format : String) :
    Judges (codeOf v [format]) (grabImage device format v).1 := by
  by_cases h : HoldsNul format
  · rw [codeOf_of_nul ⟨format, List.mem_singleton_self _, h⟩, grabImage_of_nul v device h]
    exact judges_soft _
  · obtain ⟨-, frame, message, hresult, -⟩ := grabImage_of_bare v device h
    rw [codeOf_of_bare (by simpa using h), hresult]
    exact judges_code _ _ _

end Native

end CameraDriver
