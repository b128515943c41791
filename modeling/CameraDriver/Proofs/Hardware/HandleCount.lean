/-
How far the count of open handles can be trusted that the simulated camera keeps.

Whoever uses the camera holds the handles that opens gave, each until it is closed
(`Holder`). The camera does not know handles apart. For an attached device it keeps a
number, which an open that succeeds raises and a close lowers, down to zero; detaching the
device drops the number, and attaching it again starts from zero (`apply_cases`).

So the count is never too large, and what makes it too small is one thing only: the device
is attached while handles of it are held, left over from before. A single attachment of
that kind makes the count wrong at once (`exact_apply_iff`), and without one it is right
at every moment (`handle_count_follows`).
-/
import CameraDriver.Proofs.Hardware.Simulated

namespace CameraDriver.SimulatedCamera

variable {c : SimulatedCamera} {id : DeviceId}

-- =============================================================== the count

/-- The count stands in the entry of the device. -/
theorem openHandles_eq (c : SimulatedCamera) (id : DeviceId) :
    c.openHandles id = (c.device id).openHandles := by
  unfold openHandles device
  cases c.devices.get? id <;> rfl

/-- A device that is not attached has no count. -/
theorem openHandles_of_missing (h : c.isAttached id = false) : c.openHandles id = 0 := by
  unfold isAttached at h
  unfold openHandles
  cases hd : c.devices.get? id with
  | none => rfl
  | some d =>
      rw [hd] at h
      cases h

/-- A change of one entry is not seen in another. -/
theorem openHandles_modify (c : SimulatedCamera) (id other : DeviceId)
    (f : SimulatedDevice → SimulatedDevice) :
    (c.modify id f).openHandles other
      = if other = id then (f (c.device id)).openHandles else c.openHandles other := by
  rw [openHandles_eq, openHandles_eq, device_modify]
  split <;> rfl

/-- A change that leaves the count of its device leaves all counts. -/
theorem openHandles_modify_same {f : SimulatedDevice → SimulatedDevice} {target : DeviceId}
    (hf : (f (c.device target)).openHandles = (c.device target).openHandles) :
    (c.modify target f).openHandles id = c.openHandles id := by
  rw [openHandles_modify]
  split
  case isTrue h => rw [hf, h, openHandles_eq]
  case isFalse => rfl

/-- An open that succeeds raises the count of its device. -/
theorem openHandles_openDevice (target : DeviceId) (c : SimulatedCamera) (id : DeviceId) :
    (openDevice target c).2.openHandles id
      = (openDevice target c).1.toOption.toList.count ⟨id⟩ + c.openHandles id := by
  unfold openDevice
  dsimp only
  split
  next => exact (Nat.zero_add _).symm
  next d hd =>
    split
    case isTrue => exact (openHandles_modify_same rfl).trans (Nat.zero_add _).symm
    case isFalse =>
      dsimp only [Except.toOption, Option.toList]
      rw [openHandles_modify]
      by_cases h : id = target
      · subst h
        rw [if_pos rfl, List.count_singleton_self, openHandles_eq, Nat.add_comm]
        rfl
      · have hne : (⟨target⟩ : Handle) ≠ ⟨id⟩ := fun heq => h (Handle.mk.inj heq).symm
        rw [if_neg h, List.count_eq_zero_of_not_mem (by simpa using hne.symm), Nat.zero_add]
        rfl

/-- A close lowers the count of its device, down to zero. -/
theorem openHandles_closeDevice (h : Handle) (c : SimulatedCamera) (id : DeviceId) :
    (closeDevice h c).openHandles id
      = if id = h.device then c.openHandles id - 1 else c.openHandles id := by
  unfold closeDevice
  dsimp only
  split
  next hd =>
    have hzero : c.openHandles h.device = 0 := by
      unfold openHandles
      rw [show c.devices.get? h.device = none from hd]
      rfl
    split
    case isTrue heq => rw [heq, hzero]; exact hzero
    case isFalse => rfl
  next d hd =>
    rw [openHandles_modify]
    split
    case isTrue heq => rw [heq, openHandles_eq]; rfl
    case isFalse => rfl

theorem calls_openDevice (target : DeviceId) (c : SimulatedCamera) :
    (openDevice target c).2.calls = { c.calls with opens := c.calls.opens + 1 } := by
  unfold openDevice
  dsimp only
  split
  next => rfl
  next => split <;> rfl

theorem calls_closeDevice (h : Handle) (c : SimulatedCamera) :
    (closeDevice h c).calls = { c.calls with closes := c.calls.closes + 1 } := by
  unfold closeDevice
  dsimp only
  split <;> rfl

theorem calls_answer {α : Type} (h : Handle)
    (f : SimulatedDevice → Except HardwareError α × SimulatedDevice) (c : SimulatedCamera) :
    (answer h f c).2.calls = c.calls := by
  unfold answer
  split
  next => rfl
  next => split <;> rfl

theorem isAttached_closeDevice (h : Handle) (c : SimulatedCamera) (id : DeviceId) :
    (closeDevice h c).isAttached id = c.isAttached id := by
  unfold closeDevice
  dsimp only
  split
  next => rfl
  next d hd => exact isAttached_of_known hd _ id

/-- A call on an open device leaves all counts. -/
theorem openHandles_answer {α : Type} (h : Handle)
    {f : SimulatedDevice → Except HardwareError α × SimulatedDevice}
    (hf : ∀ d, (f d).2.openHandles = d.openHandles) (c : SimulatedCamera) (id : DeviceId) :
    (answer h f c).2.openHandles id = c.openHandles id := by
  unfold answer
  split
  next => rfl
  next d hd =>
    split
    next => exact openHandles_modify_same rfl
    next =>
      refine openHandles_modify_same ?_
      rw [device_of_get? hd]
      exact hf d

theorem openHandles_readFeature (h : Handle) (feature : String) (c : SimulatedCamera)
    (id : DeviceId) : (readFeature h feature c).2.openHandles id = c.openHandles id := by
  refine openHandles_answer h ?_ _ id
  intro d
  split <;> rfl

theorem openHandles_writeFeature (h : Handle) (feature value : String) (c : SimulatedCamera)
    (id : DeviceId) : (writeFeature h feature value c).2.openHandles id = c.openHandles id :=
  openHandles_answer h (fun _ => rfl) _ id

theorem openHandles_grabImage (h : Handle) (format : String) (c : SimulatedCamera)
    (id : DeviceId) : (grabImage h format c).2.openHandles id = c.openHandles id := by
  refine openHandles_answer h ?_ _ id
  intro d
  split <;> rfl

theorem isAttached_detach (c : SimulatedCamera) (id : DeviceId) :
    (c.detach id).isAttached id = false := by
  have hnone : (c.detach id).devices.get? id = none := by
    show (c.devices.entries.filter (·.1 ≠ id)).lookup id = none
    rw [List.lookup_eq_none_iff]
    intro e he
    have hne : e.1 ≠ id := by simpa using (List.mem_filter.mp he).2
    exact bne_iff_ne.mpr hne.symm
  unfold isAttached
  rw [hnone]
  rfl

/-- A script leaves the count of a device that it does not detach. -/
theorem openHandles_scripted {script : Script} (h : script ≠ .detach id) :
    (c.scripted script).openHandles id = c.openHandles id := by
  rw [openHandles_eq, openHandles_eq, device_scripted h]
  cases script with
  | attach other => rfl
  | detach other => rfl
  | _ => dsimp only; split <;> rfl

-- ================================================================ holders

/-- What the holder of a camera can do. A handle is passed by its place among those that
are held. -/
inductive Use where
  | script (script : Script)
  | openDevice (id : DeviceId)
  | readFeature (place : Nat) (feature : String)
  | writeFeature (place : Nat) (feature value : String)
  | grabImage (place : Nat) (format : String)
  | freeImage (frame : Bytes)
  | closeDevice (place : Nat)
deriving DecidableEq

/-- A camera with the handles that were opened and not yet closed, the latest first. -/
structure Holder where
  camera : SimulatedCamera := {}
  held : List Handle := []

namespace Holder

/-- Passes a handle to a call; nothing is called if none is held there. -/
def pass (s : Holder) (place : Nat) (call : Handle → SimulatedCamera → SimulatedCamera) : Holder :=
  match s.held[place]? with
  | some h => { s with camera := call h s.camera }
  | none => s

/-- Closes a handle, which is held no longer then. -/
def close (s : Holder) (place : Nat) : Holder :=
  match s.held[place]? with
  | some h => { camera := closeDevice h s.camera, held := s.held.eraseIdx place }
  | none => s

/-- Uses the camera. -/
def apply (s : Holder) : Use → Holder
  | .script script => { s with camera := s.camera.scripted script }
  | .openDevice id =>
      { camera := (SimulatedCamera.openDevice id s.camera).2
        held := (SimulatedCamera.openDevice id s.camera).1.toOption.toList ++ s.held }
  | .readFeature place feature => s.pass place fun h c => (readFeature h feature c).2
  | .writeFeature place feature value => s.pass place fun h c => (writeFeature h feature value c).2
  | .grabImage place format => s.pass place fun h c => (grabImage h format c).2
  | .freeImage frame => { s with camera := SimulatedCamera.freeImage frame s.camera }
  | .closeDevice place => s.close place

def run (s : Holder) (uses : List Use) : Holder := uses.foldl apply s

/-- How many handles of a device were opened and not yet closed. -/
def handles (s : Holder) (id : DeviceId) : Nat := s.held.count ⟨id⟩

variable {s : Holder} {use : Use}

-- ================================================================ one use

/-- A call on a handle that opens and closes nothing leaves the count. -/
theorem openHandles_pass {place : Nat} {call : Handle → SimulatedCamera → SimulatedCamera}
    (hcall : ∀ h c, (call h c).openHandles id = c.openHandles id) (s : Holder) :
    (s.pass place call).camera.openHandles id = s.camera.openHandles id := by
  unfold pass
  split
  next => exact hcall _ _
  next => rfl

/-- A call on a handle leaves all handles held. -/
theorem held_pass (s : Holder) (place : Nat) (call : Handle → SimulatedCamera → SimulatedCamera) :
    (s.pass place call).held = s.held := by
  unfold pass
  split <;> rfl

/-- A handle that is given away is one less of its device. -/
theorem count_eraseIdx {held : List Handle} {place : Nat} {h : Handle}
    (hh : held[place]? = some h) (id : DeviceId) :
    (held.eraseIdx place).count ⟨id⟩ + (if id = h.device then 1 else 0) = held.count ⟨id⟩ := by
  have hof : (h == ⟨id⟩) = true ↔ id = h.device := by
    rw [beq_iff_eq]
    exact ⟨fun heq => by rw [heq], fun heq => by rw [heq]⟩
  obtain ⟨hlt, rfl⟩ := List.getElem?_eq_some_iff.mp hh
  rw [← (List.getElem_cons_eraseIdx_perm hlt).count_eq ⟨id⟩, List.count_cons, if_congr hof rfl rfl]

/-- What is done to the count of a device and to the handles of it that are held. A use
drops the count, or raises both alike, or closes a handle. -/
theorem apply_cases (s : Holder) (use : Use) (id : DeviceId) :
    (use = .script (.detach id) ∧ (s.apply use).camera.isAttached id = false
        ∧ (s.apply use).handles id = s.handles id)
      ∨ (∃ n, (s.apply use).camera.openHandles id = n + s.camera.openHandles id
        ∧ (s.apply use).handles id = n + s.handles id)
      ∨ ((s.apply use).camera.isAttached id = s.camera.isAttached id
        ∧ (s.apply use).camera.openHandles id = s.camera.openHandles id - 1
        ∧ (s.apply use).handles id + 1 = s.handles id) := by
  have hasks : ∀ place (call : Handle → SimulatedCamera → SimulatedCamera),
      (∀ h c, (call h c).openHandles id = c.openHandles id) →
      ∃ n, (s.pass place call).camera.openHandles id = n + s.camera.openHandles id
        ∧ (s.pass place call).handles id = n + s.handles id := by
    intro place call hcall
    refine ⟨0, (openHandles_pass hcall s).trans (Nat.zero_add _).symm, ?_⟩
    unfold handles
    rw [held_pass, Nat.zero_add]
  cases use with
  | script script =>
      by_cases h : script = .detach id
      · subst h
        exact .inl ⟨rfl, isAttached_detach _ _, rfl⟩
      · exact .inr (.inl ⟨0, (openHandles_scripted h).trans (Nat.zero_add _).symm,
          (Nat.zero_add _).symm⟩)
  | openDevice target =>
      exact .inr (.inl ⟨_, openHandles_openDevice target s.camera id, List.count_append⟩)
  | readFeature place feature =>
      exact .inr (.inl (hasks place _ fun h c => openHandles_readFeature h feature c id))
  | writeFeature place feature value =>
      exact .inr (.inl (hasks place _ fun h c => openHandles_writeFeature h feature value c id))
  | grabImage place format =>
      exact .inr (.inl (hasks place _ fun h c => openHandles_grabImage h format c id))
  | freeImage frame => exact .inr (.inl ⟨0, (Nat.zero_add _).symm, (Nat.zero_add _).symm⟩)
  | closeDevice place =>
      show _ ∨ (∃ n, (s.close place).camera.openHandles id = n + _
          ∧ (s.close place).handles id = n + _)
        ∨ ((s.close place).camera.isAttached id = _ ∧ (s.close place).camera.openHandles id = _
          ∧ (s.close place).handles id + 1 = _)
      unfold close
      split
      next h hh =>
        have hcount := count_eraseIdx hh id
        have hcloses := openHandles_closeDevice h s.camera id
        right
        by_cases heq : id = h.device
        · rw [if_pos heq] at hcount hcloses
          exact .inr ⟨isAttached_closeDevice _ _ _, hcloses, hcount⟩
        · rw [if_neg heq] at hcount hcloses
          exact .inl ⟨0, hcloses.trans (Nat.zero_add _).symm, hcount.trans (Nat.zero_add _).symm⟩
      next => exact .inr (.inl ⟨0, (Nat.zero_add _).symm, (Nat.zero_add _).symm⟩)

-- ================================================================ exactness

/-- If the device is attached, its count is that of the handles that are held. -/
def Exact (s : Holder) (id : DeviceId) : Prop :=
  s.camera.isAttached id = true → s.camera.openHandles id = s.handles id

/-- A use attaches a device that is not attached. -/
def Attaches (s : Holder) (id : DeviceId) (use : Use) : Prop :=
  s.camera.isAttached id = false ∧ (s.apply use).camera.isAttached id = true

/-- The count is never too large. -/
theorem openHandles_le_apply (h : s.camera.openHandles id ≤ s.handles id) (use : Use) :
    (s.apply use).camera.openHandles id ≤ (s.apply use).handles id := by
  rcases apply_cases s use id with ⟨-, hdetached, -⟩ | ⟨n, hcount, hheld⟩ | ⟨-, hcount, hheld⟩
  · rw [openHandles_of_missing hdetached]
    exact Nat.zero_le _
  · omega
  · omega

/-- A right count stays right, unless the device is detached while handles are held. -/
theorem openHandles_eq_apply (h : s.camera.openHandles id = s.handles id) {use : Use}
    (hdetach : use = .script (.detach id) → s.handles id = 0) :
    (s.apply use).camera.openHandles id = (s.apply use).handles id := by
  rcases apply_cases s use id with ⟨rfl, hdetached, hheld⟩ | ⟨n, hcount, hheld⟩ | ⟨-, hcount, hheld⟩
  · rw [openHandles_of_missing hdetached, hheld, hdetach rfl]
  · omega
  · omega

/-- A count that is right stays right exactly if the device is not attached while handles
of it are held. -/
theorem exact_apply_iff (h : s.Exact id) (use : Use) :
    (s.apply use).Exact id ↔ (s.Attaches id use → s.handles id = 0) := by
  unfold Exact Attaches at *
  cases ha : s.camera.isAttached id with
  | true =>
      constructor
      · -- a device that is attached is not attached anew
        rintro - ⟨hfalse, -⟩
        cases hfalse
      intro _ hattached
      refine openHandles_eq_apply (h ha) ?_
      rintro rfl
      have hdetached : (s.apply (.script (.detach id))).camera.isAttached id = false :=
        isAttached_detach _ _
      rw [hdetached] at hattached
      cases hattached
  | false =>
      have hzero := openHandles_of_missing ha
      constructor
      · -- the count starts at zero, so it is exact only if no handle is there
        rintro hexact ⟨-, hattached⟩
        have hright := hexact hattached
        rcases apply_cases s use id with ⟨-, hdetached, -⟩ | ⟨n, hcount, hheld⟩ | ⟨hsame, -, -⟩
        · rw [hdetached] at hattached
          cases hattached
        · omega
        · rw [hsame, ha] at hattached
          cases hattached
      · -- and if none is there, zero is exact
        intro hnone hattached
        have hheld := hnone ⟨rfl, hattached⟩
        exact openHandles_eq_apply (hzero.trans hheld.symm) fun _ => hheld

-- =================================================================== calls

/-- Whether a use calls to open a device. -/
def opens (_ : Holder) : Use → Bool
  | .openDevice _ => true
  | _ => false

/-- Whether a use calls to close a handle. -/
def closes (s : Holder) : Use → Bool
  | .closeDevice place => s.held[place]?.isSome
  | _ => false

/-- A call that neither opens nor closes leaves the counts of these calls. -/
theorem calls_pass {place : Nat} {call : Handle → SimulatedCamera → SimulatedCamera}
    (hcall : ∀ h c, (call h c).calls.opens = c.calls.opens ∧ (call h c).calls.closes = c.calls.closes)
    (s : Holder) :
    (s.pass place call).camera.calls.opens = s.camera.calls.opens
      ∧ (s.pass place call).camera.calls.closes = s.camera.calls.closes := by
  unfold pass
  split
  next => exact hcall _ _
  next => exact ⟨rfl, rfl⟩

/-- Opens and closes are counted as they are made. -/
theorem apply_calls (s : Holder) (use : Use) :
    (s.apply use).camera.calls.opens = s.camera.calls.opens + (s.opens use).toNat
      ∧ (s.apply use).camera.calls.closes = s.camera.calls.closes + (s.closes use).toNat := by
  cases use with
  | script script => cases script <;> exact ⟨rfl, rfl⟩
  | openDevice id =>
      show (openDevice id s.camera).2.calls.opens = _ ∧ (openDevice id s.camera).2.calls.closes = _
      rw [calls_openDevice]
      exact ⟨rfl, rfl⟩
  | readFeature place feature =>
      refine calls_pass (fun h c => ?_) s
      rw [readFeature, calls_answer]
      exact ⟨rfl, rfl⟩
  | writeFeature place feature value =>
      refine calls_pass (fun h c => ?_) s
      rw [writeFeature, calls_answer]
      exact ⟨rfl, rfl⟩
  | grabImage place format =>
      refine calls_pass (fun h c => ?_) s
      rw [grabImage, calls_answer]
      exact ⟨rfl, rfl⟩
  | freeImage frame => exact ⟨rfl, rfl⟩
  | closeDevice place =>
      show (s.close place).camera.calls.opens = _ ∧ (s.close place).camera.calls.closes = _
      unfold close closes
      dsimp only
      split
      next h hh =>
        dsimp only
        rw [calls_closeDevice, hh]
        exact ⟨rfl, rfl⟩
      next hh =>
        rw [hh]
        exact ⟨rfl, rfl⟩

-- ==================================================================== runs

/-- How many uses of a run are of a kind, each looked at where it stands in the run. -/
def times (kind : Holder → Use → Bool) (s : Holder) : List Use → Nat
  | [] => 0
  | use :: rest => (kind s use).toNat + times kind (s.apply use) rest

/-- Over a run the opens and closes are counted. -/
theorem run_calls (s : Holder) (uses : List Use) :
    (s.run uses).camera.calls.opens = s.camera.calls.opens + s.times opens uses
      ∧ (s.run uses).camera.calls.closes = s.camera.calls.closes + s.times closes uses := by
  induction uses generalizing s with
  | nil => exact ⟨rfl, rfl⟩
  | cons use rest ih =>
      obtain ⟨hopens, hcloses⟩ := apply_calls s use
      obtain ⟨hopens', hcloses'⟩ := ih (s.apply use)
      rw [hopens, Nat.add_assoc] at hopens'
      rw [hcloses, Nat.add_assoc] at hcloses'
      exact ⟨hopens', hcloses'⟩

/-- A count that is not above the handles in use never gets above them. -/
theorem openHandles_le_run (h : s.camera.openHandles id ≤ s.handles id) (uses : List Use) :
    (s.run uses).camera.openHandles id ≤ (s.run uses).handles id := by
  induction uses generalizing s with
  | nil => exact h
  | cons use rest ih => exact ih (openHandles_le_apply h use)

/-- A run goes on by its next use. -/
theorem run_take_succ {uses : List Use} {n : Nat} (hn : uses[n]? = some use) :
    s.run (uses.take (n + 1)) = (s.run (uses.take n)).apply use := by
  unfold run
  rw [List.take_add_one, hn, List.foldl_append]
  rfl

/-- A moment of a run that has a next one. -/
theorem run_take_cases (s : Holder) (uses : List Use) (n : Nat) :
    (∃ use, uses[n]? = some use)
      ∨ s.run (uses.take (n + 1)) = s.run (uses.take n) := by
  cases hn : uses[n]? with
  | some use => exact .inl ⟨use, rfl⟩
  | none =>
      right
      have hle := List.getElem?_eq_none_iff.mp hn
      rw [List.take_of_length_le hle, List.take_of_length_le (by omega)]

/-- The count is right at every moment of a run exactly if at no moment the device is
attached while handles of it are held. -/
theorem exact_run_iff (h : s.Exact id) (uses : List Use) :
    (∀ n, (s.run (uses.take n)).Exact id)
      ↔ ∀ n use, uses[n]? = some use → (s.run (uses.take n)).Attaches id use →
          (s.run (uses.take n)).handles id = 0 := by
  constructor
  · intro hexact n use hn
    refine (exact_apply_iff (hexact n) use).mp ?_
    rw [← run_take_succ hn]
    exact hexact (n + 1)
  · intro hnone n
    induction n with
    | zero => exact h
    | succ n ih =>
        rcases run_take_cases s uses n with ⟨use, hn⟩ | hsame
        · rw [run_take_succ hn]
          exact (exact_apply_iff ih use).mpr (hnone n use hn)
        · rw [hsame]
          exact ih

/-- So it is, attached or not, if the device is detached only when no handle of it is
held. -/
theorem openHandles_eq_run (h : s.camera.openHandles id = s.handles id) {uses : List Use}
    (hdetach : ∀ n, uses[n]? = some (.script (.detach id)) → (s.run (uses.take n)).handles id = 0)
    (n : Nat) : (s.run (uses.take n)).camera.openHandles id = (s.run (uses.take n)).handles id := by
  induction n with
  | zero => exact h
  | succ n ih =>
      rcases run_take_cases s uses n with ⟨use, hn⟩ | hsame
      · rw [run_take_succ hn]
        exact openHandles_eq_apply ih fun heq => hdetach n (heq ▸ hn)
      · rw [hsame]
        exact ih

end Holder

/-- Over every run of uses of a camera, with handles of any devices opened and closed in any
order: every call to open or to close is counted, failed opens included. The count of open
handles of a device is never more than the handles of it that were opened and not yet
closed. While the device is attached the two are equal at every moment of the run exactly
if the device is never attached while handles of it are open, left over from before it was
detached. If it is never detached with handles open, they are equal throughout. -/
theorem handle_count_follows (uses : List Use) :
    (({} : Holder).run uses).camera.calls.opens = Holder.times Holder.opens {} uses
    ∧ (({} : Holder).run uses).camera.calls.closes = Holder.times Holder.closes {} uses
    ∧ (∀ id, (({} : Holder).run uses).camera.openHandles id ≤ (({} : Holder).run uses).handles id)
    ∧ (∀ id, (∀ n, (({} : Holder).run (uses.take n)).Exact id)
      ↔ ∀ n use, uses[n]? = some use → (({} : Holder).run (uses.take n)).Attaches id use →
          (({} : Holder).run (uses.take n)).handles id = 0)
    ∧ ∀ id, (∀ n, uses[n]? = some (.script (.detach id)) →
          (({} : Holder).run (uses.take n)).handles id = 0) →
        ∀ n, (({} : Holder).run (uses.take n)).camera.openHandles id
          = (({} : Holder).run (uses.take n)).handles id := by
  obtain ⟨hopens, hcloses⟩ := Holder.run_calls {} uses
  have hexact (id : DeviceId) : ({} : Holder).Exact id := nofun
  exact ⟨hopens.trans (Nat.zero_add _), hcloses.trans (Nat.zero_add _),
    fun id => Holder.openHandles_le_run (Nat.zero_le _) uses,
    fun id => Holder.exact_run_iff (hexact id) uses, fun id => Holder.openHandles_eq_run rfl⟩

/-- A device is detached while a handle of it is open, attached again and opened again. Its
old handle is closed, and the count is zero, although the new one is open. -/
theorem handle_count_of_reattached :
    let s := ({} : Holder).run [.script (.attach ⟨"a"⟩), .openDevice ⟨"a"⟩, .script (.detach ⟨"a"⟩),
      .script (.attach ⟨"a"⟩), .openDevice ⟨"a"⟩, .closeDevice 1]
    s.camera.isAttached ⟨"a"⟩ = true ∧ s.handles ⟨"a"⟩ = 1 ∧ s.camera.openHandles ⟨"a"⟩ = 0 := by
  decide

/-- A device is detached when its one handle is closed, while a handle of another device is
open, and then opened twice; the handles are closed out of order. -/
theorem handle_count_follows_of_idle_detach :
    let uses : List Use := [.script (.attach ⟨"b"⟩), .openDevice ⟨"b"⟩,
      .script (.setFeature ⟨"a"⟩ "Gain" "1"), .openDevice ⟨"a"⟩, .closeDevice 0,
      .script (.detach ⟨"a"⟩), .openDevice ⟨"a"⟩, .script (.failNextOpens ⟨"a"⟩ 1),
      .openDevice ⟨"a"⟩, .openDevice ⟨"a"⟩, .openDevice ⟨"a"⟩, .closeDevice 1]
    let s := ({} : Holder).run uses
    (∀ n, uses[n]? = some (.script (.detach ⟨"a"⟩)) →
        (({} : Holder).run (uses.take n)).handles ⟨"a"⟩ = 0)
      ∧ s.camera.openHandles ⟨"a"⟩ = s.handles ⟨"a"⟩ ∧ s.handles ⟨"a"⟩ = 1
      ∧ s.camera.calls.opens = 6 := by
  intro uses s
  obtain ⟨hopens, -, -, -, hidle⟩ := handle_count_follows uses
  have hdetach : ∀ n, uses[n]? = some (.script (.detach ⟨"a"⟩)) →
      (({} : Holder).run (uses.take n)).handles ⟨"a"⟩ = 0 := by
    have hbounded : ∀ n < uses.length, uses[n]? = some (.script (.detach ⟨"a"⟩)) →
        (({} : Holder).run (uses.take n)).handles ⟨"a"⟩ = 0 := by decide +kernel
    intro n hn
    exact hbounded n (List.getElem?_eq_some_iff.mp hn).1 hn
  have hwhole : uses.take uses.length = uses := List.take_length
  refine ⟨hdetach, ?_, by decide +kernel, hopens.trans (by decide +kernel)⟩
  have hequal := hidle ⟨"a"⟩ hdetach uses.length
  rw [hwhole] at hequal
  exact hequal

end CameraDriver.SimulatedCamera
