/-
Calls on the binding of the vendor's library give back what the library lent,
each text and each image buffer once.

# The caller

Whoever makes the calls holds devices and frames. It passes each on to be
closed or given back once, and uses a device only while it holds it; other
uses are not made. A step lemma says what one use leaves on loan
(`Accounted.make`), and by induction all that is on loan is what the caller
holds, apart from devices that an open handed out and then reported a failure
for. In particular no text is on loan between two calls.
-/
import CameraDriver.Proofs.Hardware.Codes
import CameraDriver.Proofs.Hardware.Loans

namespace CameraDriver.Native

open Vendor

/-- One use of the binding. -/
inductive Use where
  | openDevice (id : DeviceId)
  | readFeature (device : Nat) (feature : String)
  | writeFeature (device : Nat) (feature value : String)
  | grabImage (device : Nat) (format : String)
  | closeDevice (device : Nat)
  | freeImage (frame : Frame)
deriving DecidableEq

/-- The call that a use enters the library with. There is none for a text that
holds a NUL byte, and none for a frame without a buffer. -/
def Use.call? : Use → Option VendorCall
  | .openDevice id => if HoldsNul id.text then none else some (.openDevice id.text)
  | .readFeature device feature =>
      if HoldsNul feature then none else some (.getValue device feature)
  | .writeFeature device feature value =>
      if HoldsNul feature ∨ HoldsNul value then none else some (.setValue device feature value)
  | .grabImage device format =>
      if HoldsNul format then none else some (.getImage device format)
  | .closeDevice device => some (.closeDevice device)
  | .freeImage frame => frame.image.map (.freeImage ·.number)

/-- Whoever uses the binding, with the devices and the frames that it got and
has not passed on. -/
structure Caller where
  vendor : Vendor
  devices : List Nat := []
  frames : List Frame := []

namespace Caller

/-- A use is made on a device or a frame that the caller has. -/
def Holds (c : Caller) : Use → Prop
  | .openDevice _ => True
  | .readFeature device _ | .writeFeature device _ _ | .grabImage device _
  | .closeDevice device => device ∈ c.devices
  | .freeImage frame => frame ∈ c.frames

instance (c : Caller) : DecidablePred c.Holds
  | .openDevice _ => inferInstanceAs (Decidable True)
  | .readFeature device _ | .writeFeature device _ _ | .grabImage device _
  | .closeDevice device => inferInstanceAs (Decidable (device ∈ c.devices))
  | .freeImage frame => inferInstanceAs (Decidable (frame ∈ c.frames))

/-- Makes a use. A device that was opened and a frame that was grabbed are
kept, a device that is closed and a frame that is given back are passed on. -/
def make (c : Caller) : Use → Caller
  | .openDevice id =>
      let (result, vendor) := Native.openDevice id c.vendor
      { c with vendor, devices := result.toOption.toList ++ c.devices }
  | .readFeature device feature => { c with vendor := (readFeature device feature c.vendor).2 }
  | .writeFeature device feature value =>
      { c with vendor := (writeFeature device feature value c.vendor).2 }
  | .grabImage device format =>
      let (result, vendor) := Native.grabImage device format c.vendor
      { c with vendor, frames := result.toOption.toList ++ c.frames }
  | .closeDevice device =>
      { c with vendor := Native.closeDevice device c.vendor, devices := c.devices.erase device }
  | .freeImage frame =>
      { c with vendor := Native.freeImage frame c.vendor, frames := c.frames.erase frame }

/-- Makes a use that can be made. -/
def use (c : Caller) (u : Use) : Caller := if c.Holds u then c.make u else c

/-- Makes uses one after the other. -/
def run (c : Caller) (uses : List Use) : Caller := uses.foldl use c

/-- What the caller has to give back. -/
def loans (c : Caller) : List Loan := Loan.devices c.devices ++ c.frames.flatMap Frame.loans

/-- The caller has to give back all that is on loan, but for devices that it
never got. -/
def Accounted (c : Caller) : Prop :=
  ∃ lost : List Nat, c.vendor.Outstanding (Loan.devices lost ++ c.loans)

variable {c : Caller}

/-- At first nothing is on loan. -/
theorem fresh_accounted (script : List VendorAnswer) :
    Accounted { vendor := { script } } :=
  ⟨[], Outstanding.fresh script⟩

theorem mem_loans_of_device {device : Nat} (hd : device ∈ c.devices) (lost : List Loan) :
    .device device ∈ lost ++ c.loans :=
  List.mem_append_right _ (List.mem_append_left _ (List.mem_map_of_mem hd))

/-- What one use leaves on loan. -/
theorem Accounted.make (h : c.Accounted) {u : Use} (hu : c.Holds u) : (c.make u).Accounted := by
  obtain ⟨lost, hout⟩ := h
  cases u with
  | openDevice id =>
    obtain ⟨handed, hhanded, hgot⟩ := openDevice_outstanding hout id
    cases hr : (Native.openDevice id c.vendor).1 with
    | error e =>
      refine ⟨handed.toList ++ lost, ?_⟩
      simpa [Caller.make, loans, hr, Except.toOption, Loan.devices] using hhanded
    | ok device =>
      rw [hgot device hr] at hhanded
      refine ⟨lost, hhanded.perm ?_⟩
      simpa [Caller.make, loans, hr, Except.toOption, Loan.devices] using List.perm_middle.symm
  | readFeature device feature =>
    exact ⟨lost, readFeature_outstanding hout (mem_loans_of_device hu _) feature⟩
  | writeFeature device feature value =>
    exact ⟨lost, writeFeature_outstanding hout (mem_loans_of_device hu _) feature value⟩
  | grabImage device format =>
    refine ⟨lost, (grabImage_outstanding hout (mem_loans_of_device hu _) format).perm ?_⟩
    refine List.perm_iff_count.mpr ?_
    intro l
    simp only [Caller.make, loans, List.flatMap_append, List.count_append]
    omega
  | closeDevice device =>
    refine ⟨lost, closeDevice_outstanding (hout.perm ?_)⟩
    have hp := (List.perm_cons_erase hu).map Loan.device
    refine List.perm_iff_count.mpr ?_
    intro l
    have hcount := hp.count_eq l
    simp only [Caller.make, loans, Loan.devices, List.map_cons, List.count_append,
      List.count_cons] at hcount ⊢
    omega
  | freeImage frame =>
    refine ⟨lost, freeImage_outstanding (hout.perm ?_)⟩
    have hp := (List.perm_cons_erase hu).flatMap_right Frame.loans
    refine List.perm_iff_count.mpr ?_
    intro l
    have hcount := hp.count_eq l
    simp only [Caller.make, loans, List.flatMap_cons, List.count_append] at hcount ⊢
    omega

/-- Every use leaves the loans accounted for. -/
theorem Accounted.use (h : c.Accounted) (u : Use) : (c.use u).Accounted := by
  unfold Caller.use
  split
  · exact h.make ‹_›
  · exact h

/-- A list of uses leaves the loans accounted for. -/
theorem Accounted.run (h : c.Accounted) (uses : List Use) : (c.run uses).Accounted := by
  induction uses generalizing c with
  | nil => exact h
  | cons u uses ih => exact ih (h.use u)

-- =========================================================== what is called

/-- A use that can be made enters the library with its call, or not at all. -/
theorem make_entered (c : Caller) (u : Use) : match u.call? with
    | none => (c.make u).vendor = c.vendor
    | some call => c.vendor.Entered call (c.make u).vendor := by
  cases u with
  | openDevice id =>
    by_cases h : HoldsNul id.text
    · simp only [Use.call?, if_pos h, Caller.make, openDevice_of_nul _ h]
    · simp only [Use.call?, if_neg h]
      exact (openDevice_of_bare _ h).1
  | readFeature device feature =>
    by_cases h : HoldsNul feature
    · simp only [Use.call?, if_pos h, Caller.make, readFeature_of_nul _ _ h]
    · simp only [Use.call?, if_neg h]
      exact (readFeature_of_bare _ _ h).1
  | writeFeature device feature value =>
    by_cases h : HoldsNul feature ∨ HoldsNul value
    · obtain ⟨what, hfailed⟩ := writeFeature_of_nul c.vendor device h
      simp only [Use.call?, if_pos h, Caller.make, hfailed]
    · simp only [Use.call?, if_neg h]
      exact (writeFeature_of_bare _ _ (fun hf => h (.inl hf)) (fun hv => h (.inr hv))).1
  | grabImage device format =>
    by_cases h : HoldsNul format
    · simp only [Use.call?, if_pos h, Caller.make, grabImage_of_nul _ _ h]
    · simp only [Use.call?, if_neg h]
      exact (grabImage_of_bare _ _ h).1
  | closeDevice device => exact Entered.enter _ _
  | freeImage frame =>
    obtain ⟨image, size⟩ := frame
    cases image with
    | none => rfl
    | some block => exact ⟨[], rfl, fun _ hc => by cases hc⟩

-- =========================================================== what comes back

/-- The ledger between two calls. Nothing is lent or given back twice, and
what is used or given back is on loan then. Every text is back; an image
buffer is back, or a frame that the caller has holds it. -/
structure Settled (c : Caller) : Prop where
  sound : Sound c.vendor.ledger
  lentOnce : (lent c.vendor.ledger).Nodup
  returnedOnce : (returned c.vendor.ledger).Nodup
  texts : ∀ n, .text n ∈ lent c.vendor.ledger → (returned c.vendor.ledger).count (.text n) = 1
  images : ∀ n, .image n ∈ lent c.vendor.ledger →
    (returned c.vendor.ledger).count (.image n)
      + (c.frames.flatMap Frame.loans).count (.image n) = 1

/-- A loan of a text or an image is not one of a device. -/
theorem count_devices {l : Loan} (hl : ∀ n, l ≠ .device n) (numbers : List Nat) :
    (Loan.devices numbers).count l = 0 := by
  refine List.count_eq_zero.mpr ?_
  intro hm
  obtain ⟨n, -, rfl⟩ := List.mem_map.mp hm
  exact hl n rfl

/-- No frame holds a text. -/
theorem count_frames_text (frames : List Frame) (n : Nat) :
    (frames.flatMap Frame.loans).count (.text n) = 0 := by
  refine List.count_eq_zero.mpr ?_
  intro hm
  obtain ⟨f, -, hf⟩ := List.mem_flatMap.mp hm
  obtain ⟨block, -, hblock⟩ := List.mem_map.mp hf
  cases hblock

/-- When the loans are accounted for, the ledger is settled. -/
theorem Accounted.settled (h : c.Accounted) : c.Settled := by
  obtain ⟨lost, hout⟩ := h
  have hlent : ∀ l, (lent c.vendor.ledger).count l ≤ 1 := List.nodup_iff_count_le_one.mp hout.once
  have hmem : ∀ l ∈ lent c.vendor.ledger, (∀ n, l ≠ .device n) →
      (returned c.vendor.ledger).count l + (c.frames.flatMap Frame.loans).count l = 1 := by
    intro l hl hdevice
    have hpos := List.count_pos_iff.mpr hl
    have hbalance := hout.balance l
    simp only [loans, List.count_append, count_devices hdevice] at hbalance
    have := hlent l
    omega
  refine ⟨hout.sound, hout.once, ?_, ?_, ?_⟩
  · refine List.nodup_iff_count_le_one.mpr ?_
    intro l
    have hbalance := hout.balance l
    have := hlent l
    omega
  · intro n hn
    have hcount := hmem _ hn fun _ hd => by cases hd
    rw [count_frames_text] at hcount
    exact hcount
  · intro n hn
    exact hmem _ hn fun _ hd => by cases hd

/-- What a use does to the library: it enters with the call of the use and
nothing else but what tidies up, or the library is not asked at all. -/
def Asks (c : Caller) (u : Use) : Prop :=
  match u.call? with
  | none => (c.use u).vendor = c.vendor
  | some call => c.vendor.Entered call (c.use u).vendor

/-- What a grab leaves to the caller: a frame with the buffer that the library
handed out, if it handed out one, or nothing if it failed. -/
def Keeps (c : Caller) (grab : Use) : Prop :=
  (c.vendor.next.code = 0 ∧ ∃ frame : Frame,
    (c.use grab).frames = frame :: c.frames ∧ frame.image.isSome = c.vendor.next.out.isSome)
  ∨ (c.vendor.next.code ≠ 0 ∧ (c.use grab).frames = c.frames)

/-- Whatever the library answers, and whatever is called on what it handed
out: every text is freed once, before the call returns; every image buffer is
given back once, before the call returns if the grab failed and with its frame
otherwise; nothing else is given back. A text with a NUL byte, and a frame
without a buffer, leave the library unasked. -/
theorem run_gives_back (script : List VendorAnswer) (uses : List Use) :
    let c := Caller.run { vendor := { script } } uses
    c.Settled
      ∧ (∀ u, c.Holds u → c.Asks u)
      ∧ (∀ device format, c.Holds (.grabImage device format) → ¬ HoldsNul format →
          c.Keeps (.grabImage device format))
      ∧ (∀ frame, c.Holds (.freeImage frame) →
          (c.use (.freeImage frame)).frames = c.frames.erase frame) := by
  intro c
  refine ⟨((fresh_accounted script).run uses).settled, ?_, ?_, ?_⟩
  · -- a use of what is held enters the library once, or not at all
    intro u hu
    unfold Asks use
    rw [if_pos hu]
    exact make_entered c u
  · -- a grab whose format has no NUL byte
    intro device format hd hformat
    obtain ⟨-, frame, message, hresult, hbuffer⟩ :=
      grabImage_of_bare c.vendor device hformat
    unfold Keeps use
    rw [if_pos hd]
    simp only [Caller.make, hresult]
    by_cases hcode : c.vendor.next.code = 0
    · -- code 0: the frame keeps the buffer that was handed out
      refine .inl ⟨hcode, frame, ?_, hbuffer⟩
      rw [if_pos hcode]
      rfl
    · -- any other code: no frame is left
      refine .inr ⟨hcode, ?_⟩
      rw [if_neg hcode]
      rfl
  · -- a frame goes with its buffer
    intro frame hf
    unfold use
    rw [if_pos hf]
    rfl

end Caller

end CameraDriver.Native
