/-
The devices in the vendor's ledger and the connections in the driver's calls.

A device gets its number when the library hands it out; a connection gets one
when an open succeeds. The `DeviceBook` is what the ledger says of devices, and
`Booked` relates it to calls, in their order: the devices handed out with the
code 0 are the handles that opens gave, and the devices closed are the handles
that closes passed. A device that was handed out with another code is in no
call. So what is known of connections, such as that a close comes once, is
known of those devices, as their handles tell connections apart
(`count_closed`).
-/
import Mathlib.Data.List.Nodup
import Mathlib.Data.List.Range
import CameraDriver.Proofs.Device.Calls
import CameraDriver.Proofs.General
import CameraDriver.Proofs.Hardware.Codes

namespace CameraDriver

-- =================================================================== book

/-- What the ledger of the library says of devices, the latest first. -/
structure DeviceBook where
  /-- The devices that opens handed out. -/
  handed : List OpenedDevice := []
  /-- The devices that were passed to be closed. -/
  closed : List Nat := []
  /-- The number of the next device. -/
  next : Nat := 0

namespace VendorEvent

/-- The device that was handed out. -/
def handed? : VendorEvent → Option OpenedDevice
  | .deviceOpened device => some device
  | _ => none

/-- The device that was passed to be closed. -/
def closed? : VendorEvent → Option Nat
  | .entered (.closeDevice n) => some n
  | _ => none

end VendorEvent

namespace Vendor

/-- The book of the library's devices. -/
def book (v : Vendor) : DeviceBook where
  handed := v.ledger.filterMap VendorEvent.handed?
  closed := v.ledger.filterMap VendorEvent.closed?
  next := v.devices

@[simp] theorem book_allocateText (v : Vendor) (text : Option Bytes) :
    (v.allocateText text).2.book = v.book := by
  cases text with
  | none => rfl
  | some content => rfl

@[simp] theorem book_allocateImage (v : Vendor) (image : Option Bytes) :
    (v.allocateImage image).2.book = v.book := by
  cases image with
  | none => rfl
  | some content => rfl

@[simp] theorem book_takeText (v : Vendor) (text : Option Block) :
    (Native.takeText v text).2.book = v.book := by
  cases text with
  | none => rfl
  | some block => rfl

@[simp] theorem book_freeImage (f : Native.Frame) (v : Vendor) :
    (Native.freeImage f v).book = v.book := by
  obtain ⟨image, size⟩ := f
  cases image with
  | none => rfl
  | some block => rfl

theorem book_getValue (v : Vendor) (device : Nat) (feature : String) :
    (v.getValue device feature).2.2.2.book = v.book :=
  (book_allocateText _ _).trans (book_allocateText _ _)

theorem book_setValue (v : Vendor) (device : Nat) (feature value : String) :
    (v.setValue device feature value).2.2.book = v.book :=
  book_allocateText _ _

theorem book_getImage (v : Vendor) (device : Nat) (format : String) :
    (v.getImage device format).2.2.2.2.book = v.book :=
  (book_allocateText _ _).trans (book_allocateImage _ _)

/-- A device that is handed over is entered with its serial number and the code. -/
theorem book_handOver (v : Vendor) (serial : String) (a : VendorAnswer) :
    (v.handOver serial a).2.book =
      if a.device = true then
        { v.book with
          handed := ⟨v.devices, serial, a.code⟩ :: v.book.handed, next := v.devices + 1 }
      else v.book := by
  unfold handOver
  split <;> rfl

/-- An open writes down the device that it hands out. -/
theorem book_openDevice (v : Vendor) (serial : String) :
    (v.openDevice serial).2.2.2.book =
      if v.next.device = true then
        { v.book with
          handed := ⟨v.devices, serial, v.next.code⟩ :: v.book.handed, next := v.devices + 1 }
      else v.book :=
  (book_allocateText _ _).trans (book_handOver _ serial v.next)

end Vendor

namespace Native

open Vendor

/-- An open enters the device that the library hands over, whatever its code is. -/
theorem book_openDevice (id : DeviceId) (v : Vendor) :
    (openDevice id v).2.book =
      if v.next.device = true ∧ ¬ HoldsNul id.text then
        { v.book with
          handed := ⟨v.devices, id.text, v.next.code⟩ :: v.book.handed, next := v.devices + 1 }
      else v.book := by
  by_cases h : HoldsNul id.text
  · rw [openDevice_of_nul v h, if_neg fun hn => hn.2 h]
  · simp only [h, not_false_eq_true, and_true]
    rw [← Vendor.book_openDevice]
    unfold openDevice
    rw [passable_of_bare h]
    dsimp only
    split <;> exact book_takeText _ _

/-- A read leaves the book of devices alone. -/
theorem book_readFeature (device : Nat) (feature : String) (v : Vendor) :
    (readFeature device feature v).2.book = v.book := by
  unfold readFeature
  split
  · rfl
  · simp [book_getValue]

/-- A write leaves the book of devices alone. -/
theorem book_writeFeature (device : Nat) (feature value : String) (v : Vendor) :
    (writeFeature device feature value v).2.book = v.book := by
  unfold writeFeature
  split
  · rfl
  · rfl
  · simp [book_setValue]

/-- A grab leaves the book of devices alone. -/
theorem book_grabImage (device : Nat) (format : String) (v : Vendor) :
    (grabImage device format v).2.book = v.book := by
  unfold grabImage
  split
  · rfl
  · dsimp only
    split <;> simp [book_getImage]

/-- A close enters the device as taken back. -/
theorem book_closeDevice (device : Nat) (v : Vendor) :
    (closeDevice device v).book = { v.book with closed := device :: v.book.closed } := rfl

end Native

-- ================================================================== calls

namespace Call

variable {H : Type}

/-- The handles of the calls of some kind. -/
def handles (kind : Event → Option Nat) (calls : List (Call H)) : List H :=
  calls.filterMap fun x => (kind x.event).bind fun _ => x.handle

variable {calls : List (Call H)} {id : DeviceId} {c : Connection H}

/-- A handle that one open gave is closed as often as its connection. -/
theorem Sound.count_closed [DecidableEq H] (h : Sound calls) (htickets : (opens calls).Nodup)
    (hhandles : (handles Event.opened? calls).Nodup) (hc : .opened id c ∈ calls) :
    (handles Event.closed? calls).count c.handle = (closes calls).count (id, c.number) := by
  unfold handles closes tickets
  rw [List.count_filterMap, List.count_filterMap]
  refine List.countP_congr ?_
  intro x hx
  cases hn : x.event.closed? with
  | none => simp
  | some n =>
    have hon : x.event.on? = some n := by rw [Event.eq_closed hn]; rfl
    obtain ⟨handle, hh, ho⟩ := h.opened_of_mem hx hon
    simp only [hh, Option.bind_some, Option.map_some, beq_iff_eq, Option.some.injEq]
    constructor
    · -- the handle tells the open, and so the connection
      rintro rfl
      have heq := eq_of_filterMap_nodup hhandles ho hc rfl rfl
      simp only [opened, Call.mk.injEq, Event.opened.injEq, Except.ok.injEq] at heq
      rw [heq.1, heq.2.1]
    · -- the connection tells the open, and so the handle
      intro heq
      have heq := eq_of_filterMap_nodup htickets ho hc (b := (x.device, n)) rfl (by rw [heq]; rfl)
      simp only [opened, Call.mk.injEq, Option.some.injEq] at heq
      exact heq.2.2

end Call

/-- The calls account for the book. -/
structure Booked (calls : List (Call Nat)) (b : DeviceBook) : Prop where
  numbers : b.handed.map (·.number) = (List.range b.next).reverse
  opened : (b.handed.filter (·.code = 0)).map (·.number) = Call.handles Event.opened? calls
  serial : ∀ device ∈ b.handed, device.code = 0 →
    ∃ id number, id.text = device.serial ∧ .opened id ⟨number, device.number⟩ ∈ calls
  closed : b.closed = Call.handles Event.closed? calls

namespace Booked

open Native

variable {calls : List (Call Nat)} {b : DeviceBook} {v : Vendor}

/-- At first no device is handed over, and no call was made. -/
theorem nil : Booked [] {} where
  numbers := rfl
  opened := rfl
  serial := fun _ hd => by cases hd
  closed := rfl

/-- A call that neither opens nor closes. -/
theorem other (h : Booked calls b) {x : Call Nat} (ho : x.event.opened? = none)
    (hc : x.event.closed? = none) : Booked (x :: calls) b where
  numbers := h.numbers
  opened := by
    rw [h.opened]
    simp [Call.handles, ho]
  serial := by
    intro device hd hcode
    obtain ⟨id, number, hid, hm⟩ := h.serial device hd hcode
    exact ⟨id, number, hid, List.mem_cons_of_mem _ hm⟩
  closed := by
    rw [h.closed]
    simp [Call.handles, hc]

/-- A device is handed out by an open that fails. -/
theorem rejected (h : Booked calls b) (serial : String) {code : Int} (hcode : code ≠ 0) :
    Booked calls
      { b with handed := ⟨b.next, serial, code⟩ :: b.handed, next := b.next + 1 } where
  numbers := by simp [h.numbers, List.range_succ]
  opened := by simp [h.opened, hcode]
  serial := by
    intro device hd hzero
    rcases List.mem_cons.mp hd with rfl | hd
    · exact absurd hzero hcode
    · exact h.serial device hd hzero
  closed := h.closed

/-- A device is handed out by an open that succeeds. -/
theorem accepted (h : Booked calls b) (id : DeviceId) (number : Nat) :
    Booked (.opened id ⟨number, b.next⟩ :: calls)
      { b with handed := ⟨b.next, id.text, 0⟩ :: b.handed, next := b.next + 1 } where
  numbers := by simp [h.numbers, List.range_succ]
  opened := by simp [h.opened, Call.handles, Call.opened, Event.opened?]
  serial := by
    intro device hd hzero
    rcases List.mem_cons.mp hd with rfl | hd
    · exact ⟨id, number, rfl, List.mem_cons_self⟩
    · obtain ⟨id', number', hid, hm⟩ := h.serial device hd hzero
      exact ⟨id', number', hid, List.mem_cons_of_mem _ hm⟩
  closed := h.closed

/-- An open that succeeds is booked as accepted. -/
theorem openDevice (h : Booked calls v.book) {id : DeviceId} {device : Nat} (number : Nat)
    (hr : (Native.openDevice id v).1 = .ok device) :
    Booked (.opened id ⟨number, device⟩ :: calls) (Native.openDevice id v).2.book := by
  obtain ⟨hbare, hcode, hdevice, rfl⟩ := openDevice_eq_ok.mp hr
  rw [book_openDevice, if_pos ⟨hdevice, hbare⟩, hcode]
  exact h.accepted id number

/-- An open that fails is booked as rejected, if it was booked at all. -/
theorem refuseDevice (h : Booked calls v.book) {id : DeviceId} {e : HardwareError}
    (hr : (Native.openDevice id v).1 = .error e) :
    Booked ({ device := id, event := .opened (.error e) } :: calls)
      (Native.openDevice id v).2.book := by
  rw [book_openDevice]
  split
  · rename_i hdevice
    refine (h.rejected id.text ?_).other rfl rfl
    intro hcode
    have hok := openDevice_eq_ok.mpr ⟨hdevice.2, hcode, hdevice.1, rfl⟩
    rw [hr] at hok
    cases hok
  · exact h.other rfl rfl

/-- A close is booked. -/
theorem closeDevice (h : Booked calls v.book) (id : DeviceId) (c : Connection Nat) :
    Booked (.closed id c :: calls) (Native.closeDevice c.handle v).book where
  numbers := h.numbers
  opened := h.opened
  serial := by
    intro device hd hcode
    obtain ⟨id', number, hid, hm⟩ := h.serial device hd hcode
    exact ⟨id', number, hid, List.mem_cons_of_mem _ hm⟩
  closed := by simp [book_closeDevice, h.closed, Call.handles, Call.closed, Event.closed?]

/-- No two devices have the same number. -/
theorem numbers_nodup (h : Booked calls b) : (b.handed.map (·.number)).Nodup := by
  rw [h.numbers, List.nodup_reverse]
  exact List.nodup_range

/-- No two opens gave the same handle. -/
theorem handles_nodup (h : Booked calls b) : (Call.handles Event.opened? calls).Nodup := by
  rw [← h.opened]
  exact h.numbers_nodup.sublist (List.filter_sublist.map _)

/-- A device that was closed was handed out by an open that succeeded. -/
theorem accepted_of_closed (h : Booked calls b) (hs : Call.Sound calls) {n : Nat}
    (hn : n ∈ b.closed) : ∃ device ∈ b.handed, device.number = n ∧ device.code = 0 := by
  rw [h.closed] at hn
  obtain ⟨x, hx, hxn⟩ := List.mem_filterMap.mp hn
  obtain ⟨m, hm, hhandle⟩ := Option.bind_eq_some_iff.mp hxn
  obtain ⟨handle, hh, ho⟩ := hs.opened_of_mem hx (by rw [Event.eq_closed hm]; rfl)
  rw [hh, Option.some.injEq] at hhandle
  have hgiven : n ∈ Call.handles Event.opened? calls :=
    List.mem_filterMap.mpr ⟨_, ho, congrArg some hhandle⟩
  rw [← h.opened] at hgiven
  obtain ⟨device, hd, hnumber⟩ := List.mem_map.mp hgiven
  exact ⟨device, (List.mem_filter.mp hd).1, hnumber, of_decide_eq_true (List.mem_filter.mp hd).2⟩

/-- A device that a failed open handed out is not closed. -/
theorem not_closed_of_rejected (h : Booked calls b) (hs : Call.Sound calls)
    {device : OpenedDevice} (hd : device ∈ b.handed) (hcode : device.code ≠ 0) :
    device.number ∉ b.closed := by
  intro hm
  obtain ⟨other, ho, hnumber, hzero⟩ := h.accepted_of_closed hs hm
  rw [List.inj_on_of_nodup_map h.numbers_nodup ho hd hnumber] at hzero
  exact hcode hzero

end Booked

/-- What the camera was asked accounts for the devices of the library. -/
theorem Served.booked {start v : Vendor} {calls : List (Call Nat)} (h : Served start calls v)
    (hstart : start.book = {}) : Booked calls v.book := by
  induction h with
  | nothing =>
    rw [hstart]
    exact .nil
  | opened id c _ hr ih => exact ih.openDevice c.number hr
  | refused id e _ hr ih => exact ih.refuseDevice hr
  | read id c feature _ ih =>
    refine Booked.other ?_ rfl rfl
    exact (Native.book_readFeature c.handle feature _).symm ▸ ih
  | written id c feature value _ ih =>
    refine Booked.other ?_ rfl rfl
    exact (Native.book_writeFeature c.handle feature value _).symm ▸ ih
  | grabbed id c format _ ih =>
    refine Booked.other ?_ rfl rfl
    exact (Native.book_grabImage c.handle format _).symm ▸ ih
  | freed id frame _ ih =>
    refine Booked.other ?_ rfl rfl
    exact (Vendor.book_freeImage frame _).symm ▸ ih
  | closed id c _ ih => exact ih.closeDevice id c
  | posted id request _ ih => exact ih.other rfl rfl

end CameraDriver
