/-
Whatever the vendor's library hands out is lent: a text, an image buffer, a
device. The binding gives a text back before the call returns, and the buffer
of a grab that failed; the buffer of a grab that succeeded goes back with its
frame.

# What is on loan

`Outstanding` ties the ledger to the list of loans that somebody still has to
give back: everything was lent once, and what was lent is what was given back
together with that list. The entries that lend are the only ones that make it
longer, so a call is accounted for once its entries are: each entry point has
one lemma, and each call of the binding chains them. Every answer of the
library is covered, since nothing is asked of the script.
-/
import Mathlib.Data.List.Nodup
import CameraDriver.Hardware.Native

namespace CameraDriver

-- ================================================================= ledger

/-- Something that the library hands out and takes back. -/
inductive Loan where
  | text (block : Nat)
  | image (block : Nat)
  | device (number : Nat)
deriving DecidableEq, Repr

namespace Loan

/-- The loan of a text, if there is one. -/
def texts (text : Option Block) : List Loan := text.toList.map (.text ·.number)

/-- The loan of an image buffer, if there is one. -/
def images (image : Option Block) : List Loan := image.toList.map (.image ·.number)

/-- The loans of devices. -/
def devices (numbers : List Nat) : List Loan := numbers.map .device

end Loan

/-- What an entry of the ledger does with a loan. -/
inductive Dealing where
  | lends (l : Loan)
  | uses (l : Loan)
  | returns (l : Loan)
deriving DecidableEq, Repr

/-- What an entry deals with. An open deals with nothing: the device that it
hands out has an entry of its own. -/
def VendorEvent.dealing? : VendorEvent → Option Dealing
  | .textAllocated n => some (.lends (.text n))
  | .textFreed n => some (.returns (.text n))
  | .imageAllocated n => some (.lends (.image n))
  | .deviceOpened device => some (.lends (.device device.number))
  | .entered (.openDevice _) => none
  | .entered (.getValue n _) => some (.uses (.device n))
  | .entered (.setValue n _ _) => some (.uses (.device n))
  | .entered (.getImage n _) => some (.uses (.device n))
  | .entered (.closeDevice n) => some (.returns (.device n))
  | .entered (.freeImage n) => some (.returns (.image n))

namespace Vendor

/-- What was lent, the latest first. -/
def lent (ledger : List VendorEvent) : List Loan :=
  ledger.filterMap fun e => match e.dealing? with
    | some (.lends l) => some l
    | _ => none

/-- What was given back, the latest first. -/
def returned (ledger : List VendorEvent) : List Loan :=
  ledger.filterMap fun e => match e.dealing? with
    | some (.returns l) => some l
    | _ => none

/-- A loan was made and not given back. -/
def OnLoan (ledger : List VendorEvent) (l : Loan) : Prop := l ∈ lent ledger ∧ l ∉ returned ledger

/-- Every entry that uses a loan or gives it back found it on loan. -/
def Sound : List VendorEvent → Prop
  | [] => True
  | e :: earlier => Sound earlier ∧ match e.dealing? with
      | some (.uses l) | some (.returns l) => OnLoan earlier l
      | _ => True

/-- A loan with a number that was given out. -/
def Knows (v : Vendor) : Loan → Prop
  | .text n | .image n => n < v.blocks
  | .device n => n < v.devices

variable {v v' : Vendor} {e : VendorEvent} {l : Loan} {loans others : List Loan}
  {ledger : List VendorEvent}

theorem lent_cons_of_lends (h : e.dealing? = some (.lends l)) :
    lent (e :: ledger) = l :: lent ledger := by
  simp [lent, h]

theorem lent_cons_of_not (h : ∀ l, e.dealing? ≠ some (.lends l)) :
    lent (e :: ledger) = lent ledger := by
  unfold lent
  rw [List.filterMap_cons_none]
  split
  · exact absurd ‹_› (h _)
  · rfl

theorem returned_cons_of_returns (h : e.dealing? = some (.returns l)) :
    returned (e :: ledger) = l :: returned ledger := by
  simp [returned, h]

theorem returned_cons_of_not (h : ∀ l, e.dealing? ≠ some (.returns l)) :
    returned (e :: ledger) = returned ledger := by
  unfold returned
  rw [List.filterMap_cons_none]
  split
  · exact absurd ‹_› (h _)
  · rfl

-- ======================================================= what is on loan

/-- The loans that are still to be given back, over a sound ledger. -/
structure Outstanding (v : Vendor) (loans : List Loan) : Prop where
  sound : Sound v.ledger
  once : (lent v.ledger).Nodup
  known : ∀ l ∈ lent v.ledger, v.Knows l
  balance : ∀ l, (lent v.ledger).count l = loans.count l + (returned v.ledger).count l

namespace Outstanding

theorem fresh (script : List VendorAnswer) : Outstanding { script } [] where
  sound := trivial
  once := List.nodup_nil
  known := by simp [lent]
  balance := by simp [lent, returned]

/-- The order of the loans does not count. -/
theorem perm (h : v.Outstanding loans) (hp : loans.Perm others) : v.Outstanding others where
  sound := h.sound
  once := h.once
  known := h.known
  balance := fun l => by rw [h.balance l, hp.count_eq]

/-- A loan that is outstanding was made and not given back. -/
theorem onLoan (h : v.Outstanding loans) (hl : l ∈ loans) : OnLoan v.ledger l := by
  have honce := List.nodup_iff_count_le_one.mp h.once l
  have hbalance := h.balance l
  have hpos := List.count_pos_iff.mpr hl
  refine ⟨List.count_pos_iff.mp (by omega), ?_⟩
  rw [← List.count_pos_iff]
  omega

/-- The numbers given out grow, and nothing is written. -/
theorem congr (h : v.Outstanding loans) (hledger : v'.ledger = v.ledger)
    (hknows : ∀ l, v.Knows l → v'.Knows l) : v'.Outstanding loans where
  sound := hledger ▸ h.sound
  once := hledger ▸ h.once
  known := fun l hl => hknows l (h.known l (hledger ▸ hl))
  balance := hledger ▸ h.balance

/-- A loan with a new number is made. -/
theorem lends (h : v.Outstanding loans) (he : e.dealing? = some (.lends l))
    (hledger : v'.ledger = e :: v.ledger) (hnew : ¬ v.Knows l) (hl : v'.Knows l)
    (hknows : ∀ l, v.Knows l → v'.Knows l) : v'.Outstanding (l :: loans) := by
  have hlent : lent v'.ledger = l :: lent v.ledger := by rw [hledger, lent_cons_of_lends he]
  have hreturned : returned v'.ledger = returned v.ledger := by
    rw [hledger, returned_cons_of_not (by simp [he])]
  constructor
  · rw [hledger]
    simp [Sound, he, h.sound]
  · rw [hlent]
    exact List.nodup_cons.mpr ⟨fun hm => hnew (h.known l hm), h.once⟩
  · intro l' hl'
    rw [hlent] at hl'
    rcases List.mem_cons.mp hl' with rfl | hl'
    · exact hl
    · exact hknows l' (h.known l' hl')
  · intro l'
    have hbalance := h.balance l'
    rw [hlent, hreturned, List.count_cons, List.count_cons]
    omega

/-- An entry that lends nothing and gives nothing back. -/
theorem passes (h : v.Outstanding loans)
    (he : e.dealing? = none ∨ ∃ l ∈ loans, e.dealing? = some (.uses l)) :
    (v.note e).Outstanding loans := by
  have hlent : lent (v.note e).ledger = lent v.ledger := by
    refine lent_cons_of_not ?_
    rcases he with he | ⟨l, -, he⟩ <;> simp [he]
  have hreturned : returned (v.note e).ledger = returned v.ledger := by
    refine returned_cons_of_not ?_
    rcases he with he | ⟨l, -, he⟩ <;> simp [he]
  refine ⟨⟨h.sound, ?_⟩, hlent ▸ h.once, hlent ▸ h.known, ?_⟩
  · rcases he with he | ⟨l, hl, he⟩
    · simp [he]
    · simpa [he] using h.onLoan hl
  · rw [hlent, hreturned]
    exact h.balance

/-- A loan is given back. -/
theorem returns (h : v.Outstanding (l :: loans)) (he : e.dealing? = some (.returns l)) :
    (v.note e).Outstanding loans := by
  have hlent : lent (v.note e).ledger = lent v.ledger := lent_cons_of_not (by simp [he])
  have hreturned : returned (v.note e).ledger = l :: returned v.ledger :=
    returned_cons_of_returns he
  refine ⟨⟨h.sound, ?_⟩, hlent ▸ h.once, hlent ▸ h.known, ?_⟩
  · simpa [he] using h.onLoan List.mem_cons_self
  · intro l'
    have hbalance := h.balance l'
    rw [List.count_cons] at hbalance
    rw [hlent, hreturned, List.count_cons]
    omega

-- ============================================================ entry points

/-- A call enters that gives nothing back. -/
theorem enter (h : v.Outstanding loans) (call : VendorCall)
    (hcall : (VendorEvent.entered call).dealing? = none
      ∨ ∃ l ∈ loans, (VendorEvent.entered call).dealing? = some (.uses l)) :
    (v.enter call).2.Outstanding loans :=
  (h.passes hcall).congr rfl fun _ hl => hl

/-- A text that is handed out is outstanding. -/
theorem allocateText (h : v.Outstanding loans) (text : Option Bytes) :
    (v.allocateText text).2.Outstanding (Loan.texts (v.allocateText text).1 ++ loans) := by
  cases text with
  | none => exact h
  | some content =>
    refine h.lends rfl rfl (Nat.lt_irrefl _) (Nat.lt_succ_self _) ?_
    rintro (n | n | n) hn
    · exact Nat.lt_succ_of_lt hn
    · exact Nat.lt_succ_of_lt hn
    · exact hn

/-- An image that is handed out is outstanding. -/
theorem allocateImage (h : v.Outstanding loans) (image : Option Bytes) :
    (v.allocateImage image).2.Outstanding (Loan.images (v.allocateImage image).1 ++ loans) := by
  cases image with
  | none => exact h
  | some content =>
    refine h.lends rfl rfl (Nat.lt_irrefl _) (Nat.lt_succ_self _) ?_
    rintro (n | n | n) hn
    · exact Nat.lt_succ_of_lt hn
    · exact Nat.lt_succ_of_lt hn
    · exact hn

/-- A device that is handed over is outstanding. -/
theorem handOver (h : v.Outstanding loans) (serial : String) (a : VendorAnswer) :
    (v.handOver serial a).2.Outstanding
      (Loan.devices (v.handOver serial a).1.toList ++ loans) := by
  unfold Vendor.handOver
  split
  · refine h.lends rfl rfl (Nat.lt_irrefl _) (Nat.lt_succ_self _) ?_
    rintro (n | n | n) hn
    · exact hn
    · exact hn
    · exact Nat.lt_succ_of_lt hn
  · exact h

end Outstanding

end Vendor

namespace Native

open Vendor

/-- The loan of a frame, if it has a buffer. -/
def Frame.loans (f : Frame) : List Loan := Loan.images f.image

variable {v : Vendor} {loans : List Loan} {device : Nat}

-- ================================================================== calls

/-- A text of the library is given back when it was read. -/
theorem takeText_outstanding {text : Option Block} (h : v.Outstanding (Loan.texts text ++ loans)) :
    (takeText v text).2.Outstanding loans := by
  cases text with
  | none => exact h
  | some block => exact h.returns rfl

/-- A buffer is given back with its frame. -/
theorem freeImage_outstanding {f : Frame} (h : v.Outstanding (f.loans ++ loans)) :
    (freeImage f v).Outstanding loans := by
  obtain ⟨image, size⟩ := f
  cases image with
  | none => exact h
  | some block => exact h.returns rfl

/-- A device that is closed is not outstanding any more. -/
theorem closeDevice_outstanding (h : v.Outstanding (.device device :: loans)) :
    (closeDevice device v).Outstanding loans :=
  (h.returns rfl).congr rfl fun _ hl => hl

/-- An open leaves the device on loan that the library handed out. It is the
one that the caller gets, if the caller gets one. -/
theorem openDevice_outstanding (h : v.Outstanding loans) (id : DeviceId) :
    ∃ handed : Option Nat,
      (openDevice id v).2.Outstanding (Loan.devices handed.toList ++ loans)
        ∧ ∀ device, (openDevice id v).1 = .ok device → handed = some device := by
  unfold openDevice
  cases passable "device serial number" id.text with
  | error e => exact ⟨none, h, fun _ hd => by cases hd⟩
  | ok serial =>
    have hentered := h.enter (.openDevice serial) (.inl rfl)
    have hhanded := hentered.handOver serial (v.enter (.openDevice serial)).1
    have htaken := takeText_outstanding
      (hhanded.allocateText (v.enter (.openDevice serial)).1.error)
    refine ⟨(v.openDevice serial).2.1, ?_, ?_⟩
    · dsimp only
      split <;> exact htaken
    · intro device
      dsimp only
      split
      · split
        · intro hd
          cases hd
          assumption
        · intro hd
          cases hd
      · intro hd
        cases hd

/-- A read gives back what it got. -/
theorem readFeature_outstanding (h : v.Outstanding loans) (hd : .device device ∈ loans)
    (feature : String) : (readFeature device feature v).2.Outstanding loans := by
  unfold readFeature
  cases passable "feature name" feature with
  | error e => exact h
  | ok feature =>
    have hentered := h.enter (.getValue device feature) (.inr ⟨_, hd, rfl⟩)
    have hvalue := hentered.allocateText (v.enter (.getValue device feature)).1.out
    have herror := hvalue.allocateText (v.enter (.getValue device feature)).1.error
    refine takeText_outstanding (takeText_outstanding (herror.perm ?_))
    exact List.perm_append_comm_assoc _ _ _

/-- A write gives back what it got. -/
theorem writeFeature_outstanding (h : v.Outstanding loans) (hd : .device device ∈ loans)
    (feature value : String) : (writeFeature device feature value v).2.Outstanding loans := by
  unfold writeFeature
  split
  · exact h
  · exact h
  · rename_i feature value _ _
    have hentered := h.enter (.setValue device feature value) (.inr ⟨_, hd, rfl⟩)
    exact takeText_outstanding
      (hentered.allocateText (v.enter (.setValue device feature value)).1.error)

/-- A grab leaves the buffer of the frame on loan that the caller gets, and
none if the caller gets none. -/
theorem grabImage_outstanding (h : v.Outstanding loans) (hd : .device device ∈ loans)
    (format : String) :
    (grabImage device format v).2.Outstanding
      ((grabImage device format v).1.toOption.toList.flatMap Frame.loans ++ loans) := by
  unfold grabImage
  cases passable "image format" format with
  | error e => exact h
  | ok format =>
    have hentered := h.enter (.getImage device format) (.inr ⟨_, hd, rfl⟩)
    have himage := hentered.allocateImage (v.enter (.getImage device format)).1.out
    have herror := himage.allocateText (v.enter (.getImage device format)).1.error
    have htaken := takeText_outstanding herror
    dsimp only
    split
    · simp only [Except.toOption, Option.toList_some, List.flatMap_cons, List.flatMap_nil,
        List.append_nil]
      exact htaken
    · exact freeImage_outstanding htaken

end Native

end CameraDriver
