/-
The vendor's camera library as the driver sees it: six entry points that
answer as they please, and a ledger of what crossed the border.

# Memory

A call may hand out a text (a value or an error message), which the caller
has to free, an image buffer, which goes back through the library's own
entry point, and a device. Each is a block with a number of its own; the
ledger tells when a block was handed out and when it came back.
-/
import CameraDriver.Text.Utf8

namespace CameraDriver

/-- What the library answers a call with. -/
structure VendorAnswer where
  code : Int := 0
  /-- The value text or the image, if the call hands one out. -/
  out : Option Bytes := none
  /-- The image size reported; the length of `out` if none is given. -/
  size : Option Int := none
  /-- The error message, if there is one. -/
  error : Option Bytes := none
  /-- Whether an open hands out a device. -/
  device : Bool := true
deriving DecidableEq, Repr

/-- A call that entered the library. -/
inductive VendorCall where
  | openDevice (serial : String)
  | getValue (device : Nat) (feature : String)
  | setValue (device : Nat) (feature value : String)
  | getImage (device : Nat) (format : String)
  | closeDevice (device : Nat)
  | freeImage (block : Nat)
deriving DecidableEq, Repr

/-- A device that was handed out, and the open that did so. -/
structure OpenedDevice where
  number : Nat
  serial : String
  /-- The code that the open answered with. -/
  code : Int
deriving DecidableEq, Repr

/-- What is written into the ledger. -/
inductive VendorEvent where
  | entered (call : VendorCall)
  /-- A text was handed out. -/
  | textAllocated (block : Nat)
  /-- A text was freed. -/
  | textFreed (block : Nat)
  /-- An image buffer was handed out. -/
  | imageAllocated (block : Nat)
  /-- A device was handed out. -/
  | deviceOpened (device : OpenedDevice)
deriving DecidableEq, Repr

/-- A block that the library handed out, and what it holds. -/
structure Block where
  number : Nat
  content : Bytes
deriving DecidableEq, Repr

/-- The vendor's library. -/
structure Vendor where
  /-- The answers to come. -/
  script : List VendorAnswer := []
  /-- Devices handed out so far; the next one gets this number. -/
  devices : Nat := 0
  /-- Blocks handed out so far; the next one gets this number. -/
  blocks : Nat := 0
  /-- The ledger, the latest entry first. -/
  ledger : List VendorEvent := []

namespace Vendor

/-- Writes into the ledger. -/
def note (v : Vendor) (e : VendorEvent) : Vendor := { v with ledger := e :: v.ledger }

/-- Hands out a block. -/
def allocate (v : Vendor) (content : Bytes) (event : Nat → VendorEvent) : Block × Vendor :=
  (⟨v.blocks, content⟩, { v.note (event v.blocks) with blocks := v.blocks + 1 })

/-- Hands out a text, if there is one. -/
def allocateText (v : Vendor) : Option Bytes → Option Block × Vendor
  | none => (none, v)
  | some content =>
      let (block, v) := v.allocate content .textAllocated
      (some block, v)

/-- Hands out an image buffer, if there is one. -/
def allocateImage (v : Vendor) : Option Bytes → Option Block × Vendor
  | none => (none, v)
  | some content =>
      let (block, v) := v.allocate content .imageAllocated
      (some block, v)

/-- Hands out a device, if an answer to an open has one. -/
def handOver (v : Vendor) (serial : String) (a : VendorAnswer) : Option Nat × Vendor :=
  if a.device then
    let device : OpenedDevice := { number := v.devices, serial, code := a.code }
    (some device.number, { v.note (.deviceOpened device) with devices := v.devices + 1 })
  else (none, v)

/-- A call enters; gives the answer that is next in the script. -/
def enter (v : Vendor) (call : VendorCall) : VendorAnswer × Vendor :=
  (v.script.headD {}, { v.note (.entered call) with script := v.script.drop 1 })

-- =========================================================== entry points

/-- Opens a device: a code, the device and an error text. -/
def openDevice (v : Vendor) (serial : String) : Int × Option Nat × Option Block × Vendor :=
  let (a, v) := v.enter (.openDevice serial)
  let (device, v) := v.handOver serial a
  let (error, v) := v.allocateText a.error
  (a.code, device, error, v)

/-- Reads a feature: a code, the value and an error text. -/
def getValue (v : Vendor) (device : Nat) (feature : String) :
    Int × Option Block × Option Block × Vendor :=
  let (a, v) := v.enter (.getValue device feature)
  let (value, v) := v.allocateText a.out
  let (error, v) := v.allocateText a.error
  (a.code, value, error, v)

/-- Writes a feature: a code and an error text. -/
def setValue (v : Vendor) (device : Nat) (feature value : String) : Int × Option Block × Vendor :=
  let (a, v) := v.enter (.setValue device feature value)
  let (error, v) := v.allocateText a.error
  (a.code, error, v)

/-- Grabs an image: a code, the buffer, its size and an error text. -/
def getImage (v : Vendor) (device : Nat) (format : String) :
    Int × Option Block × Int × Option Block × Vendor :=
  let (a, v) := v.enter (.getImage device format)
  let (image, v) := v.allocateImage a.out
  let (error, v) := v.allocateText a.error
  let size := a.size.getD ((a.out.map (·.length)).getD 0 : Nat)
  (a.code, image, size, error, v)

/-- Closes a device. -/
def closeDevice (v : Vendor) (device : Nat) : Vendor := (v.enter (.closeDevice device)).2

/-- Takes an image buffer back. -/
def freeImage (v : Vendor) (image : Block) : Vendor :=
  v.note (.entered (.freeImage image.number))

/-- Frees a text. -/
def freeText (v : Vendor) (text : Block) : Vendor := v.note (.textFreed text.number)

end Vendor

end CameraDriver
