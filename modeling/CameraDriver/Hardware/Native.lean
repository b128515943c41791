/-
The camera that the vendor's library is bound to.

A text that holds a NUL byte cannot be passed to the library, so such a call
fails before it enters. Texts that the library hands out end at their first
NUL, are read as UTF-8 with replacement, and are freed at once. A call whose
code is not 0 has failed; one that reports success without a device has too.
-/
import CameraDriver.Error
import CameraDriver.Hardware.Camera
import CameraDriver.Hardware.Vendor
import CameraDriver.Number.Layout

namespace CameraDriver.Native

open Number

/-- An image buffer of the library, and how many of its bytes count. -/
structure Frame where
  image : Option Block
  size : Nat
deriving DecidableEq, Repr

/-- The bytes of an image. -/
def Frame.bytes (f : Frame) : Bytes :=
  match f.image with
  | some image => image.content.take f.size
  | none => []

-- ================================================================ loading

/-- The entry points, in the order they are looked up. -/
def entryPoints : List String :=
  ["open_device", "get_value", "set_value", "get_image", "close_device", "free_image"]

/-- Why the library is not usable. -/
inductive LoadFailure where
  | notLoaded (path : String)
  | missing (entryPoint : String)
deriving DecidableEq, Repr

/-- The wording of a failure. -/
def LoadFailure.message : LoadFailure → String
  | .notLoaded path => "failed to load " ++ path
  | .missing entryPoint => "missing symbol " ++ entryPoint

/-- Looks up the entry points of a library that offers some. -/
def resolve (offers : String → Bool) : Except LoadFailure Unit :=
  match entryPoints.find? (!offers ·) with
  | some entryPoint => .error (.missing entryPoint)
  | none => .ok ()

-- ================================================================== texts

/-- A text with a NUL byte, which ends there for the library. -/
def HoldsNul (text : String) : Prop := Char.ofNat 0 ∈ text.toList

instance (text : String) : Decidable (HoldsNul text) := inferInstanceAs (Decidable (_ ∈ _))

/-- A text that can be passed to the library. -/
def passable (what text : String) : Except HardwareError String :=
  if HoldsNul text then .error (.soft (what ++ " contains a NUL byte"))
  else .ok text

/-- Reads a text of the library and frees it; none reads as the empty text. -/
def takeText (v : Vendor) : Option Block → String × Vendor
  | none => ("", v)
  | some block => (Text.Utf8.decodeLossy (block.content.takeWhile (· ≠ 0)), v.freeText block)

/-- The failure of a call that entered the library. -/
def failure (code : Int) (message : String) : HardwareError :=
  if code = 0 then .hard ("library reported success without a result: " ++ message)
  else .ofCode code message

-- ================================================================== calls

/-- Gives an image buffer back, if there is one. -/
def freeImage (f : Frame) (v : Vendor) : Vendor :=
  match f.image with
  | some image => v.freeImage image
  | none => v

/-- Opens a device. -/
def openDevice (id : DeviceId) (v : Vendor) : Except HardwareError Nat × Vendor :=
  match passable "device serial number" id.text with
  | .error e => (.error e, v)
  | .ok serial =>
      let (code, device, error, v) := v.openDevice serial
      let (message, v) := takeText v error
      match device with
      | some device => (if code = 0 then .ok device else .error (failure code message), v)
      | none => (.error (failure code message), v)

/-- Reads a feature. -/
def readFeature (device : Nat) (feature : String) (v : Vendor) :
    Except HardwareError String × Vendor :=
  match passable "feature name" feature with
  | .error e => (.error e, v)
  | .ok feature =>
      let (code, value, error, v) := v.getValue device feature
      let (value, v) := takeText v value
      let (message, v) := takeText v error
      (if code = 0 then .ok value else .error (failure code message), v)

/-- Writes a feature. -/
def writeFeature (device : Nat) (feature value : String) (v : Vendor) :
    Except HardwareError Unit × Vendor :=
  match passable "feature name" feature, passable "feature value" value with
  | .error e, _ => (.error e, v)
  | .ok _, .error e => (.error e, v)
  | .ok feature, .ok value =>
      let (code, error, v) := v.setValue device feature value
      let (message, v) := takeText v error
      (if code = 0 then .ok () else .error (failure code message), v)

/-- Grabs an image. The buffer of a failed call goes back at once. -/
def grabImage (device : Nat) (format : String) (v : Vendor) : Except HardwareError Frame × Vendor :=
  match passable "image format" format with
  | .error e => (.error e, v)
  | .ok format =>
      let (code, image, size, error, v) := v.getImage device format
      let (message, v) := takeText v error
      let frame : Frame := { image, size := size.toNat }
      if code = 0 then (.ok frame, v) else (.error (failure code message), freeImage frame v)

/-- Closes a device. -/
def closeDevice (device : Nat) (v : Vendor) : Vendor := v.closeDevice device

instance : Camera Vendor Nat Frame where
  openDevice := openDevice
  readFeature := readFeature
  writeFeature := writeFeature
  grabImage := grabImage
  frameBytes := Frame.bytes
  freeImage := freeImage
  closeDevice := closeDevice

end CameraDriver.Native
