/-
What a camera library offers: a connection to a device is opened and closed,
features are read and written as texts over it, and images are grabbed into
buffers that go back to the library.

A camera is a state that each call answers from and changes. Nothing else is
asked of it, so a call may answer anything.
-/
import CameraDriver.DeviceId
import CameraDriver.Hardware.Signal
import CameraDriver.Text.Utf8

namespace CameraDriver

/-- A camera library with the states `σ`, whose open connections are held by
handles `H` and whose image buffers are held by frames `F`. -/
class Camera (σ : Type) (H F : outParam Type) where
  /-- Opens a device. -/
  openDevice : DeviceId → σ → Except HardwareError H × σ
  /-- Reads a feature. -/
  readFeature : H → (feature : String) → σ → Except HardwareError String × σ
  /-- Writes a feature. -/
  writeFeature : H → (feature value : String) → σ → Except HardwareError Unit × σ
  /-- Grabs an image in a format. -/
  grabImage : H → (format : String) → σ → Except HardwareError F × σ
  /-- The bytes of an image. -/
  frameBytes : F → Bytes
  /-- Gives an image buffer back. -/
  freeImage : F → σ → σ
  /-- Closes a device. -/
  closeDevice : H → σ → σ

end CameraDriver
