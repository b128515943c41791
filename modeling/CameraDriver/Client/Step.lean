/-
Everything that can happen to a client, one step at a time: the calls of its
users, and the steps of its devices' tasks.
-/
import CameraDriver.Client.Basic
import CameraDriver.Device.Step

namespace CameraDriver

/-- What the devices of a client wait for, as its settings say. -/
def ClientSettings.pace (s : ClientSettings) : Site.Pace :=
  { interval := s.reconnectIntervalMs, timeout := s.publishTimeoutMs }

namespace Client

/-- One thing that happens to a client. -/
inductive Step where
  | initDevice (common : Option Bytes)
  | setConfig (blobs : Blobs)
  | readDeviceData (blobs : Blobs)
  | writeDeviceData (value : Value) (blobs : Blobs)
  | getDeviceStatus (blobs : Blobs)
  | stop (id : DeviceId)
  | stopDevice
  /-- A step of a known device. -/
  | device (id : DeviceId) (step : Site.Step)

variable {σ H F : Type} [Camera σ H F]

/-- Takes a step. -/
def apply (c : Client σ H F) : Step → Client σ H F
  | .initDevice common => (c.initDevice common).2
  | .setConfig blobs => (c.setConfig blobs).2
  | .readDeviceData blobs => (c.readDeviceData blobs).2
  | .writeDeviceData value blobs => (c.writeDeviceData value blobs).2
  | .getDeviceStatus _ => c
  | .stop id => (c.stop id).2
  | .stopDevice => c.stopDevice
  | .device id step => c.onDevice id fun s => s.apply c.settings.pace step

/-- Takes steps one after the other. -/
def run (c : Client σ H F) (steps : List Step) : Client σ H F := steps.foldl apply c

end Client

end CameraDriver
