/-
The client: any number of devices on one camera, and the configuration that
names the device and the feature of a call.

Every call but a status query first merges its blobs into the stored
configuration. A device is known from the first call whose configuration
names it.
-/
import CameraDriver.Device.Feature
import CameraDriver.Registry
import CameraDriver.Settings.Basic
import CameraDriver.Store.Merge

namespace CameraDriver

/-- A client on a camera. -/
structure Client (σ H F : Type) where
  settings : ClientSettings
  store : Store := {}
  camera : σ
  devices : Registry (Device H F) := {}

namespace Client

variable {σ H F : Type} [Camera σ H F]

/-- The name of the protocol that a client speaks. -/
def protocolName : String := "GigEVision"

-- ================================================================ devices

/-- Does something with a device; nothing if it is not known. -/
def atDevice? (c : Client σ H F) (id : DeviceId) (f : Site σ H F → α × Site σ H F) :
    Option α × Client σ H F :=
  match c.devices.get? id with
  | none => (none, c)
  | some device =>
      let (a, site) := f { camera := c.camera, device }
      (some a, { c with camera := site.camera, devices := c.devices.insert id site.device })

/-- Changes a device; nothing if it is not known. -/
def onDevice (c : Client σ H F) (id : DeviceId) (f : Site σ H F → Site σ H F) : Client σ H F :=
  (c.atDevice? id fun s => ((), f s)).2

/-- Makes a device known, with the client's settings, unless it is. -/
def register (c : Client σ H F) (id : DeviceId) : Client σ H F :=
  let (_, _, devices) := c.devices.getOrInsert id
    (Device.fresh id c.settings.imageFormat c.settings.maxRetry)
  { c with devices }

/-- The status of a device. -/
def status? (c : Client σ H F) (id : DeviceId) : Option Status :=
  (c.devices.get? id).map (·.status)

/-- The copy of a device's state. -/
def snapshot? (c : Client σ H F) (id : DeviceId) : Option Snapshot :=
  (c.devices.get? id).map (·.snapshot)

/-- The copies of all devices' states, in ascending order of identifiers. -/
def snapshots (c : Client σ H F) : List Snapshot :=
  c.devices.entries.map fun (_, d) => d.snapshot

-- ========================================================== configuration

/-- Merges the blobs of a call. -/
def merge (c : Client σ H F) (blobs : Blobs) : Except DriverError (Configuration × Client σ H F) :=
  match c.store.merge blobs with
  | .ok (configuration, _, store) => .ok (configuration, { c with store })
  | .error e => .error e

/-- Makes the device that a configuration targets known, and records the
feature that is targeted. -/
def target (c : Client σ H F) (configuration : Configuration) :
    Except DriverError DeviceId × Client σ H F :=
  match configuration.deviceId with
  | .error e => (.error e, c)
  | .ok id =>
      let c := (c.register id).onDevice id fun s =>
        s.onDevice (·.modifyRecord ({ · with activeFeature := configuration.featureName }))
      (.ok id, c)

-- ================================================================== calls

/-- Merges the common part and starts to connect the device that it names.
Gives the device, and the link task if one was started. -/
def initDevice (c : Client σ H F) (common : Option Bytes) :
    Except DriverError (DeviceId × Option Token) × Client σ H F :=
  match c.merge { common } with
  | .error e => (.error e, c)
  | .ok (configuration, c) =>
      match configuration.deviceId with
      | .error e => (.error e, c)
      | .ok id =>
          let (token, c) := (c.register id).atDevice? id Site.beginConnect
          (.ok (id, token.join), c)

/-- Merges the blobs. A configuration that names no device yet is fine. -/
def setConfig (c : Client σ H F) (blobs : Blobs) : Except DriverError Unit × Client σ H F :=
  match c.merge blobs with
  | .error e => (.error e, c)
  | .ok (configuration, c) =>
      match c.target configuration with
      | (.error .missingDeviceId, c) => (.ok (), c)
      | (.error e, c) => (.error e, c)
      | (.ok _, c) => (.ok (), c)

/-- Merges the blobs and does something with the device that is targeted. -/
def onTarget (c : Client σ H F) (blobs : Blobs)
    (f : (feature : String) → Site σ H F → Except DriverError α × Site σ H F) :
    Except DriverError α × Client σ H F :=
  match c.merge blobs with
  | .error e => (.error e, c)
  | .ok (configuration, c) =>
      match c.target configuration with
      | (.error e, c) => (.error e, c)
      | (.ok id, c) =>
          match c.atDevice? id (f configuration.featureName) with
          | (some result, c) => (result, c)
          | (none, c) => (.error (.unknownDevice id), c)

/-- Reads the feature that the merged configuration targets. -/
def readDeviceData (c : Client σ H F) (blobs : Blobs) :
    Except DriverError Value × Client σ H F :=
  c.onTarget blobs Site.read

/-- Writes the feature that the merged configuration targets. -/
def writeDeviceData (c : Client σ H F) (value : Value) (blobs : Blobs) :
    Except DriverError Unit × Client σ H F :=
  c.onTarget blobs fun feature s => s.write feature value

/-- Whether the device that the merged configuration would target is
connected. Nothing is stored. -/
def getDeviceStatus (c : Client σ H F) (blobs : Blobs) : Bool :=
  match c.store.preview blobs with
  | .error _ => false
  | .ok configuration =>
      match configuration.deviceId with
      | .error _ => false
      | .ok id => ((c.status? id).map Status.isConnected).getD false

/-- Disconnects one device. -/
def stop (c : Client σ H F) (id : DeviceId) : Except DriverError Unit × Client σ H F :=
  match c.devices.get id with
  | .error e => (.error e, c)
  | .ok _ => (.ok (), c.onDevice id Site.stop)

/-- Disconnects every device. -/
def stopDevice (c : Client σ H F) : Client σ H F :=
  c.devices.ids.foldl (fun c id => c.onDevice id Site.stop) c

end Client

end CameraDriver
