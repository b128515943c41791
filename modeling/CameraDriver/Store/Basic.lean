/-
The configuration that calls carry: three parts, each a record of named
fields. The common part names the device, the visitor part the feature, and
the protocol part holds settings that the driver does not look into.
-/
import CameraDriver.Error
import CameraDriver.Json.Decode
import CameraDriver.Text.Blank

namespace CameraDriver

/-- The common part. -/
structure CommonConfig where
  /-- Serial number of the device that a call targets. -/
  deviceSerial : String := ""
deriving DecidableEq, Repr

/-- The visitor part. -/
structure VisitorConfig where
  protocolName : String := ""
  /-- The feature that a call targets. -/
  featureName : String := ""
deriving DecidableEq, Repr

/-- The protocol part. -/
structure ProtocolConfig where
  protocolName : String := ""
  configData : Json.Members := []

/-- The three parts, merged. -/
structure Configuration where
  common : CommonConfig := {}
  visitor : VisitorConfig := {}
  protocol : ProtocolConfig := {}

namespace Configuration

/-- The device that is targeted: the serial number without white space
around it. -/
def deviceId (c : Configuration) : Except DriverError DeviceId :=
  let serial := Text.trim c.common.deviceSerial
  if serial.isEmpty then .error .missingDeviceId else .ok ⟨serial⟩

/-- The feature that is targeted. -/
def featureName (c : Configuration) : String := c.visitor.featureName

end Configuration

-- ============================================================== encoding

/-- The common part as JSON. -/
def CommonConfig.encode (c : CommonConfig) : Json :=
  .object [("customizedValues", .object [("deviceSN", .str c.deviceSerial)])]

/-- The visitor part as JSON. -/
def VisitorConfig.encode (c : VisitorConfig) : Json :=
  .object
    [("protocolName", .str c.protocolName),
     ("configData", .object [("FeatureName", .str c.featureName)])]

/-- The protocol part as JSON. -/
def ProtocolConfig.encode (c : ProtocolConfig) : Json :=
  .object [("protocolName", .str c.protocolName), ("configData", .obj c.configData)]

-- ============================================================== decoding

/-- Reads the values inside the common part. -/
def CommonConfig.decodeValues : Json → Except Json.Misfit CommonConfig :=
  Json.asRecord "struct CommonCustomizedValues" ["deviceSN"]
    (fun name j c => match name with
      | "deviceSN" => do return { c with deviceSerial := ← j.asText "a string" }
      | _ => .ok c) {}

/-- Reads the common part. -/
def CommonConfig.decode : Json → Except Json.Misfit CommonConfig :=
  Json.asRecord "struct CommonConfig" ["customizedValues"]
    (fun name j c => match name with
      | "customizedValues" => CommonConfig.decodeValues j
      | _ => .ok c) {}

/-- Reads the feature name inside the visitor part. -/
def VisitorConfig.decodeData : Json → Except Json.Misfit String :=
  Json.asRecord "struct VisitorConfigData" ["FeatureName"]
    (fun name j c => match name with
      | "FeatureName" => j.asText "a string"
      | _ => .ok c) ""

/-- Reads the visitor part. -/
def VisitorConfig.decode : Json → Except Json.Misfit VisitorConfig :=
  Json.asRecord "struct VisitorConfig" ["protocolName", "configData"]
    (fun name j c => match name with
      | "protocolName" => do return { c with protocolName := ← j.asText "a string" }
      | "configData" => do return { c with featureName := ← VisitorConfig.decodeData j }
      | _ => .ok c) {}

/-- Reads the settings of the protocol part, which are kept as they are. -/
def ProtocolConfig.decodeData : Json → Except Json.Misfit Json.Members
  | .obj members => .ok members
  | j => j.misfit "a map"

/-- Reads the protocol part. -/
def ProtocolConfig.decode : Json → Except Json.Misfit ProtocolConfig :=
  Json.asRecord "struct ProtocolConfig" ["protocolName", "configData"]
    (fun name j c => match name with
      | "protocolName" => do return { c with protocolName := ← j.asText "a string" }
      | "configData" => do return { c with configData := ← ProtocolConfig.decodeData j }
      | _ => .ok c) {}

end CameraDriver
