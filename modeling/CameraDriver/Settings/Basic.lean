/-
The settings a driver process starts with: what they are, their defaults,
which are refused, and how a JSON value gives them.
-/
import CameraDriver.Device.Basic
import CameraDriver.Error
import CameraDriver.Json.Decode
import CameraDriver.Text.Blank

namespace CameraDriver

open Number

/-- The greatest 64-bit natural number. -/
def maxNatural64 : Nat := 18446744073709551615

/-- The greatest 32-bit natural number. -/
def maxNatural32 : Nat := 4294967295

/-- The `logging` section. -/
structure LoggingConfig where
  level : String := "info"
  showTarget : Bool := true
deriving DecidableEq, Repr

/-- The `driver` section. -/
structure DriverConfig where
  /-- Pause before each reconnect attempt. -/
  reconnectIntervalMs : Nat := 5000
  /-- Reconnect attempts before a device is left disconnected. -/
  maxRetryTimes : Nat := 100
  /-- Deadline of one image upload. -/
  publishTimeoutMs : Nat := 30000
  /-- Image format a new device starts with. -/
  defaultImageFormat : String := "jpeg"
  /-- Where the vendor library lies. -/
  libraryPath : String := "../bin/librcapi.so"
deriving DecidableEq, Repr

/-- All settings. -/
structure Config where
  logging : LoggingConfig := {}
  driver : DriverConfig := {}
deriving DecidableEq, Repr

/-- Refuses what the driver cannot run with. -/
def DriverConfig.validate (c : DriverConfig) : Except CoreError Unit :=
  if c.reconnectIntervalMs = 0 then
    .error (.config "driver.reconnect_interval_ms must be positive")
  else if c.publishTimeoutMs = 0 then
    .error (.config "driver.publish_timeout_ms must be positive")
  else .ok ()

/-- What a client runs with. -/
structure ClientSettings where
  reconnectIntervalMs : Nat
  maxRetry : Nat
  publishTimeoutMs : Nat
  imageFormat : ImageFormat
deriving DecidableEq, Repr

/-- The settings that the `driver` section gives. -/
def ClientSettings.ofConfig (c : DriverConfig) : Except DriverError ClientSettings :=
  let format := Text.trim c.defaultImageFormat
  match ImageFormat.ofName? format with
  | none => .error (.core (.config ("unsupported default image format: " ++ format)))
  | some imageFormat => .ok
      { reconnectIntervalMs := c.reconnectIntervalMs
        maxRetry := c.maxRetryTimes
        publishTimeoutMs := c.publishTimeoutMs
        imageFormat }

/-- The settings of the default configuration. -/
def ClientSettings.default : ClientSettings :=
  let c : DriverConfig := {}
  { reconnectIntervalMs := c.reconnectIntervalMs
    maxRetry := c.maxRetryTimes
    publishTimeoutMs := c.publishTimeoutMs
    imageFormat := .jpeg }

-- ============================================================= as JSON

/-- The `logging` section as JSON. -/
def LoggingConfig.encode (c : LoggingConfig) : Json :=
  .object [("level", .str c.level), ("show_target", .bool c.showTarget)]

/-- The `driver` section as JSON. -/
def DriverConfig.encode (c : DriverConfig) : Json :=
  .object
    [("reconnect_interval_ms", .int c.reconnectIntervalMs),
     ("max_retry_times", .int c.maxRetryTimes),
     ("publish_timeout_ms", .int c.publishTimeoutMs),
     ("default_image_format", .str c.defaultImageFormat),
     ("library_path", .str c.libraryPath)]

/-- All settings as JSON. -/
def Config.encode (c : Config) : Json :=
  .object [("logging", c.logging.encode), ("driver", c.driver.encode)]

/-- The names of the `logging` section's fields. -/
def LoggingConfig.fields : List String := ["level", "show_target"]

/-- The names of the `driver` section's fields. -/
def DriverConfig.fields : List String :=
  ["reconnect_interval_ms", "max_retry_times", "publish_timeout_ms", "default_image_format",
   "library_path"]

/-- The names of the sections. -/
def Config.fields : List String := ["logging", "driver"]

/-- Reads the `logging` section from JSON. -/
def LoggingConfig.decode : Json → Except Json.Misfit LoggingConfig :=
  Json.asRecord "struct LoggingConfig" LoggingConfig.fields
    (fun name j c => match name with
      | "level" => do return { c with level := ← j.asText "a string" }
      | "show_target" => do return { c with showTarget := ← j.asBool }
      | _ => .ok c) {}

/-- Reads the `driver` section from JSON. -/
def DriverConfig.decode : Json → Except Json.Misfit DriverConfig :=
  Json.asRecord "struct DriverConfig" DriverConfig.fields
    (fun name j c => match name with
      | "reconnect_interval_ms" =>
          do return { c with reconnectIntervalMs := ← j.asNatural "u64" maxNatural64 }
      | "max_retry_times" => do return { c with maxRetryTimes := ← j.asNatural "u32" maxNatural32 }
      | "publish_timeout_ms" =>
          do return { c with publishTimeoutMs := ← j.asNatural "u64" maxNatural64 }
      | "default_image_format" => do return { c with defaultImageFormat := ← j.asText "a string" }
      | "library_path" => do return { c with libraryPath := ← j.asText "path string" }
      | _ => .ok c) {}

/-- Reads all settings from JSON. -/
def Config.decode : Json → Except Json.Misfit Config :=
  Json.asRecord "struct Config" Config.fields
    (fun name j c => match name with
      | "logging" => do return { c with logging := ← LoggingConfig.decode j }
      | "driver" => do return { c with driver := ← DriverConfig.decode j }
      | _ => .ok c) {}

end CameraDriver
